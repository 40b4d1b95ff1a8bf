import Modeset.Proofs.Operation

/-!
# What an operation that fails has done

A detection or a change of mode sets a CRTC as its last step but one: all that comes after is to
look whether the framebuffer has a number, and to give up the one before it. So an operation that
fails has set no CRTC, but for one exception. The number 0 stands for no framebuffer, and a device
that hands it out all the same lets the CRTC be set before this is noticed.

## Main definitions

* `Event.programmed`, `Event.numbered` — the framebuffer that a CRTC is set to, and the one that the
  device has made
* `Backed` — CRTCs are set to new framebuffers, and just if all goes well to proper ones

## Main results

* `Output.ScanOut.backed`, `Output.Committed.backed`, `Output.Discovered.backed` — the procedures
  keep to this
* `Manager.backed_of_run` — so do detections and changes of mode
-/

namespace Modeset

variable {events others : List (Event Platform)} {succeeds : Bool}

namespace Event

/-- The number of the framebuffer that a CRTC has been set to read out. -/
def programmed (event : Event Platform) : Option UInt32 :=
  match event with
  | ⟨.inl (.kms (.setCrtc _ framebuffer ..)), .ok _⟩ => some framebuffer
  | _ => none

/-- The number that the device has given a new framebuffer, null or not. -/
def numbered (event : Event Platform) : Option UInt32 :=
  match event with
  | ⟨.inl (.kms (.addFramebuffer _)), .ok id⟩ => some id
  | _ => none

theorem IsSteady.programmed_eq_none {event : Event Platform} (steady : event.IsSteady) :
    event.programmed = none := by
  obtain ⟨call, answer, hcall, rfl⟩ := steady
  cases call with
  | setCrtc => cases hcall
  | _ => rfl

end Event

/-- The framebuffers that CRTCs are set to read out have been made on the way, and what is done
fails just if such a framebuffer has got the number 0. -/
def Backed (events : List (Event Platform)) (succeeds : Bool) : Prop :=
  ∀ framebuffer ∈ events.filterMap Event.programmed,
    framebuffer ∈ events.filterMap Event.numbered ∧ (succeeds = false ↔ framebuffer = 0)

/-- No CRTC is set. -/
def Quiet (events : List (Event Platform)) : Prop := events.filterMap Event.programmed = []

namespace Quiet

theorem of_isSteady (steady : ∀ event ∈ events, event.IsSteady) : Quiet events :=
  List.filterMap_eq_nil_iff.mpr fun event member => (steady event member).programmed_eq_none

theorem of_isRead (asks : ∀ event ∈ events, event.IsRead) : Quiet events :=
  of_isSteady fun event member => (asks event member).isSteady

theorem backed (quiet : Quiet events) : Backed events succeeds := by
  intro framebuffer programmed
  rw [quiet] at programmed
  cases programmed

end Quiet

theorem Framebuffer.Retired.quiet {framebuffer : Option Framebuffer}
    (retired : Retired framebuffer events) : Quiet events := by
  cases retired <;> rfl

theorem Pending.Dropped.quiet {pending : Pending} (dropped : pending.Dropped events) :
    Quiet events := by
  cases dropped <;> rfl

namespace Backed

/-- What is done before without setting a CRTC does not matter. -/
theorem after (backed : Backed events succeeds) (quiet : Quiet others) :
    Backed (others ++ events) succeeds := by
  intro framebuffer programmed
  rw [List.filterMap_append, quiet, List.nil_append] at programmed
  obtain ⟨numbered, outcome⟩ := backed framebuffer programmed
  rw [List.filterMap_append]
  exact ⟨List.mem_append_right _ numbered, outcome⟩

/-- What is done behind without setting a CRTC does not matter. -/
theorem before (backed : Backed events succeeds) (quiet : Quiet others) :
    Backed (events ++ others) succeeds := by
  intro framebuffer programmed
  rw [List.filterMap_append, quiet, List.append_nil] at programmed
  obtain ⟨numbered, outcome⟩ := backed framebuffer programmed
  rw [List.filterMap_append]
  exact ⟨List.mem_append_left _ numbered, outcome⟩

end Backed

namespace Output

variable {config : Config} {slot : Slot} {mode : Mode}

theorem ScanOut.backed {crtc connector : UInt32} {result : Except Error Framebuffer}
    (scanned : ScanOut config crtc connector mode events result) : Backed events result.isOk := by
  cases scanned with
  | noMemory | nullMemory | refused => exact Quiet.backed rfl
  | unset buffer memory id fault dropped =>
    -- The CRTC has refused, and what is given up then is not shown by any.
    exact Quiet.backed dropped.quiet
  | setNull buffer memory =>
    intro framebuffer programmed
    obtain rfl : framebuffer = 0 := List.mem_singleton.mp programmed
    exact ⟨List.mem_singleton_self _, by simp [Except.isOk, Except.toBool]⟩
  | bound buffer memory id made =>
    intro framebuffer programmed
    obtain rfl : framebuffer = id := List.mem_singleton.mp programmed
    exact ⟨List.mem_singleton_self _, by simp [Except.isOk, Except.toBool, made]⟩

theorem Committed.backed {output after : Output} {result : Except Error Unit}
    (commit : Committed config output mode events (result, after)) : Backed events result.isOk := by
  cases commit with
  | unchanged | unbound => exact Quiet.backed rfl
  | failed unsatisfied hcrtc hconnector scanned => exact scanned.backed
  | set unsatisfied hcrtc hconnector scanned retired => exact scanned.backed.before retired.quiet

theorem Discovered.backed {output after : Output} {result : Except Error Outcome}
    (discovery : Discovered config slot output events (result, after)) :
    Backed events result.isOk := by
  cases discovery with
  | unlisted fault => exact Quiet.backed rfl
  | unresolved asks | unplugged asks => exact (Quiet.of_isRead asks).backed
  | adopted found | modeless found => exact (Quiet.of_isRead found.asks).backed
  | @committed _ _ _ _ _ found stopped _ preferred outcome _ commit =>
    have result_isOk :
        (outcome.map fun () => Outcome.connected after.mode).isOk = outcome.isOk := by
      cases outcome <;> rfl
    rw [result_isOk]
    exact commit.backed.after (Quiet.of_isRead found.asks)

/-- A mode that cannot be committed is not put down to a missing object. -/
theorem Committed.isUnresolved_of_error {output after : Output} {error : Error}
    (commit : Committed config output mode events (.error error, after)) :
    error.isUnresolved = false := by
  cases commit with
  | unbound => rfl
  | failed unsatisfied hcrtc hconnector scanned => cases scanned <;> rfl

/-- If an object is missing, no CRTC is set. -/
theorem Discovered.quiet_of_isUnresolved {output after : Output} {error : Error}
    (discovery : Discovered config slot output events (.error error, after))
    (unresolved : error.isUnresolved = true) : Quiet events := by
  generalize hresult : ((.error error, after) : Except Error Outcome × Output) = result
    at discovery
  cases discovery with
  | unplugged | adopted => cases hresult
  | unlisted fault => exact .of_isRead (by simpa using Event.isRead_kms rfl)
  | unresolved asks => exact .of_isRead asks
  | modeless found => exact .of_isRead found.asks
  | @committed _ _ _ _ _ _ _ _ _ outcome _ commit =>
    cases outcome with
    | ok => cases hresult
    | error =>
      cases hresult
      rw [commit.isUnresolved_of_error] at unresolved
      cases unresolved

end Output

namespace Manager

variable {manager after : Manager} {slot : Slot}

theorem Detected.backed {result : Except Error Outcome}
    (detected : manager.Detected slot events (result, after)) : Backed events result.isOk := by
  cases detected with
  | found retired discovered => exact discovered.backed.after retired.quiet
  | @failed before events error output retired discovered =>
    -- That an object is missing for the external slot counts as success, but then nothing is set.
    by_cases disabled : slot = .external ∧ error.isUnresolved
    · have quiet := discovered.quiet_of_isUnresolved disabled.2
      exact Backed.after quiet.backed retired.quiet
    · rw [undetected, if_neg disabled]
      exact discovered.backed.after retired.quiet

theorem Changed.backed {device : UInt32} {exact : Mode → Mode → Bool} {result : Except Error Unit}
    (changed : manager.Changed device exact events (result, after)) :
    Backed events result.isOk := by
  cases changed with
  | shut | misaddressed | unplugged | modeless => exact Quiet.backed rfl
  | committed isOpen addressed plugged choice commit => exact commit.backed

theorem backed_of_run_detect {device : UInt32} {result : Except Error Outcome}
    (run : (manager.detect device).Run events (result, after)) : Backed events result.isOk := by
  rcases refused_or_detected_of_run run with ⟨rfl, -, -⟩ | ⟨-, slot, -, detected⟩
  · exact Quiet.backed rfl
  · exact detected.backed

/-- Whatever calls of a detection or of a change of mode fail: if the operation fails, it has set no
CRTC, unless the device has given the new framebuffer the number 0; and if a CRTC has been set all
the same, it has been set to the framebuffer 0. -/
theorem quiet_of_failed {device : UInt32} {error : Error}
    (failed : (manager.detect device).Run events (.error error, after) ∨
      (∃ wanted, (manager.setMode device wanted).Run events (.error error, after)) ∨
      ∃ hz, (manager.setRefreshRate device hz).Run events (.error error, after)) :
    (0 ∉ events.filterMap Event.numbered → Quiet events) ∧
      ∀ framebuffer ∈ events.filterMap Event.programmed, framebuffer = 0 := by
  have backed : Backed events false := by
    rcases failed with run | ⟨wanted, run⟩ | ⟨hz, run⟩
    · exact backed_of_run_detect run
    · exact (changed_of_run run).backed
    · exact (changed_of_run run).backed
  have null : ∀ framebuffer ∈ events.filterMap Event.programmed, framebuffer = 0 := by
    intro framebuffer programmed
    exact (backed framebuffer programmed).2.mp rfl
  refine ⟨fun unnumbered => ?_, null⟩
  refine List.eq_nil_iff_forall_not_mem.mpr fun framebuffer programmed => ?_
  obtain rfl := null framebuffer programmed
  exact unnumbered (backed 0 programmed).1

end Manager

namespace Session

/-- A change of mode on a device that gives the new framebuffer the number 0. -/
def unnumbered : List (Event Platform) :=
  [.allocated 64 48 (.ok ⟨8, 256⟩), .kms (.addFramebuffer ⟨64, 48, 256, 32, 24, 8⟩) (.ok 0),
    .kms (.setCrtc 40 0 0 0 [20] (some slow)) (.ok ()), .released 8]

theorem run_unnumbered :
    (manager.setMode 1 slow).Run unnumbered
      (.error (.modeCommit "framebuffer was not registered"), manager) :=
  Proc.replay_eq_some_iff.mp rfl

/-- The change fails, and the CRTC is set to the framebuffer 0 and to no other one. -/
theorem unnumbered_null :
    (0 ∉ unnumbered.filterMap Event.numbered → Quiet unnumbered) ∧
      ∀ framebuffer ∈ unnumbered.filterMap Event.programmed, framebuffer = 0 :=
  Manager.quiet_of_failed (.inr (.inl ⟨slow, run_unnumbered⟩))

/-- The change fails after the CRTC has been set to the new mode. -/
theorem failed_after_setting :
    History .default (opening ++ detection) manager ∧
      (manager.setMode 1 slow).Run unnumbered
        (.error (.modeCommit "framebuffer was not registered"), manager) ∧
      .kms (.setCrtc 40 0 0 0 [20] (some slow)) (.ok ()) ∈ unnumbered :=
  ⟨history, run_unnumbered, by simp [unnumbered]⟩

end Session

end Modeset
