import Modeset.Proofs.Kernel
import Modeset.Proofs.Operation

/-!
# Scanning out on a kernel

What the events of a commit do to the kernel that answers them. Bringing a new framebuffer to a CRTC
spares whatever was in use before on the other CRTCs, and on the CRTC itself too unless it succeeds.
If it succeeds, the CRTC reads the new framebuffer out in the new mode, and no other one does.
Giving a framebuffer up spares all other framebuffers.

## Main results

* `Event.IsSteady.spares` — calls that change neither framebuffers nor CRTCs spare everything
* `Output.ScanOut.spares`, `Framebuffer.Retired.spares` — what scanning out and giving up spare
* `Output.ScanOut.shown` — what the CRTC reads out in the end
-/

namespace Modeset

open Simulation (Kernel)
open Simulation.Kernel (Answers)

variable {kernel after : Kernel} {events : List (Event Platform)} {id framebuffer : UInt32}

theorem Event.IsSteady.spares {event : Event Platform} (steady : event.IsSteady) :
    event.Spares id framebuffer := by
  obtain ⟨call, answer, hcall, rfl⟩ := steady
  cases call with
  | removeFramebuffer | setCrtc => cases hcall
  | _ => trivial

theorem Framebuffer.Retired.spares {old : Option Framebuffer} (retired : Retired old events)
    (other : ∀ held ∈ old, held.id ≠ framebuffer) :
    ∀ event ∈ events, event.Spares id framebuffer := by
  cases retired with
  | none => simp
  | some old answer =>
    simpa using Event.spares_removed (other old rfl)

/-- When a framebuffer has been made of new memory, its number was not in use, and the CRTCs are
still as they were. -/
theorem Simulation.Kernel.of_follows_registered {width height : UInt32}
    {memory : Except Fault Buffer} {spec : FramebufferSpec}
    (path : Follows Answers kernel (.allocated width height memory ::
      .kms (.addFramebuffer spec) (.ok framebuffer) :: events) after) :
    framebuffer ≠ 0 ∧ ¬ kernel.InUse framebuffer ∧ ∃ next : Kernel,
      framebuffer ∈ next.framebuffers ∧ (∀ id, next.findCrtc id = kernel.findCrtc id) ∧
        Follows Answers next events after := by
  obtain ⟨_, allocation, next, registration, path⟩ := path
  cases allocation
  cases registration with
  | added nonzero fresh framebuffers crtcs =>
    refine ⟨nonzero, fresh, next, ?_, fun id => Kernel.findCrtc_congr crtcs, path⟩
    rw [framebuffers, Kernel.bear]
    split
    case isTrue known => exact known.resolve_left nonzero
    case isFalse => exact List.mem_append_right _ (List.mem_singleton_self _)
  | unrelated unrelated => cases unrelated

namespace Output

variable {config : Config} {crtc connector : UInt32} {mode : Mode}

namespace ScanOut

/-- Scanning out spares everything that was in use, but for the CRTC that it is about if it
succeeds. -/
theorem spares {result : Except Error Framebuffer}
    (scanned : ScanOut config crtc connector mode events result)
    (path : Follows Answers kernel events after) (inUse : kernel.InUse framebuffer)
    (spared : id ≠ crtc ∨ result.toOption = none) :
    ∀ event ∈ events, event.Spares id framebuffer := by
  cases scanned with
  | noMemory | nullMemory | refused => simp
  | @unset buffer memory new fault others dropped =>
    obtain ⟨-, fresh, -⟩ := Kernel.of_follows_registered path
    have new_ne : new ≠ framebuffer := fun same => fresh (same ▸ inUse)
    have drop : ∀ event ∈ others, event.Spares id framebuffer := by
      cases dropped with
      | unregistered => simp
      | registered made answer => simpa using Event.spares_removed new_ne
    simpa using ⟨trivial, drop⟩
  | setNull =>
    obtain ⟨nonzero, -, -⟩ := Kernel.of_follows_registered path
    exact absurd rfl nonzero
  | bound buffer memory new made =>
    obtain ⟨-, fresh, -⟩ := Kernel.of_follows_registered path
    have new_ne : new ≠ framebuffer := fun same => fresh (same ▸ inUse)
    have crtc_ne : crtc ≠ id := (spared.resolve_right nofun).symm
    simpa using ⟨crtc_ne, new_ne⟩

/-- After it has been scanned out, a new framebuffer is what the CRTC reads out. -/
theorem shown {new : Framebuffer}
    (scanned : ScanOut config crtc connector mode events (.ok new))
    (path : Follows Answers kernel events after) :
    ¬ kernel.InUse new.id ∧ new.id ∈ after.framebuffers ∧ after.Exclusive new.id crtc ∧
      ∃ shown, after.findCrtc crtc = .ok shown ∧ shown.bufferId = new.id ∧
        shown.modeValid = true ∧ shown.mode = mode := by
  cases scanned with
  | bound buffer memory id made =>
    obtain ⟨nonzero, fresh, next, alive, same, _, setting, rfl⟩ :=
      Kernel.of_follows_registered path
    cases setting with
    | unrelated unrelated => cases unrelated
    | @set _ _ _ _ _ left top _ _ set =>
      obtain ⟨before, found⟩ := Kernel.exists_of_setCrtc set
      refine ⟨fresh, ?_, ?_, Kernel.settle id left top (some mode) before, ?_, rfl, rfl, rfl⟩
      · rwa [Kernel.of_setCrtc set]
      · intro other found_crtc after_found reads
        -- Another CRTC has read it out before it was made, which is impossible.
        refine Classical.byContradiction fun other_ne => ?_
        rw [Kernel.findCrtc_setCrtc set] at after_found
        obtain ⟨old, was_found, rfl⟩ := Kernel.exists_of_map_eq_ok after_found
        rw [if_neg other_ne] at reads
        exact fresh (.inr ⟨other, old, same other ▸ was_found, reads⟩)
      · rw [Kernel.findCrtc_setCrtc set, found, Except.map, if_pos rfl]

end ScanOut

end Output

/-! ## The kernel of the session -/

namespace Session

/-- The kernel before the session. -/
def darkKernel : Kernel := { crtcs := [crtc] }

/-- The kernel after the session. -/
def litKernel : Kernel where
  crtcs := [Kernel.settle 100 0 0 (some native) crtc]
  framebuffers := [100]

theorem follows_opening : Follows Answers darkKernel opening darkKernel :=
  ⟨_, .opened darkKernel _ _, rfl⟩

theorem follows_detection : Follows Answers darkKernel detection litKernel := by
  have fresh : ¬ darkKernel.InUse 100 := Kernel.not_inUse (by decide) (by decide)
  have added : Answers darkKernel (.kms (.addFramebuffer ⟨64, 48, 256, 32, 24, 7⟩) (.ok 100))
      { darkKernel with framebuffers := [100] } :=
    .added (by decide) fresh rfl rfl
  exact ⟨_, .unrelated rfl rfl rfl, _, .unrelated rfl rfl rfl, _, .unrelated rfl rfl rfl, _,
    .described rfl, _, .allocated _ _ _ _, _, added, _, .set rfl, rfl⟩

end Session

end Modeset
