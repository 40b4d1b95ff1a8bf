import Modeset.Proofs.Operation

/-!
# Work on an open device

Between the opening and the closing of the node, the events of a manager are of a few kinds only:
memory is taken and given back, framebuffers are made and removed, CRTCs are set, and otherwise the
device is only asked, commanded or given a property. In particular, a manager never asks the device
for a plain buffer by itself.

## Main definitions

* `Event.IsWork`, `Works` — the events that there are while the node is open

## Main results

* `Output.ScanOut.works`, `Output.Committed.works`, `Output.Discovered.works` — the procedures keep
  to them
* `Manager.works_of_effect` — so does every operation that leaves the node open
-/

namespace Modeset

variable {config : Config} {slot : Slot} {events others : List (Event Platform)}

/-- What may happen while the node is open and stays open. -/
inductive Event.IsWork : Event Platform → Prop
  | steady {event : Event Platform} (steady : event.IsSteady) : IsWork event
  | allocated (width height : UInt32) (answer : Except Fault Buffer) :
      IsWork (.allocated width height answer)
  | released (handle : UInt32) : IsWork (.released handle)
  | added (spec : FramebufferSpec) (answer : Except Fault UInt32) :
      IsWork (.kms (.addFramebuffer spec) answer)
  | removed (id : UInt32) (answer : Except Fault Unit) :
      IsWork (.kms (.removeFramebuffer id) answer)
  | set (crtc framebuffer x y : UInt32) (connectors : List UInt32) (mode : Option Mode)
      (answer : Except Fault Unit) :
      IsWork (.kms (.setCrtc crtc framebuffer x y connectors mode) answer)

/-- The events are all of this kind. -/
def Works (events : List (Event Platform)) : Prop := ∀ event ∈ events, event.IsWork

theorem Works.append (first : Works events) (second : Works others) : Works (events ++ others) :=
  List.forall_mem_append.mpr ⟨first, second⟩

theorem works_of_isSteady (steady : ∀ event ∈ events, event.IsSteady) : Works events :=
  fun event member => .steady (steady event member)

theorem works_of_isRead (asks : ∀ event ∈ events, event.IsRead) : Works events :=
  works_of_isSteady fun event member => (asks event member).isSteady

theorem Framebuffer.Retired.works {framebuffer : Option Framebuffer}
    (retired : Retired framebuffer events) : Works events := by
  cases retired with
  | none => simp [Works]
  | some framebuffer answer => simpa [Works] using ⟨.removed _ _, .released _⟩

theorem Pending.Dropped.works {pending : Pending} (dropped : pending.Dropped events) :
    Works events := by
  cases dropped with
  | registered made answer => simpa [Works] using ⟨.removed _ _, .released _⟩
  | unregistered null => simpa [Works] using .released _

namespace Output

theorem ScanOut.works {crtc connector : UInt32} {mode : Mode} {result : Except Error Framebuffer}
    (scanned : ScanOut config crtc connector mode events result) : Works events := by
  cases scanned with
  | noMemory | nullMemory => simpa [Works] using .allocated _ _ _
  | refused => simpa [Works] using ⟨.allocated _ _ _, .added _ _, .released _⟩
  | unset buffer memory id fault dropped =>
    simpa [Works] using ⟨.allocated _ _ _, .added _ _, .set _ _ _ _ _ _ _, dropped.works⟩
  | setNull =>
    simpa [Works] using ⟨.allocated _ _ _, .added _ _, .set _ _ _ _ _ _ _, .released _⟩
  | bound => simpa [Works] using ⟨.allocated _ _ _, .added _ _, .set _ _ _ _ _ _ _⟩

theorem Committed.works {output last : Output} {mode : Mode} {result : Except Error Unit}
    (commit : Committed config output mode events (result, last)) : Works events := by
  cases commit with
  | unchanged | unbound => simp [Works]
  | failed _ _ _ scanned => exact scanned.works
  | set _ _ _ scanned retired => exact scanned.works.append retired.works

theorem Discovered.works {output last : Output} {result : Except Error Outcome}
    (discovery : Discovered config slot output events (result, last)) : Works events := by
  cases discovery with
  | unlisted => exact works_of_isRead (by simpa using Event.isRead_kms rfl)
  | unresolved asks | unplugged asks => exact works_of_isRead asks
  | adopted found | modeless found => exact works_of_isRead found.asks
  | committed found _ _ commit => exact (works_of_isRead found.asks).append commit.works

end Output

theorem Outputs.Retired.works {outputs : Outputs} (retired : outputs.Retired events) :
    Works events := by
  obtain ⟨first, second, primary, external, rfl⟩ := retired
  exact primary.works.append external.works

namespace Manager

variable {manager after : Manager}

theorem Detected.works {result : Except Error Outcome}
    (detected : manager.Detected slot events (result, after)) : Works events := by
  cases detected with
  | found retired discovered => exact retired.works.append discovered.works
  | failed retired discovered => exact retired.works.append discovered.works

/-- An operation that leaves the node open works with it. -/
theorem works_of_effect (effect : manager.Effect events after) (isOpen : manager.isOpen = true)
    (still : after.isOpen = true) : Works events := by
  cases effect with
  | steady steady => exact works_of_isSteady steady.isSteady
  | unopened shut | opened shut => simp [isOpen] at shut
  | closed => cases still
  | detected _ detected => exact detected.works
  | committed _ _ _ commit => exact commit.works

end Manager

end Modeset
