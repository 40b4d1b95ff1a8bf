import Modeset.Proofs.View

/-!
# Platforms that do not count

A platform that refuses a call for what is asked, and not for how often it has been asked before.
The device behaves as the scripted kernel. Numbers of framebuffers and handles of memory are handed
out in any order, as long as they are not in use, and since they tell how often a call has been
made, no refusal depends on them. A framebuffer that is alive can always be removed.

## Main definitions

* `Policy` — what a platform refuses
* `Platform.State` — a kernel, and the memory that has been taken
* `Policy.Answers` — an event leads from one state to another

## Main results

* `Policy.total` — every call can be answered in every state
* `Policy.observed` — the device describes what it shows
-/

namespace Modeset

open Proc
open Simulation (Kernel)

/-- What a platform refuses, and with which fault. -/
structure Policy where
  /-- The fault with which the device refuses a call, if it does. -/
  refusal : Kms.Call → Option Fault
  /-- The fault with which the pool refuses memory for a picture of some size, if it does. -/
  shortage : (width height : UInt32) → Option Fault
  /-- The fault if all numbers of framebuffers are in use. -/
  unnumbered : Fault
  /-- The fault if all memory has been taken. -/
  depleted : Fault
  /-- Which pitches the memory for a picture of some size may have. -/
  IsPitch : (width height pitch : UInt32) → Prop
  /-- One of these pitches. -/
  pitch : (width height : UInt32) → UInt32
  isPitch : ∀ width height, IsPitch width height (pitch width height)
  /-- Whether a framebuffer can be made does not depend on which memory it is made of. -/
  refusal_add : ∀ {width height pitch pitch' bpp depth handle handle'},
    IsPitch width height pitch → IsPitch width height pitch' → handle ≠ 0 → handle' ≠ 0 →
      refusal (.addFramebuffer ⟨width, height, pitch, bpp, depth, handle⟩) =
        refusal (.addFramebuffer ⟨width, height, pitch', bpp, depth, handle'⟩)
  /-- Whether a CRTC can be set does not depend on which number its framebuffer has got. -/
  refusal_set : ∀ {crtc id id' x y connectors mode}, id ≠ 0 → id' ≠ 0 →
    refusal (.setCrtc crtc id x y connectors mode) =
      refusal (.setCrtc crtc id' x y connectors mode)

/-- What stands behind a platform. -/
structure Platform.State where
  kernel : Kernel := {}
  /-- The handles of the memory that has been taken from the pool. -/
  taken : List UInt32 := []

namespace Policy

variable (policy : Policy)

/-- What is answered to a call that asks for a description. -/
def unlessRefused {α : Type} (call : Kms.Call) (answer : Except Fault α) : Except Fault α :=
  match policy.refusal call with
  | some fault => .error fault
  | none => answer

/-- What the device describes: what there is, as far as it does not refuse to. -/
def view (s : Platform.State) : View where
  resources := policy.unlessRefused .resources s.kernel.view.resources
  connector id := policy.unlessRefused (.connector id) (s.kernel.view.connector id)
  encoder id := policy.unlessRefused (.encoder id) (s.kernel.view.encoder id)
  crtc id := policy.unlessRefused (.crtc id) (s.kernel.view.crtc id)

/-- `policy.Answers s event t`: in the state `s` the platform may answer a call as the event says,
and is then in the state `t`. -/
inductive Answers (policy : Policy) : Platform.State → Event Platform → Platform.State → Prop
  | shown {s : Platform.State} {call : Kms.Call} {answer : Kms.Answer call}
      (told : (policy.view s).answer? call = some answer) : Answers policy s (.kms call answer) s
  /-- A new framebuffer gets a number that is not in use. -/
  | added {s : Platform.State} {spec : FramebufferSpec} {id : UInt32}
      (accepted : policy.refusal (.addFramebuffer spec) = none) (nonzero : id ≠ 0)
      (fresh : ¬ s.kernel.InUse id) (next : UInt32) :
      Answers policy s (.kms (.addFramebuffer spec) (.ok id))
        { s with
          kernel := { s.kernel with
            framebuffers := s.kernel.framebuffers ++ [id]
            nextFramebuffer := next } }
  | unadded {s : Platform.State} {spec : FramebufferSpec} {fault : Fault}
      (refused : policy.refusal (.addFramebuffer spec) = some fault) :
      Answers policy s (.kms (.addFramebuffer spec) (.error fault)) s
  | unnumbered {s : Platform.State} {spec : FramebufferSpec}
      (accepted : policy.refusal (.addFramebuffer spec) = none)
      (inUse : ∀ id, id ≠ 0 → s.kernel.InUse id) :
      Answers policy s (.kms (.addFramebuffer spec) (.error policy.unnumbered)) s
  /-- To remove a framebuffer that is alive is never refused. -/
  | removed {s : Platform.State} {id : UInt32} {after : Kernel}
      (removal : s.kernel.removeFramebuffer id = .ok after) :
      Answers policy s (.kms (.removeFramebuffer id) (.ok ())) { s with kernel := after }
  | dead {s : Platform.State} {id : UInt32} (dead : id ∉ s.kernel.framebuffers) (fault : Fault) :
      Answers policy s (.kms (.removeFramebuffer id) (.error fault)) s
  /-- From which place of the framebuffer the CRTC then reads is left open. -/
  | set {s : Platform.State} {crtc id x y left top : UInt32} {connectors : List UInt32}
      {mode : Option Mode} {after : Kernel}
      (accepted : policy.refusal (.setCrtc crtc id x y connectors mode) = none)
      (set : s.kernel.setCrtc crtc id left top mode = .ok after) :
      Answers policy s (.kms (.setCrtc crtc id x y connectors mode) (.ok ()))
        { s with kernel := after }
  | unset {s : Platform.State} {crtc id x y : UInt32} {connectors : List UInt32}
      {mode : Option Mode} {fault : Fault}
      (refused : policy.refusal (.setCrtc crtc id x y connectors mode) = some fault) :
      Answers policy s (.kms (.setCrtc crtc id x y connectors mode) (.error fault)) s
  /-- A CRTC that is not there, and a framebuffer that is not alive, may be objected to. -/
  | missing {s : Platform.State} {crtc id x y : UInt32} {connectors : List UInt32}
      {mode : Option Mode}
      (missing : (∀ found, s.kernel.findCrtc crtc ≠ .ok found) ∨ id ∉ s.kernel.framebuffers)
      (fault : Fault) :
      Answers policy s (.kms (.setCrtc crtc id x y connectors mode) (.error fault)) s
  | property {s : Platform.State} (id : UInt32) (answer : Except Fault Property) :
      Answers policy s (.kms (.property id) answer) s
  /-- Every other call leaves framebuffers, CRTCs and the memory of the pool alone. -/
  | unrelated {s t : Platform.State} {call : Kms.Call} {answer : Kms.Answer call}
      (unread : call.isRead = false) (unrelated : call.isUnrelated = true)
      (framebuffers : t.kernel.framebuffers = s.kernel.framebuffers)
      (crtcs : t.kernel.crtcs = s.kernel.crtcs) (taken : t.taken = s.taken) :
      Answers policy s (.kms call answer) t
  | opened {s : Platform.State} (path : Path) (answer : Except Fault Unit) :
      Answers policy s (.opened path answer) s
  | closed {s : Platform.State} : Answers policy s .closed s
  /-- New memory gets a handle that is not in use. -/
  | allocated {s : Platform.State} {width height : UInt32} {buffer : Buffer}
      (enough : policy.shortage width height = none) (nonzero : buffer.handle ≠ 0)
      (fresh : buffer.handle ∉ s.taken) (pitch : policy.IsPitch width height buffer.stride) :
      Answers policy s (.allocated width height (.ok buffer))
        { s with taken := s.taken ++ [buffer.handle] }
  | short {s : Platform.State} {width height : UInt32} {fault : Fault}
      (short : policy.shortage width height = some fault) :
      Answers policy s (.allocated width height (.error fault)) s
  | depleted {s : Platform.State} {width height : UInt32}
      (enough : policy.shortage width height = none)
      (taken : ∀ handle, handle ≠ 0 → handle ∈ s.taken) :
      Answers policy s (.allocated width height (.error policy.depleted)) s
  | released {s : Platform.State} (handle : UInt32) :
      Answers policy s (.released handle) { s with taken := s.taken.filter (· ≠ handle) }

variable {policy} {s t : Platform.State} {event : Event Platform} {events : List (Event Platform)}

/-- Every call can be answered in every state. -/
theorem total (s : Platform.State) (call : Platform.Call) :
    ∃ answer t, policy.Answers s ⟨call, answer⟩ t := by
  have unrelated {call : Kms.Call} (unread : call.isRead = false)
      (unrelated : call.isUnrelated = true) :
      ∃ answer t, policy.Answers s ⟨.inl (.kms call), answer⟩ t :=
    ⟨.error .noEntry, s, .unrelated unread unrelated rfl rfl rfl⟩
  match call with
  | .inl (.openNode path) => exact ⟨.ok (), s, .opened path _⟩
  | .inl .closeNode => exact ⟨(), s, .closed⟩
  | .inl (.kms .resources) => exact ⟨_, s, .shown rfl⟩
  | .inl (.kms (.connector id)) => exact ⟨_, s, .shown rfl⟩
  | .inl (.kms (.encoder id)) => exact ⟨_, s, .shown rfl⟩
  | .inl (.kms (.crtc id)) => exact ⟨_, s, .shown rfl⟩
  | .inl (.kms (.property id)) => exact ⟨.error .noEntry, s, .property id _⟩
  | .inl (.kms (.addFramebuffer spec)) =>
    cases refused : policy.refusal (.addFramebuffer spec) with
    | some fault => exact ⟨.error fault, s, .unadded refused⟩
    | none =>
      by_cases inUse : ∀ id, id ≠ 0 → s.kernel.InUse id
      · exact ⟨.error policy.unnumbered, s, .unnumbered refused inUse⟩
      · obtain ⟨id, nonzero, fresh⟩ : ∃ id, id ≠ 0 ∧ ¬ s.kernel.InUse id := by simpa using inUse
        exact ⟨.ok id, _, .added refused nonzero fresh 0⟩
  | .inl (.kms (.removeFramebuffer id)) =>
    by_cases alive : id ∈ s.kernel.framebuffers
    · exact ⟨.ok (), _, .removed (if_pos alive)⟩
    · exact ⟨.error .noEntry, s, .dead alive _⟩
  | .inl (.kms (.setCrtc crtc id x y connectors mode)) =>
    cases refused : policy.refusal (.setCrtc crtc id x y connectors mode) with
    | some fault => exact ⟨.error fault, s, .unset refused⟩
    | none =>
      cases found : s.kernel.findCrtc crtc with
      | ok before =>
        have set : s.kernel.setCrtc crtc id x y mode = .ok { s.kernel with
            crtcs :=
              Kernel.changeFirst (·.id = crtc) (Kernel.settle id x y mode) s.kernel.crtcs } := by
          simp only [Kernel.setCrtc, found]
          rfl
        exact ⟨.ok (), _, .set refused set⟩
      | error fault => exact ⟨.error fault, s, .missing (.inl (by simp [found])) fault⟩
  | .inl (.kms (.setConnectorProperty ..)) => exact unrelated rfl rfl
  | .inl (.kms (.createDumb ..)) => exact unrelated rfl rfl
  | .inl (.kms (.destroyDumb _)) => exact unrelated rfl rfl
  | .inl (.kms (.commandWrite ..)) => exact unrelated rfl rfl
  | .inl (.kms (.commandWriteRead ..)) => exact unrelated rfl rfl
  | .inr (.allocate width height) =>
    cases short : policy.shortage width height with
    | some fault => exact ⟨.error fault, s, .short short⟩
    | none =>
      by_cases taken : ∀ handle, handle ≠ 0 → handle ∈ s.taken
      · exact ⟨.error policy.depleted, s, .depleted short taken⟩
      · obtain ⟨handle, nonzero, fresh⟩ : ∃ handle, handle ≠ 0 ∧ handle ∉ s.taken := by
          simpa using taken
        exact ⟨.ok ⟨handle, policy.pitch width height⟩, _,
          .allocated short nonzero fresh (policy.isPitch width height)⟩
  | .inr (.release handle) => exact ⟨(), _, .released handle⟩

/-- What is described is described when it is asked for. -/
theorem isRead_of_answer? {view : View} {call : Kms.Call} {answer : Kms.Answer call}
    (shows : view.answer? call = some answer) : call.isRead = true := by
  cases call <;> first | rfl | cases shows

/-- The device describes what it shows. -/
theorem observed : Observed policy.Answers policy.view where
  answered told := ⟨_, .shown told⟩
  truthful := by
    intro s call answer told t shows answers
    have reads := isRead_of_answer? shows
    generalize made : Event.kms call told = event at answers
    cases answers with
    | shown same =>
      cases made
      exact ⟨Option.some.inj (same.symm.trans shows), rfl⟩
    | unrelated unread =>
      cases made
      rw [unread] at reads
      cases reads
    | property =>
      cases made
      cases shows
    | _ => cases made <;> cases reads

end Policy

end Modeset
