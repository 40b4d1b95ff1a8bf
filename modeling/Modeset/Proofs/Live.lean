import Mathlib.Data.Finset.Basic
import Modeset.Card
import Modeset.Pool.Dumb
import Modeset.Proofs.Layer
import Modeset.Proofs.Ledger
import Modeset.Proofs.Work

/-!
# What is alive in the kernel

A process may leave three things behind in the kernel: framebuffers, dumb buffers and open files.
All that has to be known of a kernel here is that it gives out numbers that are not in use and are
not 0, and that it does not fail to remove what is alive; any other call may fail at any time. A
card stands between the kernel and the manager. It asks only for what its calls need, and it
destroys no dumb buffers but those whose handles it keeps. So between operations there is alive in
the kernel what was alive when the node was opened, and besides it just what the ledger of the
manager holds.

## Main definitions

* `Live`, `Live.Step` — what is alive, and where a request to the kernel leads
* `Card.Step`, `Platform.Step` — where a call to the device and an event of a platform lead
* `Live.Booked` — the ledger holds what is alive

## Main results

* `Card.passes_of_run_kms`, `Card.Step.eq_of_isLasting` — most calls to the device leave everything
  as it is
* `Card.Step.of_createDumb`, `Card.Step.of_destroyDumb` — the card keeps the handles that it needs
* `Live.Booked.step` — what follows the rules of the ledger keeps it in step with the kernel
-/

namespace Modeset

open Proc

/-- Whether a request makes or removes something that outlives it. -/
def Node.Call.isLasting : Node.Call → Bool
  | .openFile _ | .closeFile | .addFramebuffer _ | .removeFramebuffer _ | .createDumb .. |
    .destroyDumb _ => true
  | _ => false

/-- Whether a call to the device makes or removes something that outlives it. -/
def Kms.Call.isLasting : Kms.Call → Bool
  | .addFramebuffer _ | .removeFramebuffer _ | .createDumb .. | .destroyDumb _ => true
  | _ => false

/-- What is alive in a kernel. -/
structure Live where
  framebuffers : Finset UInt32
  dumbs : Finset UInt32
  /-- The files that are open, the one that was opened last in front. -/
  files : List Nat

namespace Live

/-- Where a request to the kernel may lead. -/
inductive Step : Live → Event Node → Live → Prop
  | opened (live : Live) (path : Path) (descriptor : Nat) :
      Step live ⟨.openFile path, .ok descriptor⟩ { live with files := descriptor :: live.files }
  | unopened (live : Live) (path : Path) (fault : Fault) :
      Step live ⟨.openFile path, .error fault⟩ live
  | closed (live : Live) : Step live ⟨.closeFile, ()⟩ { live with files := live.files.tail }
  /-- A new framebuffer gets a number that is not in use. -/
  | added {live : Live} (spec : FramebufferSpec) {id : UInt32} (nonzero : id ≠ 0)
      (fresh : id ∉ live.framebuffers) :
      Step live ⟨.addFramebuffer spec, .ok id⟩
        { live with framebuffers := insert id live.framebuffers }
  | refused (live : Live) (spec : FramebufferSpec) (fault : Fault) :
      Step live ⟨.addFramebuffer spec, .error fault⟩ live
  | removed (live : Live) (id : UInt32) :
      Step live ⟨.removeFramebuffer id, .ok ()⟩
        { live with framebuffers := live.framebuffers.erase id }
  /-- Only what is not alive may the kernel fail to remove. -/
  | unknown {live : Live} {id : UInt32} (dead : id ∉ live.framebuffers) (fault : Fault) :
      Step live ⟨.removeFramebuffer id, .error fault⟩ live
  /-- A new dumb buffer gets a handle that is not in use. -/
  | created {live : Live} (width height bpp : UInt32) {dumb : DumbBuffer}
      (nonzero : dumb.handle ≠ 0) (fresh : dumb.handle ∉ live.dumbs) :
      Step live ⟨.createDumb width height bpp, .ok dumb⟩
        { live with dumbs := insert dumb.handle live.dumbs }
  | uncreated (live : Live) (width height bpp : UInt32) (fault : Fault) :
      Step live ⟨.createDumb width height bpp, .error fault⟩ live
  | destroyed (live : Live) (handle : UInt32) :
      Step live ⟨.destroyDumb handle, .ok ()⟩ { live with dumbs := live.dumbs.erase handle }
  | undestroyed {live : Live} {handle : UInt32} (dead : handle ∉ live.dumbs) (fault : Fault) :
      Step live ⟨.destroyDumb handle, .error fault⟩ live
  /-- Nothing else makes or removes anything that lasts. -/
  | passing (live : Live) {call : Node.Call} (passing : call.isLasting = false)
      (answer : Node.Answer call) : Step live ⟨call, answer⟩ live

variable {live after : Live}

/-- Requests that make and remove nothing leave everything as it is. -/
theorem eq_of_follows {events : List (Event Node)} (path : Follows Step live events after)
    (passing : ∀ event ∈ events, event.call.isLasting = false) : after = live := by
  refine @Follows.keep _ _ Step _ _ _ (· = live) path (fun s event member t step same => ?_) rfl
  have passes := passing event member
  cases step with
  | passing => exact same
  | _ => cases passes

end Live

namespace Card

/-! ## What a card asks for -/

section Passes

/-- A procedure only puts requests to the node that make and remove nothing that lasts. -/
abbrev Passes {α : Type} (p : Proc Node α) : Prop :=
  p.MakesOnly (S := Node) fun call => call.isLasting = false

variable {call : Node.Call} {β : Type}

/- The answer's type is left out of the index, since for a known call it is unfolded there. -/
@[simp] theorem passes_ask_bind_iff {f : Node.Answer call → Proc Node β} :
    Passes (@Bind.bind (Proc Node) _ (no_index (Node.Answer call)) β (ask call) f) ↔
      call.isLasting = false ∧ ∀ answer, Passes (f answer) :=
  Iff.rfl

theorem passes_kernelMode (mode : Mode) (connectors : List UInt32) :
    Passes (kernelMode mode connectors) := by
  induction connectors with
  | nil => exact trivial
  | cons id rest ih =>
    simp only [kernelMode, passes_ask_bind_iff]
    refine ⟨rfl, fun answer => ?_⟩
    cases answer with
    | error => exact trivial
    | ok record =>
      simp only
      split
      · exact trivial
      · exact ih

theorem passes_connector (id : UInt32) : Passes (connector id) := by
  unfold connector
  cases objectId id with
  | error => exact trivial
  | ok id =>
    simp only [passes_ask_bind_iff]
    refine ⟨rfl, fun answer => ?_⟩
    cases answer with
    | error => exact trivial
    | ok record =>
      simp only [passes_ask_bind_iff]
      refine ⟨rfl, fun answer => ?_⟩
      cases answer <;> exact trivial

theorem passes_encoder (id : UInt32) : Passes (encoder id) := by
  unfold encoder
  cases objectId id with
  | error => exact trivial
  | ok id =>
    simp only [passes_ask_bind_iff]
    refine ⟨rfl, fun answer => ?_⟩
    cases answer with
    | error => exact trivial
    | ok record =>
      simp only [passes_ask_bind_iff]
      refine ⟨rfl, fun answer => ?_⟩
      cases answer <;> exact trivial

theorem passes_crtc (id : UInt32) : Passes (crtc id) := by
  unfold crtc
  cases objectId id with
  | error => exact trivial
  | ok id =>
    simp only [passes_ask_bind_iff]
    refine ⟨rfl, fun answer => ?_⟩
    cases answer <;> exact trivial

theorem passes_property (id : UInt32) : Passes (property id) := by
  unfold property
  cases objectId id with
  | error => exact trivial
  | ok id =>
    simp only [passes_ask_bind_iff]
    refine ⟨rfl, fun answer => ?_⟩
    cases answer <;> exact trivial

theorem passes_setCrtc (id framebuffer x y : UInt32) (connectors : List UInt32)
    (mode : Option Mode) : Passes (setCrtc id framebuffer x y connectors mode) := by
  have mode_passes (connectors : List UInt32) : Passes (kernelMode? connectors mode) := by
    cases mode with
    | none => exact trivial
    | some mode => exact (passes_kernelMode mode connectors).bind fun _ => trivial
  unfold setCrtc
  cases objectId id with
  | error => exact trivial
  | ok id =>
    cases connectors.mapM objectId with
    | error => exact trivial
    | ok connectors =>
      refine (mode_passes connectors).bind fun found => ?_
      cases found with
      | error => exact trivial
      | ok mode => exact ⟨rfl, fun _ => trivial⟩

theorem passes_setConnectorProperty (id property : UInt32) (value : UInt64) :
    Passes (setConnectorProperty id property value) := by
  unfold setConnectorProperty
  cases objectId id with
  | error => exact trivial
  | ok id =>
    cases objectId property with
    | error => exact trivial
    | ok property => exact ⟨rfl, fun _ => trivial⟩

/-- A command is put again and again, but nothing else is. -/
theorem passes_command (request : UInt32) (payload : List UInt8) (retries : Nat) :
    Passes (command request payload retries) := by
  induction retries with
  | zero =>
    rw [command]
    refine ⟨rfl, fun answer => ?_⟩
    cases answer with
    | ok => exact trivial
    | error fault =>
      change Passes (if fault.isInterruption then giveUp request fault else giveUp request fault)
      split <;> exact trivial
  | succ retries ih =>
    rw [command]
    refine ⟨rfl, fun answer => ?_⟩
    cases answer with
    | ok => exact trivial
    | error fault =>
      change Passes (if fault.isInterruption then command request payload retries
        else giveUp request fault)
      split
      · exact ih
      · exact trivial

theorem passes_driverCommand (retries : Nat) (index : UInt32) (payload : List UInt8)
    (direction : Request.Direction) : Passes (driverCommand retries index payload direction) := by
  unfold driverCommand
  cases Request.command? index payload.length direction with
  | error => exact trivial
  | ok request => exact passes_command request payload retries

end Passes

/-! ## Where calls to the device lead -/

/-- Where a call to the device may lead, when it is carried out on the node. -/
abbrev Step : Card × Live → Event Device → Card × Live → Prop :=
  CarriedBeside (carryOut patience) Live.Step

section Step

variable {events : List (Event Node)} {card next : Card} {s t : Card × Live}

/-- What needs nothing of what a card keeps leaves that as it is. -/
theorem run_lift_iff {α : Type} {p : Proc Node α} {a : α} :
    ((liftM p : StateT Card (Proc Node) α) card).Run events (a, next) ↔
      p.Run events a ∧ next = card := by
  refine run_bind_pure_iff.trans ?_
  constructor
  · rintro ⟨b, run, same⟩
    obtain ⟨rfl, rfl⟩ := Prod.mk.inj same
    exact ⟨run, rfl⟩
  · rintro ⟨run, rfl⟩
    exact ⟨a, run, rfl⟩

/-- What only asks for what does not last leaves the card as it is. -/
theorem passes_of_run_lift {α : Type} {p : Proc Node α} {a : α} (passes : Passes p)
    (run : ((liftM p : StateT Card (Proc Node) α) card).Run events (a, next)) :
    next = card ∧ ∀ event ∈ events, event.call.isLasting = false := by
  obtain ⟨run, kept⟩ := run_lift_iff.mp run
  exact ⟨kept, passes.of_run run⟩

/-- Most calls to the device are carried out by requests that make and remove nothing that lasts,
however these are answered, and leave the card as it is. -/
theorem passes_of_run_kms {retries : Nat} {call : Kms.Call} (passing : call.isLasting = false)
    {answer : Kms.Answer call} (run : (kms retries call card).Run events (answer, next)) :
    next = card ∧ ∀ event ∈ events, event.call.isLasting = false := by
  cases call with
  | resources => exact passes_of_run_lift (makesOnly_ask_iff.mpr rfl) run
  | connector id => exact passes_of_run_lift (passes_connector id) run
  | encoder id => exact passes_of_run_lift (passes_encoder id) run
  | crtc id => exact passes_of_run_lift (passes_crtc id) run
  | property id => exact passes_of_run_lift (passes_property id) run
  | setCrtc id framebuffer x y connectors mode =>
    exact passes_of_run_lift (passes_setCrtc id framebuffer x y connectors mode) run
  | setConnectorProperty id property value =>
    exact passes_of_run_lift (passes_setConnectorProperty id property value) run
  | commandWrite index payload =>
    -- What the driver makes of the payload is not returned.
    obtain ⟨first, ⟨reply, middle⟩, rest, command_run, last, rfl⟩ := run_bind_iff.mp run
    obtain ⟨rfl, same⟩ := run_done_iff.mp last
    obtain ⟨-, rfl⟩ := Prod.mk.inj same
    rw [List.append_nil]
    exact passes_of_run_lift (passes_driverCommand retries index payload .write) command_run
  | commandWriteRead index payload =>
    exact passes_of_run_lift (passes_driverCommand retries index payload .writeRead) run
  | addFramebuffer | removeFramebuffer | createDumb | destroyDumb => cases passing

/-- Most calls to the device leave everything as it is, however they are answered. -/
theorem Step.eq_of_isLasting {call : Kms.Call} (passing : call.isLasting = false)
    {answer : Kms.Answer call} (step : Step s ⟨.kms call, answer⟩ t) : t = s := by
  obtain ⟨events, run, path⟩ := step
  obtain ⟨kept, passes⟩ := passes_of_run_kms passing run
  exact Prod.ext kept (Live.eq_of_follows path passes)

variable {live : Live}

theorem Step.of_openNode {path : Path} {answer : Except Fault Unit}
    (step : Step (card, live) ⟨.openNode path, answer⟩ t) :
    (answer.isOk = false ∧ t = (card, live)) ∨
      ∃ descriptor, answer = .ok () ∧
        t = ({ path }, { live with files := descriptor :: live.files }) := by
  obtain ⟨events, run, follows⟩ := step
  obtain ⟨opening, rest, rfl, last⟩ := Proc.run_ask_bind_iff.mp run
  cases opening with
  | error fault =>
    obtain ⟨rfl, same⟩ := run_done_iff.mp last
    obtain ⟨rfl, kept⟩ := Prod.mk.inj same
    obtain ⟨after, made, stays⟩ := follows
    cases made with
    | unopened | passing => exact .inl ⟨rfl, Prod.ext kept stays⟩
  | ok descriptor =>
    obtain ⟨rfl, same⟩ := run_done_iff.mp (run_note_iff.mp last)
    obtain ⟨rfl, kept⟩ := Prod.mk.inj same
    obtain ⟨after, made, stays⟩ := follows
    cases made with
    | opened => exact .inr ⟨descriptor, rfl, Prod.ext kept stays⟩
    | passing passing => cases passing

theorem Step.of_closeNode (step : Step (card, live) ⟨.closeNode, ()⟩ t) :
    t = (card, { live with files := live.files.tail }) := by
  obtain ⟨events, run, follows⟩ := step
  obtain ⟨run, kept⟩ := run_lift_iff.mp run
  obtain rfl := run_ask_iff.mp run
  obtain ⟨after, made, stays⟩ := follows
  cases made with
  | closed => exact Prod.ext kept stays
  | passing passing => cases passing

/-- A framebuffer is only made of something, and gets a number that is not in use. -/
theorem Step.of_addFramebuffer {spec : FramebufferSpec} {answer : Except Fault UInt32}
    (step : Step (card, live) ⟨.kms (.addFramebuffer spec), answer⟩ t) :
    (answer.isOk = false ∧ t = (card, live)) ∨
      ∃ id, answer = .ok id ∧ id ≠ 0 ∧ id ∉ live.framebuffers ∧
        t = (card, { live with framebuffers := Insert.insert id live.framebuffers }) := by
  obtain ⟨events, run, follows⟩ := step
  obtain ⟨run, kept⟩ := run_lift_iff.mp run
  unfold addFramebuffer at run
  cases object : objectId spec.handle with
  | error fault =>
    obtain ⟨rfl, rfl⟩ : events = [] ∧ answer = .error fault := by simpa [object] using run
    exact .inl ⟨rfl, Prod.ext kept follows⟩
  | ok handle =>
    rw [object] at run
    obtain rfl := run_ask_iff.mp run
    obtain ⟨after, made, stays⟩ := follows
    cases made with
    | added spec nonzero fresh => exact .inr ⟨_, rfl, nonzero, fresh, Prod.ext kept stays⟩
    | refused => exact .inl ⟨rfl, Prod.ext kept stays⟩
    | passing passing => cases passing

/-- A framebuffer that is alive is removed, however it is answered. -/
theorem Step.of_removeFramebuffer {id : UInt32} {answer : Except Fault Unit} (nonzero : id ≠ 0)
    (alive : id ∈ live.framebuffers)
    (step : Step (card, live) ⟨.kms (.removeFramebuffer id), answer⟩ t) :
    t = (card, { live with framebuffers := live.framebuffers.erase id }) := by
  obtain ⟨events, run, follows⟩ := step
  obtain ⟨run, kept⟩ := run_lift_iff.mp run
  have removal : (ask (.removeFramebuffer id)).Run events answer := by
    simpa [removeFramebuffer, objectId, nonzero] using run
  obtain rfl := run_ask_iff.mp removal
  obtain ⟨after, made, stays⟩ := follows
  cases made with
  | removed => exact Prod.ext kept stays
  | unknown dead => exact absurd alive dead
  | passing passing => cases passing

/-- A dumb buffer gets a handle that is not in use, and the card keeps it. -/
theorem Step.of_createDumb {width height bpp : UInt32} {answer : Except Fault DumbBuffer}
    (step : Step (card, live) ⟨.kms (.createDumb width height bpp), answer⟩ t) :
    (answer.isOk = false ∧ t = (card, live)) ∨
      ∃ dumb, answer = .ok dumb ∧ dumb.handle ≠ 0 ∧ dumb.handle ∉ live.dumbs ∧
        t = (card.insert dumb.handle,
          { live with dumbs := Insert.insert dumb.handle live.dumbs }) := by
  obtain ⟨events, run, follows⟩ := step
  obtain ⟨creation, rest, rfl, last⟩ := Proc.run_ask_bind_iff.mp run
  cases creation with
  | error fault =>
    obtain ⟨rfl, same⟩ := run_done_iff.mp last
    obtain ⟨rfl, kept⟩ := Prod.mk.inj same
    obtain ⟨after, made, stays⟩ := follows
    cases made with
    | uncreated | passing => exact .inl ⟨rfl, Prod.ext kept stays⟩
  | ok dumb =>
    obtain ⟨rfl, same⟩ := run_done_iff.mp last
    obtain ⟨rfl, kept⟩ := Prod.mk.inj same
    obtain ⟨after, made, stays⟩ := follows
    cases made with
    | created _ _ _ nonzero fresh =>
      exact .inr ⟨_, rfl, nonzero, fresh, Prod.ext kept stays⟩
    | passing passing => cases passing

/-- A dumb buffer whose handle the card keeps is destroyed if it is alive, however it is
answered. -/
theorem Step.of_destroyDumb {handle : UInt32} {answer : Except Fault Unit}
    (kept : handle ∈ card.dumbs) (alive : handle ∈ live.dumbs)
    (step : Step (card, live) ⟨.kms (.destroyDumb handle), answer⟩ t) :
    t = (card.erase handle, { live with dumbs := live.dumbs.erase handle }) := by
  obtain ⟨events, run, follows⟩ := step
  have destruction : (destroyDumb handle card).Run events (answer, t.1) := run
  rw [destroyDumb, if_pos kept] at destruction
  obtain ⟨reply, rest, rfl, last⟩ := Proc.run_ask_bind_iff.mp destruction
  obtain ⟨rfl, same⟩ := run_done_iff.mp last
  obtain ⟨rfl, erased⟩ := Prod.mk.inj same
  obtain ⟨after, made, stays⟩ := follows
  cases made with
  | destroyed => exact Prod.ext erased stays
  | undestroyed dead => exact absurd alive dead
  | passing passing => cases passing

end Step

end Card

namespace Platform

/-- Where an event of a platform may lead, when the memory for pictures is dumb buffers. -/
abbrev Step (bpp : UInt32) : Card × Live → Event Platform → Card × Live → Prop :=
  Carried (Dumb.carryOut bpp) Card.Step

section Step

variable {bpp : UInt32} {card : Card} {live : Live} {s t : Card × Live}

/-- A call that concerns the device goes through to it. -/
theorem Step.onCard {call : Device.Call} {answer : Device.Answer call}
    (step : Step bpp s ⟨.inl call, answer⟩ t) : Card.Step s ⟨call, answer⟩ t := by
  obtain ⟨events, run, path⟩ := step
  obtain rfl := run_ask_iff.mp run
  obtain ⟨after, first, rfl⟩ := path
  exact first

/-- Memory is a dumb buffer, which gets a handle that is not in use. -/
theorem Step.of_allocated {width height : UInt32} {answer : Except Fault Buffer}
    (step : Step bpp (card, live) (.allocated width height answer) t) :
    (answer.isOk = false ∧ t = (card, live)) ∨
      ∃ buffer, answer = .ok buffer ∧ buffer.handle ≠ 0 ∧ buffer.handle ∉ live.dumbs ∧
        t = (card.insert buffer.handle,
          { live with dumbs := insert buffer.handle live.dumbs }) := by
  obtain ⟨events, run, path⟩ := step
  obtain ⟨reply, rest, rfl, last⟩ := Proc.run_ask_bind_iff.mp run
  obtain ⟨middle, first, path⟩ := path
  rcases first.of_createDumb with ⟨failed, rfl⟩ | ⟨dumb, rfl, nonzero, fresh, rfl⟩
  · cases reply with
    | ok => cases failed
    | error fault =>
      obtain ⟨rfl, rfl⟩ := run_done_iff.mp last
      exact .inl ⟨rfl, path⟩
  · obtain ⟨rfl, rfl⟩ := run_done_iff.mp (run_note_iff.mp last)
    exact .inr ⟨_, rfl, nonzero, fresh, path⟩

/-- Memory that has not been given back is given back, whatever the pool notes. -/
theorem Step.of_released {handle : UInt32} (kept : handle ∈ card.dumbs)
    (alive : handle ∈ live.dumbs) (step : Step bpp (card, live) (.released handle) t) :
    t = (card.erase handle, { live with dumbs := live.dumbs.erase handle }) := by
  obtain ⟨events, run, path⟩ := step
  obtain ⟨reply, rest, rfl, last⟩ := Proc.run_ask_bind_iff.mp run
  obtain ⟨middle, first, path⟩ := path
  obtain rfl : rest = [] := by
    cases reply with
    | ok => exact (run_done_iff.mp last).1
    | error => exact (run_done_iff.mp (run_note_iff.mp last)).1
  obtain rfl := path
  exact first.of_destroyDumb kept alive

/-- What hands nothing over while the node is open leaves everything as it is. -/
theorem Step.eq_of_isNeutral {event : Event Platform} (work : event.IsWork)
    (neutral : event.IsNeutral) (step : Step bpp s event t) : t = s := by
  obtain ⟨taken, returned, made, removed⟩ := neutral
  cases work with
  | steady steady =>
    obtain ⟨call, answer, steady, rfl⟩ := steady
    refine step.onCard.eq_of_isLasting ?_
    cases call with
    | addFramebuffer | removeFramebuffer | createDumb | destroyDumb => cases steady
    | _ => rfl
  | allocated width height answer =>
    rcases step.of_allocated with ⟨-, rfl⟩ | ⟨buffer, rfl, nonzero, -⟩
    · rfl
    · simp [Event.taken, Event.allocated, nonzero] at taken
  | released => cases returned
  | added spec answer =>
    rcases step.onCard.of_addFramebuffer with ⟨-, rfl⟩ | ⟨id, rfl, nonzero, -⟩
    · rfl
    · simp [Event.made, Event.kms, nonzero] at made
  | removed => cases removed
  | set => exact step.onCard.eq_of_isLasting rfl

end Step

end Platform

/-! ## The ledger and the kernel -/

namespace Live

/-- Besides what was alive before the node was opened, just what the ledger holds is alive, and just
the node is open; and the card keeps the handles that are in the ledger. -/
structure Booked (base : Live) (ledger : Multiset Holding) (s : Card × Live) : Prop where
  framebuffers : s.2.framebuffers.val = base.framebuffers.val + Ledger.ids ledger
  dumbs : s.2.dumbs.val = base.dumbs.val + Ledger.handles ledger
  kept : ∀ handle ∈ Ledger.handles ledger, handle ∈ s.1.dumbs
  files : ∃ descriptor, s.2.files = descriptor :: base.files

namespace Booked

variable {base : Live} {ledger ledger' : Multiset Holding} {bpp : UInt32} {s t : Card × Live}

/-- Memory that is taken is in the ledger and alive. -/
theorem allocated {width height : UInt32} {buffer : Buffer} (booked : base.Booked ledger s)
    (step : Platform.Step bpp s (.allocated width height (.ok buffer)) t) :
    base.Booked (⟨buffer.handle, 0⟩ ::ₘ ledger) t := by
  rcases step.of_allocated with ⟨failed, -⟩ | ⟨_, same, -, fresh, rfl⟩
  · cases failed
  obtain rfl := Except.ok.inj same
  exact {
    framebuffers := by
      rw [Ledger.ids_cons_zero]
      exact booked.framebuffers
    dumbs := by
      rw [Finset.insert_val_of_notMem fresh, booked.dumbs, Ledger.handles_cons, Multiset.add_cons]
    kept := by
      intro handle member
      rw [Ledger.handles_cons, Multiset.mem_cons] at member
      exact (Card.mem_insert ..).mpr (member.imp_right (booked.kept handle))
    files := booked.files }

/-- A framebuffer that is made is in the ledger and alive. -/
theorem added {spec : FramebufferSpec} {id : UInt32} (made : id ≠ 0)
    (booked : base.Booked (⟨spec.handle, 0⟩ ::ₘ ledger) s)
    (step : Platform.Step bpp s (.kms (.addFramebuffer spec) (.ok id)) t) :
    base.Booked (⟨spec.handle, id⟩ ::ₘ ledger) t := by
  obtain ⟨framebuffers, dumbs, kept, files⟩ := booked
  rw [Ledger.ids_cons_zero] at framebuffers
  rw [Ledger.handles_cons] at dumbs kept
  rcases step.onCard.of_addFramebuffer with ⟨failed, -⟩ | ⟨_, same, -, fresh, rfl⟩
  · cases failed
  obtain rfl := Except.ok.inj same
  exact {
    framebuffers := by
      rw [Finset.insert_val_of_notMem fresh, framebuffers, Ledger.ids_cons_of_made made,
        Multiset.add_cons]
    dumbs := by rwa [Ledger.handles_cons]
    kept := by rwa [Ledger.handles_cons]
    files }

/-- A framebuffer that is removed is neither in the ledger nor alive. -/
theorem removed {handle id : UInt32} {answer : Except Fault Unit} (made : id ≠ 0)
    (booked : base.Booked (⟨handle, id⟩ ::ₘ ledger) s)
    (step : Platform.Step bpp s (.kms (.removeFramebuffer id) answer) t) :
    base.Booked (⟨handle, 0⟩ ::ₘ ledger) t := by
  obtain ⟨framebuffers, dumbs, kept, files⟩ := booked
  rw [Ledger.ids_cons_of_made made] at framebuffers
  rw [Ledger.handles_cons] at dumbs kept
  have alive : id ∈ s.2.framebuffers := by
    rw [← Finset.mem_val, framebuffers]
    simp
  obtain rfl := step.onCard.of_removeFramebuffer made alive
  exact {
    framebuffers := by
      rw [Finset.erase_val, framebuffers, Multiset.add_cons, Multiset.erase_cons_head,
        Ledger.ids_cons_zero]
    dumbs := by rwa [Ledger.handles_cons]
    kept := by rwa [Ledger.handles_cons]
    files }

/-- Memory that is given back is neither in the ledger nor alive. -/
theorem released {handle : UInt32} (booked : base.Booked (⟨handle, 0⟩ ::ₘ ledger) s)
    (step : Platform.Step bpp s (.released handle) t) : base.Booked ledger t := by
  obtain ⟨framebuffers, dumbs, kept, files⟩ := booked
  rw [Ledger.ids_cons_zero] at framebuffers
  rw [Ledger.handles_cons] at dumbs kept
  have alive : handle ∈ s.2.dumbs := by
    rw [← Finset.mem_val, dumbs]
    simp
  obtain rfl := step.of_released (kept handle (Multiset.mem_cons_self ..)) alive
  -- What is alive is alive only once, so no other memory in the ledger has the same handle.
  have once : handle ∉ Ledger.handles ledger := by
    have distinct := s.2.dumbs.nodup
    rw [dumbs] at distinct
    exact (Multiset.nodup_cons.mp (Multiset.nodup_add.mp distinct).2.1).1
  exact {
    framebuffers
    dumbs := by rw [Finset.erase_val, dumbs, Multiset.add_cons, Multiset.erase_cons_head]
    kept := fun other member => (Card.mem_erase ..).mpr
      ⟨kept other (Multiset.mem_cons_of_mem member), fun same => once (same ▸ member)⟩
    files }

/-- What follows the rules of the ledger keeps it in step with the kernel. -/
theorem step {event : Event Platform} (booked : base.Booked ledger s) (work : event.IsWork)
    (entry : Ledger.Step ledger event ledger') (step : Platform.Step bpp s event t) :
    base.Booked ledger' t := by
  cases entry with
  | taken memory => exact booked.allocated step
  | made made => exact booked.added made step
  | removed made => exact booked.removed made step
  | returned => exact booked.released step
  | neutral neutral =>
    obtain rfl := step.eq_of_isNeutral work neutral
    exact booked

/-- Along work that follows the rules of the ledger, it stays in step with the kernel. -/
theorem follows {events : List (Event Platform)} (booked : base.Booked ledger s)
    (works : Works events) (entries : Follows Ledger.Step ledger events ledger')
    (path : Follows (Platform.Step bpp) s events t) : base.Booked ledger' t := by
  induction events generalizing ledger s with
  | nil =>
    obtain rfl := entries
    obtain rfl := path
    exact booked
  | cons event events ih =>
    obtain ⟨middle, entry, entries⟩ := entries
    obtain ⟨between, first, path⟩ := path
    have rest : Works events := fun other member => works other (List.mem_cons_of_mem event member)
    exact ih (booked.step (works event List.mem_cons_self) entry first) rest entries path

end Booked

end Live

end Modeset
