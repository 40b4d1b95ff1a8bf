import Modeset.Proofs.Kernel
import Modeset.Simulation.Device

/-!
# The scripted kernel answers

What is laid down for kernels holds of the kernel of a simulated machine: whatever call reaches the
machine, and whether or not it is planned to fail, the kernel answers it as `Kernel.Answers` says.
Only the number of the next framebuffer must not be in use, which is up to the script.

## Main definitions

* `Simulation.Kernel.Ready` — the next number of a framebuffer is not in use

## Main results

* `Simulation.Machine.of_perform` — a call fails and changes nothing, or does what it is to do
* `Simulation.answers_of_platform` — the machine's kernel answers every call to a platform
* `Simulation.exists_follows_of_interpret` — what the machine makes of a procedure is a run
-/

namespace Modeset.Simulation

open Kernel (Answers)

variable {machine after : Machine} {α : Type} {line kind : String} {id : Option UInt32}

namespace Machine

/-- Looking up the plans does not touch the kernel. -/
theorem kernel_nextFault (kind : String) (id : Option UInt32) (machine : Machine) :
    (nextFault kind id machine).2.kernel = machine.kernel := by
  unfold nextFault
  split
  · rfl
  · split <;> rfl

section Perform

variable {act : Kernel → Except Fault (α × Kernel)} {outcome : Except Fault α}
  {showReply : α → String}

theorem of_attempt (attempted : attempt kind id act machine = (outcome, after)) :
    (∃ fault, outcome = .error fault ∧ after.kernel = machine.kernel) ∨
      ∃ reply, outcome = .ok reply ∧ act machine.kernel = .ok (reply, after.kernel) := by
  have kernel_eq := kernel_nextFault kind id machine
  unfold attempt at attempted
  simp only [bind, StateT.bind] at attempted
  rcases planned : nextFault kind id machine with ⟨_ | fault, next⟩
  · rw [planned] at kernel_eq attempted
    -- Nothing is planned, so the outcome is that of the act on the kernel.
    simp only [get, getThe, MonadStateOf.get, StateT.get, StateT.bind, pure, bind] at attempted
    have same : next.kernel = machine.kernel := kernel_eq
    rw [← same]
    rcases acted : act next.kernel with fault | ⟨reply, kernel⟩
    · rw [acted] at attempted
      cases attempted
      exact .inl ⟨fault, rfl, rfl⟩
    · rw [acted] at attempted
      cases attempted
      exact .inr ⟨reply, rfl, rfl⟩
  · rw [planned] at kernel_eq attempted
    cases attempted
    exact .inl ⟨fault, rfl, kernel_eq⟩

/-- A call to the kernel fails and changes nothing, or does what it is to do. -/
theorem of_perform (performed : perform line showReply kind id act machine = (outcome, after)) :
    (∃ fault, outcome = .error fault ∧ after.kernel = machine.kernel) ∨
      ∃ reply, outcome = .ok reply ∧ act machine.kernel = .ok (reply, after.kernel) := by
  rcases attempted : attempt kind id act machine with ⟨result, next⟩
  have cases := of_attempt attempted
  unfold perform at performed
  simp only [bind, StateT.bind] at performed
  rw [attempted] at performed
  cases performed
  exact cases

/-- A look at the kernel leaves it as it is. -/
theorem of_perform_look {read : Kernel → Except Fault α}
    (performed : perform line showReply kind id (look read) machine = (outcome, after)) :
    after.kernel = machine.kernel ∧ ((∃ fault, outcome = .error fault) ∨
      ∃ reply, outcome = .ok reply ∧ read machine.kernel = .ok reply) := by
  rcases of_perform performed with ⟨fault, rfl, same⟩ | ⟨_, rfl, looked⟩
  · exact ⟨same, .inl ⟨fault, rfl⟩⟩
  · obtain ⟨reply, seen, pair⟩ := Kernel.exists_of_map_eq_ok looked
    obtain ⟨rfl, same⟩ := Prod.mk.inj pair
    exact ⟨same.symm, .inr ⟨reply, rfl, seen⟩⟩

end Perform

/-- A change of the kernel fails, or comes about. -/
theorem of_perform_change {act : Kernel → Except Fault Kernel} {outcome : Except Fault Unit}
    {showReply : Unit → String}
    (performed : perform line showReply kind id (change act) machine = (outcome, after)) :
    (∃ fault, outcome = .error fault ∧ after.kernel = machine.kernel) ∨
      outcome = .ok () ∧ act machine.kernel = .ok after.kernel := by
  rcases of_perform performed with failed | ⟨⟨⟩, rfl, changed⟩
  · exact .inl failed
  · obtain ⟨_, acted, pair⟩ := Kernel.exists_of_map_eq_ok changed
    obtain ⟨-, rfl⟩ := Prod.mk.inj pair
    exact .inr ⟨rfl, acted⟩

end Machine

namespace Kernel

variable {kernel next : Kernel} {call : Kms.Call}

/-- The number that a scripted kernel hands out next is not in use. -/
def Ready (kernel : Kernel) : Prop :=
  kernel.nextFramebuffer ≠ 0 ∧ ¬ kernel.InUse kernel.nextFramebuffer

theorem Answers.of_failed {fault : Fault} (same : next = kernel) :
    Answers kernel (.kms call (.error fault)) next := by
  rw [same]
  exact .failed kernel call fault

/-- A call that leaves everything as it is may be answered in any way, unless its answer describes a
framebuffer or a CRTC. -/
theorem Answers.of_eq {answer : Kms.Answer call} (unrelated : call.isUnrelated = true)
    (same : next = kernel) : Answers kernel (.kms call answer) next := by
  cases answer with
  | error fault => exact .of_failed same
  | ok reply => exact .unrelated unrelated (by rw [same]) (by rw [same])

/-- Setting a property leaves framebuffers and CRTCs alone. -/
theorem of_setProperty {connector property : UInt32} {value : UInt64}
    (set : kernel.setProperty connector property value = .ok next) :
    next.framebuffers = kernel.framebuffers ∧ next.crtcs = kernel.crtcs := by
  unfold setProperty at set
  cases found : kernel.findConnector connector with
  | error fault => simp [found, bind, Except.bind] at set
  | ok object =>
    simp only [found, bind, Except.bind, pure, Except.pure] at set
    obtain rfl := Except.ok.inj set
    exact ⟨rfl, rfl⟩

/-- Giving a plain buffer back leaves framebuffers and CRTCs alone. -/
theorem of_destroyDumb {handle : UInt32} (destroyed : kernel.destroyDumb handle = .ok next) :
    next.framebuffers = kernel.framebuffers ∧ next.crtcs = kernel.crtcs := by
  unfold destroyDumb at destroyed
  split at destroyed
  · obtain rfl := Except.ok.inj destroyed
    exact ⟨rfl, rfl⟩
  · cases destroyed

end Kernel

open Machine in
theorem answers_of_kms {call : Kms.Call} {answer : Kms.Answer call} (ready : machine.kernel.Ready)
    (answered : kms call machine = (answer, after)) :
    Answers machine.kernel (.kms call answer) after.kernel := by
  cases call with
  | resources | connector | encoder | property | commandWrite | commandWriteRead =>
    exact .of_eq rfl (of_perform_look answered).1
  | crtc id =>
    obtain ⟨same, ⟨fault, rfl⟩ | ⟨crtc, rfl, found⟩⟩ := of_perform_look answered
    · exact .of_failed same
    · rw [same]
      exact .described found
  | addFramebuffer spec =>
    rcases of_perform answered with ⟨fault, rfl, same⟩ | ⟨_, rfl, added⟩
    · exact .of_failed same
    · obtain ⟨rfl, changed⟩ := Prod.mk.inj (Except.ok.inj added)
      exact .added ready.1 ready.2 (by rw [← changed]) (by rw [← changed])
  | removeFramebuffer id =>
    rcases of_perform_change answered with ⟨fault, rfl, same⟩ | ⟨rfl, removal⟩
    · exact .of_failed same
    · exact .removed removal
  | setCrtc id framebuffer x y connectors mode =>
    rcases of_perform_change answered with ⟨fault, rfl, same⟩ | ⟨rfl, set⟩
    · exact .of_failed same
    · exact .set set
  | setConnectorProperty connector property value =>
    rcases of_perform_change answered with ⟨fault, rfl, same⟩ | ⟨rfl, set⟩
    · exact .of_failed same
    · obtain ⟨framebuffers, crtcs⟩ := Kernel.of_setProperty set
      exact .unrelated rfl framebuffers crtcs
  | createDumb width height bpp =>
    rcases of_perform answered with ⟨fault, rfl, same⟩ | ⟨_, rfl, created⟩
    · exact .of_failed same
    · obtain ⟨-, changed⟩ := Prod.mk.inj (Except.ok.inj created)
      exact .unrelated rfl (by rw [← changed]) (by rw [← changed])
  | destroyDumb handle =>
    rcases of_perform_change answered with ⟨fault, rfl, same⟩ | ⟨rfl, destroyed⟩
    · exact .of_failed same
    · obtain ⟨framebuffers, crtcs⟩ := Kernel.of_destroyDumb destroyed
      exact .unrelated rfl framebuffers crtcs

theorem kernel_openNode (path : Path) (machine : Machine) :
    (device (.openNode path) machine).2.kernel = machine.kernel := by
  rcases performed : Machine.perform s!"open {path.display}" Machine.showDone "open" none
    (Machine.look fun _ => .ok ()) machine with ⟨outcome, next⟩
  have same := (Machine.of_perform_look performed).1
  unfold device
  simp only [bind, StateT.bind]
  rw [performed]
  cases outcome with
  | error fault => exact same
  | ok reply => exact same

theorem kernel_allocate (width height : UInt32) (machine : Machine) :
    (allocate width height machine).2.kernel = machine.kernel := by
  have kernel_eq := Machine.kernel_nextFault "alloc" none machine
  rcases planned : Machine.nextFault "alloc" none machine with ⟨fault?, next⟩
  rw [planned] at kernel_eq
  unfold allocate
  simp only [bind, StateT.bind]
  rw [planned]
  cases fault? with
  | none => exact kernel_eq
  | some fault => exact kernel_eq

/-- Whatever call a simulated machine answers, its kernel answers it as is laid down for kernels. -/
theorem answers_of_platform {event : Event Platform} (ready : machine.kernel.Ready)
    (answered : platform event.call machine = (event.answer, after)) :
    Answers machine.kernel event after.kernel := by
  have kernel_eq : after.kernel = (platform event.call machine).2.kernel := by rw [answered]
  obtain ⟨(path | _ | call) | ⟨width, height⟩ | handle, answer⟩ := event
  · have same := kernel_openNode path machine
    rw [kernel_eq.trans same]
    exact .opened machine.kernel path answer
  · rw [kernel_eq]
    exact .closed machine.kernel
  · exact answers_of_kms ready answered
  · have same := kernel_allocate width height machine
    rw [kernel_eq.trans same]
    exact .allocated machine.kernel width height answer
  · rw [kernel_eq]
    exact .released machine.kernel handle

/-- What a simulated machine makes of a procedure is one of its runs, and the machine's kernel
answers the calls of this run as long as it is ready. -/
theorem exists_follows_of_interpret (p : Proc Platform α) (machine : Machine) :
    ∃ events, p.Run events (p.interpret platform Machine.keepNote machine).1 ∧
      Follows (fun kernel event next => kernel.Ready → Answers kernel event next)
        machine.kernel events (p.interpret platform Machine.keepNote machine).2.kernel := by
  induction p generalizing machine with
  | done result => exact ⟨[], .done result, rfl⟩
  | call c next ih =>
    rcases answered : platform c machine with ⟨answer, later⟩
    obtain ⟨events, run, path⟩ := ih answer later
    have interpreted : (Proc.call c next).interpret platform Machine.keepNote machine =
        (next answer).interpret platform Machine.keepNote later := by
      rw [Proc.interpret_call]
      simp only [bind, StateT.bind]
      rw [answered]
    rw [interpreted]
    refine ⟨⟨c, answer⟩ :: events, .call run, later.kernel, fun ready => ?_, path⟩
    exact answers_of_platform ready answered
  | note entry next ih =>
    -- A note changes the machine, but not its kernel.
    obtain ⟨events, run, path⟩ := ih { machine with notes := entry :: machine.notes }
    exact ⟨events, .note run, path⟩

end Modeset.Simulation
