import Modeset.Proofs.Policy
import Modeset.Proofs.Scripted

/-!
# Simulated machines that do not count

A simulated machine can be told to let calls fail. If it does so by queues, then it counts.
Otherwise it is a platform that does not count, with the policy of its plans, as long as no plan
keeps framebuffers from being removed. The numbers of the next framebuffer and of the next handle
must not be in use, which is up to the script.

## Main definitions

* `Policy.ofPlans` — the policy of a machine
* `Simulation.Machine.Steady` — a machine that has no queues
* `Platform.State.Ready` — the next numbers are not in use

## Main results

* `Simulation.Machine.Steady.nextFault_eq` — a machine without queues keeps its plans
* `Simulation.Machine.Steady.performed` — which calls to the kernel fail
* `Simulation.Machine.Steady.answers` — every call is answered by the policy
* `Simulation.Machine.Steady.exists_follows_of_interpret` — and so is every procedure
-/

namespace Modeset

open Simulation (Kernel Machine Plan)

/-- The policy of a machine that plans faults by the kind of a call, or by the kind and the object's
number. -/
def Policy.ofPlans (planned? : String → Option UInt32 → Option Fault) : Policy where
  refusal
    | .resources => planned? "resources" none
    | .connector id => planned? "connector" (some id)
    | .encoder id => planned? "encoder" (some id)
    | .crtc id => planned? "crtc" (some id)
    | .addFramebuffer _ => planned? "add_fb" none
    | .setCrtc id .. => planned? "set_crtc" (some id)
    | _ => none
  shortage _ _ := planned? "alloc" none
  unnumbered := .noEntry
  depleted := .noEntry
  IsPitch width _ pitch := pitch = width * 4
  pitch width _ := width * 4
  isPitch _ _ := rfl
  refusal_add _ _ _ _ := rfl
  refusal_set _ _ := rfl

/-- The next number of a framebuffer and the next handle are not in use. -/
structure Platform.State.Ready (s : State) (handle : UInt32) : Prop where
  kernel : s.kernel.Ready
  nonzero : handle ≠ 0
  unused : handle ∉ s.taken

namespace Simulation.Machine

/-- The plan that is kept under a key. -/
def planFor? (machine : Machine) (key : String) : Option Plan :=
  (machine.plans.find? (·.1 = key)).map (·.2)

/-- The fault with which the next call of a kind would fail by plan. -/
def planned? (machine : Machine) (kind : String) (id : Option UInt32) : Option Fault :=
  (nextFault kind id machine).1

/-- What stands behind the platform of a machine. -/
def state (machine : Machine) : Platform.State where
  kernel := machine.kernel
  taken := machine.buffers

/-- Whether no call fails by a queue, and no framebuffer is kept from being removed. -/
structure Steady (machine : Machine) : Prop where
  always : ∀ key plan, machine.planFor? key = some plan → ∃ fault, plan = .always fault
  removes : ∀ id, machine.planned? "rm_fb" (some id) = none

variable {machine after : Machine} {kind : String} {id : Option UInt32}

/-- The key under which the plan for a call is found does not depend on the order of the plans. -/
theorem planKey?_congr (same : after.planFor? = machine.planFor?) :
    after.planKey? kind id = machine.planKey? kind id := by
  have kept (key : String) : after.plans.any (·.1 = key) = machine.plans.any (·.1 = key) := by
    have found : (after.planFor? key).isSome = (machine.planFor? key).isSome := by rw [same]
    simpa [planFor?, List.isSome_find?] using found
  simp only [planKey?, kept]

theorem planned?_eq (machine : Machine) (kind : String) (id : Option UInt32) :
    machine.planned? kind id =
      ((machine.planKey? kind id).bind machine.planFor?).bind fun plan => plan.next.1 := by
  unfold planned? nextFault planFor?
  cases machine.planKey? kind id with
  | none => rfl
  | some key => cases found : machine.plans.find? (·.1 = key) <;> simp [found]

/-- The faults that are planned depend on the plans alone. -/
theorem planned?_congr (same : after.planFor? = machine.planFor?) :
    after.planned? = machine.planned? := by
  funext kind id
  rw [planned?_eq, planned?_eq, same, planKey?_congr same]

/-- A fault that is planned for all calls stays planned. -/
theorem Steady.nextFault_eq (steady : machine.Steady) (kind : String) (id : Option UInt32) :
    ∃ plans, nextFault kind id machine = (machine.planned? kind id, { machine with plans }) ∧
      planFor? { machine with plans } = machine.planFor? := by
  unfold planned? nextFault
  cases machine.planKey? kind id with
  | none => exact ⟨machine.plans, rfl, rfl⟩
  | some key =>
  cases found : machine.plans.find? (·.1 = key) with
  | none => exact ⟨machine.plans, by simp [found], rfl⟩
  | some entry =>
    obtain ⟨key', plan⟩ := entry
    obtain ⟨fault, rfl⟩ := steady.always key plan (by simp [planFor?, found])
    let plans := (key, .always fault) :: machine.plans.filter (·.1 ≠ key)
    refine ⟨plans, by simp [found, Plan.next, plans], ?_⟩
    funext other
    by_cases asked : other = key
    · rw [asked, planFor?, planFor?, found]
      simp [plans]
    · have differs : key ≠ other := Ne.symm asked
      have others (entry : String × Plan) :
          (!decide (entry.1 = key) && decide (entry.1 = other)) = decide (entry.1 = other) := by
        by_cases sought : entry.1 = other <;> simp [sought, asked]
      simp [planFor?, plans, differs, others]

/-- The policy of the plans of a machine. -/
def policy (machine : Machine) : Policy := .ofPlans machine.planned?

theorem Steady.of_planFor? (steady : machine.Steady) (plans : after.planFor? = machine.planFor?) :
    after.Steady where
  always key plan kept := steady.always key plan (by rw [← plans]; exact kept)
  removes id := by rw [planned?_congr plans]; exact steady.removes id

theorem policy_congr (plans : after.planFor? = machine.planFor?) :
    after.policy = machine.policy := by
  rw [policy, policy, planned?_congr plans]

/-- `machine.Kept after`: no plan has changed, and neither has the pool of memory. -/
structure Kept (machine after : Machine) : Prop where
  plans : after.planFor? = machine.planFor?
  buffers : after.buffers = machine.buffers

theorem Kept.state_eq (kept : machine.Kept after) :
    after.state = { machine.state with kernel := after.kernel } := by
  rw [state, state, kept.buffers]

theorem eq_error_of_map {α β : Type} {attempt : Except Fault α} {f : α → β} {fault : Fault}
    (failed : attempt.map f = .error fault) : attempt = .error fault := by
  cases attempt with
  | error => exact congrArg Except.error (Except.error.inj failed)
  | ok => cases failed

/-- The ways in which a call to the kernel can go: its outcome, and the kernel behind it. -/
inductive Performed {α : Type} (machine : Machine) (kind : String) (id : Option UInt32)
    (act : Kernel → Except Fault (α × Kernel)) : Except Fault α → Kernel → Prop
  | planned {fault : Fault} (planned : machine.planned? kind id = some fault) :
      Performed machine kind id act (.error fault) machine.kernel
  | failed {fault : Fault} (unplanned : machine.planned? kind id = none)
      (acted : act machine.kernel = .error fault) :
      Performed machine kind id act (.error fault) machine.kernel
  | done {reply : α} {kernel : Kernel} (unplanned : machine.planned? kind id = none)
      (acted : act machine.kernel = .ok (reply, kernel)) :
      Performed machine kind id act (.ok reply) kernel

namespace Steady

variable {α : Type} {line : String} {showReply : α → String} {outcome : Except Fault α}

/-- A call to the kernel fails if it is planned to, and otherwise does what it is to do. -/
theorem performed (steady : machine.Steady) {act : Kernel → Except Fault (α × Kernel)}
    (performed : perform line showReply kind id act machine = (outcome, after)) :
    machine.Kept after ∧ machine.Performed kind id act outcome after.kernel := by
  obtain ⟨plans, next, same⟩ := steady.nextFault_eq kind id
  unfold perform attempt at performed
  simp only [bind, StateT.bind, next] at performed
  cases planned : machine.planned? kind id with
  | some fault =>
    rw [planned] at performed
    cases performed
    exact ⟨⟨same, rfl⟩, .planned planned⟩
  | none =>
    simp only [planned, get, getThe, MonadStateOf.get, StateT.get, StateT.bind, pure, bind]
      at performed
    cases acted : act machine.kernel with
    | error fault =>
      rw [acted] at performed
      cases performed
      exact ⟨⟨same, rfl⟩, .failed planned acted⟩
    | ok pair =>
      obtain ⟨reply, kernel⟩ := pair
      rw [acted] at performed
      cases performed
      exact ⟨⟨same, rfl⟩, .done planned acted⟩

end Steady

variable {call : Kms.Call} {answer : Kms.Answer call} {line : String}

/-- What is asked for is described as the machine shows it. -/
theorem Steady.shown (steady : machine.Steady) {read : Kernel → Kms.Answer call}
    {showReply : Kms.Reply call → String}
    (refusal : machine.policy.refusal call = machine.planned? kind id)
    (shows : (machine.policy.view machine.state).answer? call =
      some (machine.policy.unlessRefused call (read machine.kernel)))
    (performed : perform line showReply kind id (look read) machine = (answer, after)) :
    machine.Kept after ∧ machine.policy.Answers machine.state (.kms call answer) after.state := by
  obtain ⟨kept, performed⟩ := steady.performed performed
  have told : after.kernel = machine.kernel ∧
      machine.policy.unlessRefused call (read machine.kernel) = answer := by
    generalize after.kernel = kernel at performed
    unfold Policy.unlessRefused
    rw [refusal]
    cases performed with
    | planned planned => exact ⟨rfl, by rw [planned]⟩
    | failed unplanned acted =>
      rw [unplanned]
      exact ⟨rfl, eq_error_of_map acted⟩
    | done unplanned acted =>
      obtain ⟨_, seen, pair⟩ := Kernel.exists_of_map_eq_ok acted
      cases pair
      rw [unplanned]
      exact ⟨rfl, seen⟩
  rw [kept.state_eq, told.1]
  exact ⟨kept, .shown (by rw [shows, told.2])⟩

/-- A call that concerns neither framebuffers nor CRTCs nor memory may be answered in any way. -/
theorem Kept.unrelated (kept : machine.Kept after) (unread : call.isRead = false)
    (unrelated : call.isUnrelated = true)
    (framebuffers : after.kernel.framebuffers = machine.kernel.framebuffers)
    (crtcs : after.kernel.crtcs = machine.kernel.crtcs) :
    machine.policy.Answers machine.state (.kms call answer) after.state :=
  .unrelated unread unrelated framebuffers crtcs kept.buffers

/-- A number that is not alive yet is added at the end. -/
theorem bear_eq {id : UInt32} {alive : List UInt32} (nonzero : id ≠ 0) (dead : id ∉ alive) :
    Kernel.bear id alive = alive ++ [id] :=
  if_neg (by simp [nonzero, dead])

/-- A call to the open device is answered by the policy. -/
theorem Steady.answers_of_kms (steady : machine.Steady)
    (answered : kms call machine = (answer, after)) :
    machine.Kept after ∧ (machine.state.Ready machine.nextBuffer →
      machine.policy.Answers machine.state (.kms call answer) after.state) := by
  cases call with
  | resources | connector | encoder | crtc =>
    obtain ⟨kept, answers⟩ := steady.shown rfl rfl answered
    exact ⟨kept, fun _ => answers⟩
  | property id =>
    have kept := (steady.performed answered).1
    rw [kept.state_eq, (of_perform_look answered).1]
    exact ⟨kept, fun _ => .property id answer⟩
  | commandWrite | commandWriteRead =>
    have kept := (steady.performed answered).1
    have same := (of_perform_look answered).1
    exact ⟨kept, fun _ => kept.unrelated rfl rfl (by rw [same]) (by rw [same])⟩
  | addFramebuffer spec =>
    obtain ⟨kept, performed⟩ := steady.performed answered
    refine ⟨kept, fun ready => ?_⟩
    rw [kept.state_eq]
    generalize after.kernel = kernel at performed
    cases performed with
    | planned planned => exact .unadded planned
    | failed _ acted => cases acted
    | done unplanned acted =>
      cases acted
      have nonzero : machine.kernel.nextFramebuffer ≠ 0 := ready.kernel.1
      have dead : machine.kernel.nextFramebuffer ∉ machine.kernel.framebuffers :=
        fun alive => ready.kernel.2 (.inl alive)
      rw [bear_eq nonzero dead]
      exact .added unplanned nonzero ready.kernel.2 _
  | removeFramebuffer id =>
    obtain ⟨kept, performed⟩ := steady.performed answered
    refine ⟨kept, fun ready => ?_⟩
    rw [kept.state_eq]
    generalize after.kernel = kernel at performed
    cases performed with
    | planned planned =>
      rw [steady.removes id] at planned
      cases planned
    | failed _ acted =>
      have dead : id ∉ machine.kernel.framebuffers := fun alive => by
        simpa [Kernel.removeFramebuffer, alive] using eq_error_of_map acted
      exact .dead dead _
    | done _ acted =>
      obtain ⟨_, removal, pair⟩ := Kernel.exists_of_map_eq_ok acted
      cases pair
      exact .removed removal
  | setCrtc id framebuffer x y connectors mode =>
    obtain ⟨kept, performed⟩ := steady.performed answered
    refine ⟨kept, fun ready => ?_⟩
    rw [kept.state_eq]
    generalize after.kernel = kernel at performed
    cases performed with
    | planned planned => exact .unset planned
    | failed _ acted =>
      have failed := eq_error_of_map acted
      refine .missing (.inl fun crtc found => ?_) _
      simp [Kernel.setCrtc, show machine.kernel.findCrtc id = .ok crtc from found, bind,
        Except.bind, pure, Except.pure] at failed
    | done unplanned acted =>
      obtain ⟨_, set, pair⟩ := Kernel.exists_of_map_eq_ok acted
      cases pair
      exact .set unplanned set
  | setConnectorProperty connector property value =>
    have kept := (steady.performed answered).1
    rcases of_perform_change answered with ⟨_, -, same⟩ | ⟨-, set⟩
    · exact ⟨kept, fun _ => kept.unrelated rfl rfl (by rw [same]) (by rw [same])⟩
    · obtain ⟨framebuffers, crtcs⟩ := Kernel.of_setProperty set
      exact ⟨kept, fun _ => kept.unrelated rfl rfl framebuffers crtcs⟩
  | createDumb width height bpp =>
    have kept := (steady.performed answered).1
    rcases of_perform answered with ⟨_, -, same⟩ | ⟨_, -, created⟩
    · exact ⟨kept, fun _ => kept.unrelated rfl rfl (by rw [same]) (by rw [same])⟩
    · obtain ⟨-, changed⟩ := Prod.mk.inj (Except.ok.inj created)
      exact ⟨kept, fun _ => kept.unrelated rfl rfl (by rw [← changed]) (by rw [← changed])⟩
  | destroyDumb handle =>
    have kept := (steady.performed answered).1
    rcases of_perform_change answered with ⟨_, -, same⟩ | ⟨-, destroyed⟩
    · exact ⟨kept, fun _ => kept.unrelated rfl rfl (by rw [same]) (by rw [same])⟩
    · obtain ⟨framebuffers, crtcs⟩ := Kernel.of_destroyDumb destroyed
      exact ⟨kept, fun _ => kept.unrelated rfl rfl framebuffers crtcs⟩

/-- To open the device node changes nothing that a policy is about. -/
theorem Steady.answers_of_openNode (steady : machine.Steady) {path : Path}
    {answer : Except Fault Unit} (answered : device (.openNode path) machine = (answer, after)) :
    after.planFor? = machine.planFor? ∧ after.state = machine.state := by
  rcases performed : perform s!"open {path.display}" showDone "open" none (look fun _ => .ok ())
    machine with ⟨outcome, next⟩
  have kept := (steady.performed performed).1
  have same := (of_perform_look performed).1
  have state : next.state = machine.state := by rw [kept.state_eq, same]; rfl
  unfold device at answered
  simp only [bind, StateT.bind] at answered
  rw [performed] at answered
  cases outcome with
  | error fault =>
    cases answered
    exact ⟨kept.plans, state⟩
  | ok reply =>
    cases answered
    exact ⟨kept.plans, state⟩

theorem Steady.answers_of_allocate (steady : machine.Steady) {width height : UInt32}
    {answer : Except Fault Buffer} (answered : allocate width height machine = (answer, after)) :
    after.planFor? = machine.planFor? ∧ (machine.state.Ready machine.nextBuffer →
      machine.policy.Answers machine.state (.allocated width height answer) after.state) := by
  obtain ⟨plans, next, same⟩ := steady.nextFault_eq "alloc" none
  unfold allocate at answered
  simp only [bind, StateT.bind, next] at answered
  cases planned : machine.planned? "alloc" none with
  | some fault =>
    rw [planned] at answered
    cases answered
    exact ⟨same, fun _ => .short planned⟩
  | none =>
    rw [planned] at answered
    cases answered
    refine ⟨same, fun ready => ?_⟩
    have allocated : machine.policy.Answers machine.state
        (.allocated width height (.ok ⟨machine.nextBuffer, width * 4⟩))
        { machine.state with taken := machine.buffers ++ [machine.nextBuffer] } :=
      .allocated planned ready.nonzero ready.unused rfl
    have unused : machine.nextBuffer ∉ machine.buffers := ready.unused
    rw [← bear_eq ready.nonzero unused] at allocated
    exact allocated

/-- A machine that is steady is a platform that does not count: it answers every call by the policy
of its plans, and keeps them. -/
theorem Steady.answers (steady : machine.Steady) {event : Event Platform}
    (answered : platform event.call machine = (event.answer, after)) :
    after.Steady ∧ after.policy = machine.policy ∧
      (machine.state.Ready machine.nextBuffer →
        machine.policy.Answers machine.state event after.state) := by
  suffices kept : after.planFor? = machine.planFor? ∧
      (machine.state.Ready machine.nextBuffer →
        machine.policy.Answers machine.state event after.state) from
    ⟨steady.of_planFor? kept.1, policy_congr kept.1, kept.2⟩
  obtain ⟨(path | _ | call) | ⟨width, height⟩ | handle, answer⟩ := event
  · obtain ⟨plans, same⟩ := steady.answers_of_openNode answered
    rw [same]
    exact ⟨plans, fun _ => .opened path answer⟩
  · cases answered
    exact ⟨rfl, fun _ => .closed⟩
  · obtain ⟨kept, answers⟩ := steady.answers_of_kms answered
    exact ⟨kept.plans, answers⟩
  · exact steady.answers_of_allocate answered
  · cases answered
    exact ⟨rfl, fun _ => .released handle⟩

/-- What a steady machine makes of a procedure is one of its runs, and the calls of this run are
answered by the policy as long as the next numbers are not in use. -/
theorem Steady.exists_follows_of_interpret {α : Type} (steady : machine.Steady)
    (p : Proc Platform α) :
    ∃ events, p.Run events (p.interpret platform keepNote machine).1 ∧
      Follows (fun s event t => s.1.Ready s.2 → machine.policy.Answers s.1 event t.1)
        (machine.state, machine.nextBuffer) events
        ((p.interpret platform keepNote machine).2.state,
          (p.interpret platform keepNote machine).2.nextBuffer) := by
  induction p generalizing machine with
  | done result => exact ⟨[], .done result, rfl⟩
  | call c next ih =>
    rcases answered : platform c machine with ⟨answer, later⟩
    have interpreted : (Proc.call c next).interpret platform keepNote machine =
        (next answer).interpret platform keepNote later := by
      rw [Proc.interpret_call]
      simp only [bind, StateT.bind]
      rw [answered]
    obtain ⟨still, same, answers⟩ := @Steady.answers machine later steady ⟨c, answer⟩ answered
    obtain ⟨events, run, path⟩ := ih answer still
    rw [same] at path
    rw [interpreted]
    exact ⟨⟨c, answer⟩ :: events, .call run, (later.state, later.nextBuffer), answers, path⟩
  | note entry next ih =>
    -- A note changes the machine, but neither its plans nor what stands behind the platform.
    let noted : Machine := { machine with notes := entry :: machine.notes }
    have still : noted.Steady := steady.of_planFor? rfl
    have same : noted.policy = machine.policy := policy_congr rfl
    obtain ⟨events, run, path⟩ := ih still
    rw [same] at path
    exact ⟨events, .note run, path⟩

end Simulation.Machine

end Modeset
