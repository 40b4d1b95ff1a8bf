import Modeset.Cli.Run
import Modeset.Proofs.Layer

/-!
# What commands do

A command is not a plain procedure: it may fail half way, and while the device is open it has a
manager to work on. Here its runs are taken apart along its steps. Every step that is done with the
manager is, below, a run of an operation of the manager on some platform, of which the terminal is
just one; so what has been shown of the operations holds of the commands.

## Main definitions

* `Session.Ran` — the runs of work with an open device
* `Reached` — how far a command has got with an open device
* `Opened`, `Conducted` — the ways in which a command can go that opens the device

## Main results

* `exists_run_of_onPlatform` — what is done with a manager is a run of the operation
* `worked_bind_iff`, `worked_lift_bind_iff` — the steps of work that may fail
* `ran_bind_iff`, `ran_query_bind_iff`, `ran_operate_iff` — the steps of work with an open device
* `opened_of_run`, `conducted_of_run` — there are no other ways
* `Reached.rest`, `exists_reached` — a command that goes on, goes on from where it has got
-/

namespace Modeset

open Proc

variable {α β : Type}

namespace Cli

instance : DecidableEq Terminal.Call := inferInstanceAs (DecidableEq (Device.Call ⊕ Host.Call))

variable {manager after : Manager} {events : List (Event Terminal)}

/-- What is done with a manager at the terminal is a run of the operation. -/
theorem exists_run_of_onPlatform {operation : Manager → Proc Platform α} {a : α}
    (run : (onPlatform manager operation : Proc Terminal α).Run events a) :
    ∃ others, (operation manager).Run others a := by
  obtain ⟨device, run⟩ := exists_run_of_interpret run
  exact exists_run_of_interpret run

/-! ## Work that may fail -/

section Worked

variable {outcome : Except Failure β}

/-- Work goes on where it has got to, unless it has failed. -/
theorem worked_bind_iff {work : Work α} {next : α → Work β} :
    (work >>= next).run.Run events outcome ↔
      (∃ failure, work.run.Run events (.error failure) ∧ outcome = .error failure) ∨
        ∃ a first rest, work.run.Run first (.ok a) ∧ (next a).run.Run rest outcome ∧
          events = first ++ rest := by
  rw [ExceptT.run_bind, run_bind_iff]
  constructor
  · rintro ⟨first, inner, rest, run, later, rfl⟩
    cases inner with
    | error failure =>
      obtain ⟨rfl, rfl⟩ := run_done_iff.mp later
      rw [List.append_nil]
      exact .inl ⟨failure, run, rfl⟩
    | ok a => exact .inr ⟨a, first, rest, run, later, rfl⟩
  · rintro (⟨failure, run, rfl⟩ | ⟨a, first, rest, run, later, rfl⟩)
    · exact ⟨events, _, [], run, .done _, (List.append_nil _).symm⟩
    · exact ⟨first, _, rest, run, later, rfl⟩

/-- What is done at the terminal cannot fail by itself. -/
theorem worked_lift_iff {p : Proc Terminal β} :
    (liftM p : Work β).run.Run events outcome ↔ ∃ b, p.Run events b ∧ outcome = .ok b :=
  run_bind_pure_iff

theorem worked_lift_bind_iff {p : Proc Terminal α} {next : α → Work β} :
    ((liftM p : Work α) >>= next).run.Run events outcome ↔
      ∃ a first rest, p.Run first a ∧ (next a).run.Run rest outcome ∧ events = first ++ rest := by
  rw [worked_bind_iff]
  constructor
  · rintro (⟨failure, lifted, -⟩ | ⟨a, first, rest, lifted, later, rfl⟩)
    · obtain ⟨_, -, impossible⟩ := worked_lift_iff.mp lifted
      cases impossible
    · obtain ⟨_, run, same⟩ := worked_lift_iff.mp lifted
      obtain rfl := Except.ok.inj same
      exact ⟨a, first, rest, run, later, rfl⟩
  · rintro ⟨a, first, rest, run, later, rfl⟩
    exact .inr ⟨a, first, rest, worked_lift_iff.mpr ⟨a, run, rfl⟩, later, rfl⟩

end Worked

/-! ## Work with an open device -/

/-- The runs of work with an open device: the calls with their answers, the outcome, and the manager
afterwards. -/
def Session.Ran (session : Session α) (manager : Manager) (events : List (Event Terminal))
    (outcome : Except Failure α) (after : Manager) : Prop :=
  (session.run.run manager).Run events (outcome, after)

section Ran

variable {session : Session α} {outcome : Except Failure α}

@[simp] theorem ran_pure_iff {a : α} :
    (pure a : Session α).Ran manager events outcome after ↔
      events = [] ∧ outcome = .ok a ∧ after = manager := by
  refine run_done_iff.trans (and_congr_right fun _ => ?_)
  exact Prod.mk.injEq .. ▸ Iff.rfl

@[simp] theorem ran_throw_iff {failure : Failure} :
    (throw failure : Session α).Ran manager events outcome after ↔
      events = [] ∧ outcome = .error failure ∧ after = manager := by
  refine run_done_iff.trans (and_congr_right fun _ => ?_)
  exact Prod.mk.injEq .. ▸ Iff.rfl

/-- Work goes on where it has got to, unless it has failed. -/
theorem ran_bind_iff {next : α → Session β} {outcome : Except Failure β} :
    (session >>= next).Ran manager events outcome after ↔
      (∃ failure, session.Ran manager events (.error failure) after ∧ outcome = .error failure) ∨
        ∃ a middle first rest, session.Ran manager first (.ok a) middle ∧
          (next a).Ran middle rest outcome after ∧ events = first ++ rest := by
  have step : (session >>= next).run.run manager = session.run.run manager >>= fun reached =>
      match reached.1 with
      | .ok a => (next a).run.run reached.2
      | .error failure => pure (.error failure, reached.2) := by
    rw [ExceptT.run_bind, StateT.run_bind]
    congr 1
    funext ⟨inner, middle⟩
    cases inner <;> rfl
  unfold Session.Ran
  rw [step, run_bind_iff]
  constructor
  · rintro ⟨first, ⟨inner, middle⟩, rest, run, next_run, rfl⟩
    cases inner with
    | error failure =>
      obtain ⟨rfl, same⟩ := run_done_iff.mp next_run
      obtain ⟨rfl, rfl⟩ := Prod.mk.inj same
      rw [List.append_nil]
      exact .inl ⟨failure, run, rfl⟩
    | ok a => exact .inr ⟨a, middle, first, rest, run, next_run, rfl⟩
  · rintro (⟨failure, run, rfl⟩ | ⟨a, middle, first, rest, run, next_run, rfl⟩)
    · exact ⟨events, _, [], run, .done _, (List.append_nil _).symm⟩
    · exact ⟨first, _, rest, run, next_run, rfl⟩

/-- What is done at the terminal leaves the manager as it is. -/
theorem ran_lift_iff {p : Proc Terminal α} :
    (liftM p : Session α).Ran manager events outcome after ↔
      ∃ a, p.Run events a ∧ outcome = .ok a ∧ after = manager := by
  have step : (liftM p : Session α).run.run manager = p >>= fun a => pure (.ok a, manager) := by
    have unfolded : (liftM p : Session α).run.run manager =
        ((p >>= fun a => pure (a, manager)) >>= fun reached =>
          pure ((.ok reached.1 : Except Failure α), reached.2)) := rfl
    rw [unfolded, LawfulMonad.bind_assoc]
    rfl
  unfold Session.Ran
  rw [step, run_bind_pure_iff]
  simp only [Prod.mk.injEq]

/-- What is done at the terminal cannot fail, and work goes on from what it returns. -/
theorem ran_lift_bind_iff {p : Proc Terminal α} {next : α → Session β}
    {outcome : Except Failure β} :
    ((liftM p : Session α) >>= next).Ran manager events outcome after ↔
      ∃ a first rest, p.Run first a ∧ (next a).Ran manager rest outcome after ∧
        events = first ++ rest := by
  rw [ran_bind_iff]
  constructor
  · rintro (⟨failure, lifted, -⟩ | ⟨a, middle, first, rest, lifted, later, rfl⟩)
    · obtain ⟨_, -, impossible, -⟩ := ran_lift_iff.mp lifted
      cases impossible
    · obtain ⟨_, run, same, rfl⟩ := ran_lift_iff.mp lifted
      obtain rfl := Except.ok.inj same
      exact ⟨_, first, rest, run, later, rfl⟩
  · rintro ⟨a, first, rest, run, later, rfl⟩
    exact .inr ⟨a, manager, first, rest, ran_lift_iff.mpr ⟨a, run, rfl, rfl⟩, later, rfl⟩

theorem ran_set_bind_iff {next : PUnit → Session α} {other : Manager} :
    (set other >>= next).Ran manager events outcome after ↔
      (next ⟨⟩).Ran other events outcome after :=
  Iff.rfl

/-- A question is put to the manager, and work goes on from the answer. -/
theorem ran_query_bind_iff {operation : Manager → Proc Platform α} {next : α → Session β}
    {outcome : Except Failure β} :
    (Session.query operation >>= next).Ran manager events outcome after ↔
      ∃ a first rest, (onPlatform manager operation : Proc Terminal α).Run first a ∧
        (next a).Ran manager rest outcome after ∧ events = first ++ rest :=
  ran_lift_bind_iff

/-- What is done with the manager changes it, also if it fails. -/
theorem ran_operate_iff {operation : Manager → Proc Platform (Except Error α × Manager)} :
    (Session.operate operation).Ran manager events outcome after ↔
      ∃ result, (onPlatform manager operation : Proc Terminal _).Run events (result, after) ∧
        outcome = result.mapError .error := by
  unfold Session.operate
  refine ran_query_bind_iff.trans ?_
  constructor
  · rintro ⟨⟨result, next⟩, first, rest, run, last, rfl⟩
    rw [ran_set_bind_iff] at last
    cases result with
    | ok a =>
      obtain ⟨rfl, rfl, rfl⟩ := ran_pure_iff.mp last
      rw [List.append_nil]
      exact ⟨_, run, rfl⟩
    | error error =>
      obtain ⟨rfl, rfl, rfl⟩ := ran_throw_iff.mp last
      rw [List.append_nil]
      exact ⟨_, run, rfl⟩
  · rintro ⟨result, run, rfl⟩
    refine ⟨(result, after), events, [], run, ?_, (List.append_nil events).symm⟩
    rw [ran_set_bind_iff]
    cases result with
    | ok a => exact ran_pure_iff.mpr ⟨rfl, rfl, rfl⟩
    | error error => exact ran_throw_iff.mpr ⟨rfl, rfl, rfl⟩

/-- Context is told with a failure and changes nothing else. -/
theorem ran_inContext_iff {context : String} :
    Session.Ran (inContext context session) manager events outcome after ↔
      ∃ inner, session.Ran manager events inner after ∧
        outcome = inner.mapError (.inContext context) := by
  have step : (inContext context session).run.run manager = session.run.run manager >>=
      fun reached => pure (reached.1.mapError (.inContext context), reached.2) := rfl
  unfold Session.Ran
  rw [step, run_bind_pure_iff]
  constructor
  · rintro ⟨⟨inner, middle⟩, run, same⟩
    obtain ⟨rfl, rfl⟩ := Prod.mk.inj same
    exact ⟨inner, run, rfl⟩
  · rintro ⟨inner, run, rfl⟩
    exact ⟨(inner, after), run, rfl⟩

/-- A note does not matter. -/
@[simp] theorem ran_note_bind_iff {level : Level} {topic : Topic} {text : String}
    {next : Unit → Session α} :
    ((note level topic text : Session Unit) >>= next).Ran manager events outcome after ↔
      (next ()).Ran manager events outcome after :=
  run_note_iff

end Ran

/-! ## Commands that open the device -/

/-- The first part of a command that opens the device: it is opened as the configuration says. -/
def opening (path : Option Path) : Work Manager := do
  let config ← loadConfig path
  let (outcome, manager) ← onPlatform (Manager.new config) Manager.start
  ofOutcome outcome
  return manager

/-- How the configuration is loaded from a path, or the user's. -/
def loading (path : Option Path) : Proc Host (Except Error Config) :=
  (path.map Config.loadFrom).getD Config.load

/-- The ways in which the device can be opened: the calls with their answers, and the outcome. -/
inductive Opened (path : Option Path) :
    List (Event Terminal) → Except Failure Manager → Prop
  /-- The configuration cannot be loaded. -/
  | unloaded {own : List (Event Host)} {error : Error}
      (load : (loading path).Run own (.error error)) :
      Opened path (own.map Event.onRight) (.error (.error error))
  /-- The device that the configuration names is opened, or cannot be. -/
  | started {own : List (Event Host)} {config : Config} (load : (loading path).Run own (.ok config))
      {rest : List (Event Terminal)} {result : Except Error Unit} {manager : Manager}
      (start : (onPlatform (Manager.new config) Manager.start :
        Proc Terminal (Except Error Unit × Manager)).Run rest (result, manager)) :
      Opened path (own.map Event.onRight ++ rest) ((result.map fun _ => manager).mapError .error)

theorem opened_of_run {path : Option Path} {outcome : Except Failure Manager}
    (run : (opening path).run.Run events outcome) : Opened path events outcome := by
  simp only [opening, loadConfig, LawfulMonad.bind_assoc] at run
  obtain ⟨loaded, first, rest, load, run, rfl⟩ := worked_lift_bind_iff.mp run
  obtain ⟨own, own_run, rfl⟩ := run_right_iff.mp load
  cases loaded with
  | error error =>
    obtain ⟨rfl, rfl⟩ := run_done_iff.mp run
    rw [List.append_nil]
    exact .unloaded own_run
  | ok config =>
    have starts : (onPlatform (Manager.new config) Manager.start >>= fun started =>
        ofOutcome started.1 >>= fun _ => pure started.2 : Work Manager).run.Run rest outcome :=
      run_note_iff.mp run
    obtain ⟨⟨result, manager⟩, starting, last, start, ended, rfl⟩ := worked_lift_bind_iff.mp starts
    obtain ⟨rfl, rfl⟩ : last = [] ∧ outcome = (result.map fun _ => manager).mapError .error := by
      cases result <;> exact run_done_iff.mp ended
    rw [List.append_nil]
    exact .started own_run start

/-- The other part: some work is done with the device, and then it is closed. -/
def conduct (session : Session Unit) (manager : Manager) : Work Unit := do
  let (outcome, manager) ← ExceptT.lift (session.run.run manager)
  let _ ← onPlatform manager Manager.stop
  ExceptT.mk (pure outcome)

theorem withSession_eq (path : Option Path) (session : Session Unit) :
    withSession path session = opening path >>= conduct session := by
  simp only [withSession, opening, LawfulMonad.bind_assoc, LawfulMonad.pure_bind]
  rfl

/-- The ways in which a command can go that opens the device: the calls with their answers, and the
outcome. -/
inductive Conducted (path : Option Path) (session : Session Unit) :
    List (Event Terminal) → Except Failure Unit → Prop
  /-- The device is not opened. -/
  | unopened {events : List (Event Terminal)} {failure : Failure}
      (failed : (opening path).run.Run events (.error failure)) :
      Conducted path session events (.error failure)
  /-- The work is done, with whatever outcome, and the device is closed. -/
  | held {first second last : List (Event Terminal)} {outcome : Except Failure Unit}
      {opened manager stopped : Manager} (start : (opening path).run.Run first (.ok opened))
      (ran : session.Ran opened second outcome manager)
      (stop : (onPlatform manager Manager.stop : Proc Terminal Manager).Run last stopped) :
      Conducted path session (first ++ (second ++ last)) outcome

section Conducted

variable {path : Option Path} {session : Session Unit} {outcome : Except Failure Unit}

theorem conducted_of_run (run : (withSession path session).run.Run events outcome) :
    Conducted path session events outcome := by
  rw [withSession_eq, ExceptT.run_bind] at run
  obtain ⟨first, started, rest, start, next, rfl⟩ := run_bind_iff.mp run
  cases started with
  | error failure =>
    obtain ⟨rfl, rfl⟩ := run_done_iff.mp next
    rw [List.append_nil]
    exact .unopened start
  | ok opened =>
    have parts : (conduct session opened).run = session.run.run opened >>= fun reached =>
        onPlatform reached.2 Manager.stop >>= fun _ => pure reached.1 := by
      simp [conduct, onPlatform, liftM, monadLift, MonadLift.monadLift]
    have ending : (conduct session opened).run.Run rest outcome := next
    rw [parts] at ending
    obtain ⟨second, ⟨inner, manager⟩, last, ran, closing, rfl⟩ := run_bind_iff.mp ending
    obtain ⟨stopped, stop, rfl⟩ := run_bind_pure_iff.mp closing
    exact .held start ran stop

/-- A command has opened the device and has gone through some work with it: the calls so far, with
their answers, and the manager there. -/
def Reached (path : Option Path) (session : Session Unit) (events : List (Event Terminal))
    (manager : Manager) : Prop :=
  ∃ opened first second, (opening path).run.Run first (.ok opened) ∧
    session.Ran opened second (.ok ()) manager ∧ events = first ++ second

namespace Reached

variable {before others : List (Event Terminal)} {next : Unit → Session Unit}

/-- The answers determine how far a command has got with some work. -/
theorem eq_of_append_eq {past rest : List (Event Terminal)}
    (reached : Reached path session before manager) (other : Reached path session past after)
    (same : before ++ others = past ++ rest) : before = past ∧ manager = after := by
  obtain ⟨opened, first, second, start, work, rfl⟩ := reached
  obtain ⟨opened', first', second', start', work', rfl⟩ := other
  rw [List.append_assoc, List.append_assoc] at same
  obtain ⟨rfl, started⟩ := start.eq_of_append_eq start' same
  obtain rfl := Except.ok.inj started
  obtain ⟨rfl, done⟩ := work.eq_of_append_eq work' (List.append_cancel_left same)
  exact ⟨rfl, (Prod.mk.inj done).2⟩

/-- Further work leads further. -/
theorem bind (reached : Reached path session before manager)
    (ran : (next ()).Ran manager others (.ok ()) after) :
    Reached path (session >>= next) (before ++ others) after := by
  obtain ⟨opened, first, second, start, work, rfl⟩ := reached
  refine ⟨opened, first, second ++ others, start, ?_, List.append_assoc ..⟩
  exact ran_bind_iff.mpr (.inr ⟨(), manager, second, others, work, ran, rfl⟩)

/-- A command that has got somewhere goes on from there. -/
theorem rest (reached : Reached path session before manager)
    (run : (withSession path (session >>= next)).run.Run (before ++ others) outcome) :
    ∃ middle last after stopped, (next ()).Ran manager middle outcome after ∧
      (onPlatform after Manager.stop : Proc Terminal Manager).Run last stopped ∧
      others = middle ++ last := by
  obtain ⟨opened, first, second, start, work, rfl⟩ := reached
  generalize hevents : first ++ second ++ others = events at run
  rw [List.append_assoc] at hevents
  -- The answers are the same so far, so the command has opened the device and done the work.
  cases conducted_of_run run with
  | unopened failed =>
    rw [← List.append_nil events] at hevents
    cases (start.eq_of_append_eq failed hevents).2
  | @held start_events events last _ _ after stopped start' ran stop =>
    obtain ⟨rfl, same⟩ := start.eq_of_append_eq start' hevents
    obtain rfl := Except.ok.inj same
    replace hevents := List.append_cancel_left hevents
    rcases ran_bind_iff.mp ran with ⟨failure, failed, -⟩ | ⟨⟨⟩, _, one, two, work', later, rfl⟩
    · cases (work.eq_of_append_eq failed hevents).2
    · rw [List.append_assoc] at hevents
      obtain ⟨rfl, same⟩ := work.eq_of_append_eq work' hevents
      obtain ⟨-, rfl⟩ := Prod.mk.inj same
      exact ⟨two, last, after, stopped, later, stop, List.append_cancel_left hevents⟩

end Reached

/-- A command that succeeds has gone through all its work. -/
theorem exists_reached {next : Unit → Session Unit}
    (run : (withSession path (session >>= next)).run.Run events (.ok ())) :
    ∃ before rest manager, Reached path session before manager ∧ events = before ++ rest := by
  generalize houtcome : (.ok () : Except Failure Unit) = outcome at run
  cases conducted_of_run run with
  | unopened => cases houtcome
  | @held first second last _ opened manager stopped start ran stop =>
    subst houtcome
    rcases ran_bind_iff.mp ran with ⟨failure, -, impossible⟩ | ⟨⟨⟩, middle, one, two, work, -, rfl⟩
    · cases impossible
    · exact ⟨first ++ one, two ++ last, middle, ⟨opened, first, one, start, work, rfl⟩, by simp⟩

end Conducted

end Cli

end Modeset
