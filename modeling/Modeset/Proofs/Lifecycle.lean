import Modeset.Proofs.Ledger
import Modeset.Proofs.Silence
import Modeset.Proofs.Work

/-!
# The life of the device node

The manager opens its node, calls the device and the pool while it is open, and closes it. A node
may only be opened while it is shut, and only while it is open may it be called or closed. When it
is closed, everything that was obtained has been given back. What carries this is that a manager
without a device holds nothing, which each operation keeps.

## Main definitions

* `Node.Step` — what may happen to the node while it is open or shut
* `Event.turn` — the events by which it is opened and closed
* `Cleared` — both slots have just been given up
* `Lifecycle` — the life of the node along a history

## Main results

* `Node.alternates_of_follows` — openings and closings alternate
* `Manager.node_of_effect` — every operation keeps to what may happen to the node
* `History.cleared_of_closed` — the node is closed only when both slots have been given up
* `History.lifecycle` — the life of the node, until the manager is dropped
-/

namespace Modeset

variable {config : Config} {slot : Slot} {events : List (Event Platform)}

/-- What may happen to the device node while it is open (`true`) or shut (`false`), and whether it
is open then. -/
inductive Node.Step : Bool → Event Platform → Bool → Prop
  | opened (path : Path) : Step false (.opened path (.ok ())) true
  | unopened (path : Path) (fault : Fault) : Step false (.opened path (.error fault)) false
  | closed : Step true .closed false
  | called (call : Kms.Call) (answer : Kms.Answer call) : Step true (.kms call answer) true
  | allocated (width height : UInt32) (answer : Except Fault Buffer) :
      Step true (.allocated width height answer) true
  | released (handle : UInt32) : Step true (.released handle) true

/-- Whether the node is opened or closed by an event, if it is either. -/
def Event.turn (event : Event Platform) : Option Bool :=
  match event with
  | ⟨.inl (.openNode _), .ok _⟩ => some true
  | ⟨.inl .closeNode, _⟩ => some false
  | _ => none

namespace Node

variable {isOpen after : Bool}

/-- What may happen opens a node that is shut, closes one that is open, or leaves it as it is. -/
theorem Step.turn {event : Event Platform} (step : Step isOpen event after) :
    (event.turn = none ∧ after = isOpen) ∨ (event.turn = some after ∧ after ≠ isOpen) := by
  cases step with
  | opened | closed => exact .inr ⟨rfl, nofun⟩
  | unopened | called | allocated | released => exact .inl ⟨rfl, rfl⟩

/-- Openings and closings alternate. -/
theorem alternates_of_follows (path : Follows Step isOpen events after) :
    List.IsChain (· ≠ ·) (isOpen :: events.filterMap Event.turn) := by
  induction events generalizing isOpen with
  | nil => exact .singleton isOpen
  | cons event events ih =>
    obtain ⟨next, step, path⟩ := path
    have later := ih path
    rcases step.turn with ⟨still, rfl⟩ | ⟨turns, differs⟩
    · rwa [List.filterMap_cons_none still]
    · rw [List.filterMap_cons_some turns]
      exact .cons_cons differs.symm later

/-- The node stays open while it is used. -/
theorem follows_of_uses (uses : ∀ event ∈ events, Step true event true) :
    Follows Step true events true := by
  induction events with
  | nil => rfl
  | cons event events ih =>
    obtain ⟨first, rest⟩ := List.forall_mem_cons.mp uses
    exact ⟨true, first, ih rest⟩

end Node

/-- Work leaves the node open. -/
theorem Works.node (works : Works events) : Follows Node.Step true events true := by
  refine Node.follows_of_uses fun event member => ?_
  cases works event member with
  | steady steady =>
    obtain ⟨call, answer, -, rfl⟩ := steady
    exact .called call answer
  | allocated => exact .allocated _ _ _
  | released => exact .released _
  | added | removed | set => exact .called _ _

theorem Works.closed_notMem (works : Works events) : .closed ∉ events := by
  intro member
  -- Whatever is work, closing the node is none.
  generalize hclosed : Event.closed = event at member
  cases works event member with
  | steady steady =>
    obtain ⟨call, answer, -, rfl⟩ := steady
    cases hclosed
  | allocated | released | added | removed | set => cases hclosed

namespace Manager

variable {manager after : Manager}

@[simp] theorem isOpen_hold (output : Output) :
    (manager.hold slot output).isOpen = manager.isOpen := rfl

theorem Detected.isOpen_eq {result : Except Error Outcome}
    (detected : manager.Detected slot events (result, after)) : after.isOpen = manager.isOpen := by
  cases detected <;> rfl

/-- Who leaves a manager behind leaves the node shut. -/
theorem Closed.node (closed : manager.Closed events) :
    Follows Node.Step manager.isOpen events false := by
  cases closed with
  | shut shut =>
    rw [shut]
    rfl
  | opened isOpen retired =>
    rw [isOpen]
    exact retired.works.node.append ⟨false, .closed, rfl⟩

/-- Every operation keeps to what may happen to the node. -/
theorem node_of_effect (effect : manager.Effect events after) :
    Follows Node.Step manager.isOpen events after.isOpen := by
  cases effect with
  | steady steady =>
    cases events with
    | nil => rfl
    | cons event events =>
      rw [steady.isOpen (List.cons_ne_nil event events)]
      exact (works_of_isSteady steady.isSteady).node
  | unopened shut fault =>
    rw [shut]
    exact ⟨false, .unopened _ fault, rfl⟩
  | opened shut =>
    rw [shut]
    exact ⟨true, .opened _, rfl⟩
  | closed closed => exact closed.node
  | detected isOpen detected =>
    rw [detected.isOpen_eq, isOpen]
    exact detected.works.node
  | committed isOpen plugged listed commit =>
    rw [isOpen_hold, isOpen]
    exact commit.works.node

variable {before rest : List (Event Platform)}

/-- Who closes the node has given up both slots before, and does nothing more. -/
theorem Closed.retired (closed : manager.Closed events)
    (split : events = before ++ .closed :: rest) : manager.outputs.Retired before := by
  cases closed with
  | shut => simp at split
  | @opened _ first retired =>
    -- The node is not closed while the slots are given up, so it is by the last event.
    rcases List.append_eq_append_iff.mp split with ⟨others, rfl, last⟩ | ⟨others, rfl, last⟩
    · cases others with
      | nil => simpa using retired
      | cons event others => simp at last
    · cases others with
      | nil => simpa using retired
      | cons event others =>
        obtain ⟨rfl, -⟩ := List.cons.inj last
        exact absurd (by simp) retired.works.closed_notMem

/-- The node is only closed after both slots have been given up. -/
theorem retired_of_effect (effect : manager.Effect events after)
    (split : events = before ++ .closed :: rest) : manager.outputs.Retired before := by
  have closes : .closed ∈ events := by simp [split]
  cases effect with
  | steady steady => exact absurd closes (works_of_isSteady steady.isSteady).closed_notMem
  | unopened | opened => cases List.mem_singleton.mp closes
  | closed closed => exact closed.retired split
  | detected isOpen detected => exact absurd closes detected.works.closed_notMem
  | committed isOpen plugged listed commit => exact absurd closes commit.works.closed_notMem

end Manager

/-- At the end of the events both slots have just been given up, and with them everything that had
been obtained. -/
structure Cleared (config : Config) (events : List (Event Platform)) : Prop where
  retired : ∃ earlier manager last, History config earlier manager ∧
    manager.outputs.Retired last ∧ events = earlier ++ last
  exact : Ledger.Exact events []

section History

variable {manager : Manager} {before rest : List (Event Platform)}

/-- When the slots have been given up after a history, everything has been given back. -/
theorem History.cleared (history : History config events manager)
    (retired : manager.outputs.Retired before) : Cleared config (events ++ before) where
  retired := ⟨events, manager, before, history, retired, rfl⟩
  exact := Ledger.exact_of_follows (by simp)
    (history.follows.append (Manager.follows_of_outputs_retired history.sound retired))

/-- Whenever the node is closed along a history, both slots have just been given up. -/
theorem History.cleared_of_closed (history : History config events manager)
    (split : events = before ++ .closed :: rest) : Cleared config before := by
  induction history generalizing before rest with
  | new => simp at split
  | @step events others manager after history operation result run ih =>
    have effect := Operation.effect_of_run run
    -- The node is closed either along the earlier operations or by the last one.
    rcases List.append_eq_append_iff.mp split with ⟨mine, rfl, last⟩ | ⟨mine, rfl, last⟩
    · exact history.cleared (Manager.retired_of_effect effect last)
    · cases mine with
      | nil =>
        have retired := @Manager.retired_of_effect others _ _ [] rest effect last.symm
        simpa using history.cleared retired
      | cons event mine =>
        obtain ⟨rfl, -⟩ := List.cons.inj last
        exact ih rfl

theorem History.node (history : History config events manager) :
    Follows Node.Step false events manager.isInitialized := by
  induction history with
  | new => rfl
  | step history operation run ih =>
    exact ih.append (Manager.node_of_effect (Operation.effect_of_run run))

end History

/-- The life of the device node along a history, and when the manager is dropped behind it. -/
structure Lifecycle (config : Config) (events : List (Event Platform)) (manager : Manager) :
    Prop where
  /-- The node is opened while it is shut and closed or used while it is open, and the manager knows
  whether it is open. -/
  node : Follows Node.Step false events manager.isInitialized
  /-- The drop goes on from there, and leaves the node shut. -/
  drop_node : ∀ last, manager.drop.Run last () →
    Follows Node.Step manager.isInitialized last false
  /-- Openings and closings alternate up to the end, beginning with an opening. -/
  alternates : ∀ last, manager.drop.Run last () →
    List.IsChain (· ≠ ·) (false :: (events ++ last).filterMap Event.turn)
  /-- Whenever the node is closed, both slots have just been given up. -/
  cleared : ∀ before rest, events = before ++ .closed :: rest → Cleared config before
  drop_cleared : ∀ last, manager.drop.Run last () →
    ∀ before rest, last = before ++ .closed :: rest → Cleared config (events ++ before)
  /-- A manager that has been stopped is like a new one, and says so of both slots. -/
  stopped : ∀ last after, manager.stop.Run last after →
    after = .new config ∧ ∀ slot : Slot, (after.status slot.device).Run [] (some {})
  /-- No framebuffer is ever lost because its device is gone. -/
  silent : (∀ operation : Operation, (operation.run manager).Silent .output) ∧
    manager.drop.Silent .output

/-- Whatever has been done with a manager, and whatever its calls were answered, the device node is
only used while it is open, and closed only when everything has been given back. -/
theorem History.lifecycle {manager : Manager} (history : History config events manager) :
    Lifecycle config events manager where
  node := history.node
  drop_node last run := (Manager.closed_of_run_drop run).node
  alternates last run := by
    have dropping := (Manager.closed_of_run_drop run).node
    exact Node.alternates_of_follows (history.node.append dropping)
  cleared before rest split := history.cleared_of_closed split
  drop_cleared last run before rest split :=
    history.cleared ((Manager.closed_of_run_drop run).retired split)
  stopped last after run := by
    obtain ⟨-, rfl⟩ := Manager.closed_of_run_stop run
    rw [history.sound.config_eq]
    refine ⟨rfl, fun slot => Manager.run_output?_iff.mpr ⟨rfl, ?_⟩⟩
    simp
  silent := ⟨Operation.silent_run history.sound.shut, Manager.silent_drop⟩

namespace Session

/-- Everything is given back when the manager of the session is dropped. -/
def dropping : List (Event Platform) :=
  [.kms (.removeFramebuffer 100) (.ok ()), .released 7, .closed]

/-- In the session the node is opened and closed once, and when it is closed both slots have just
been given up. -/
theorem life : Lifecycle .default (opening ++ detection) manager ∧
    List.IsChain (· ≠ ·) (false :: (opening ++ detection ++ dropping).filterMap Event.turn) ∧
    Cleared .default
      (opening ++ detection ++ [.kms (.removeFramebuffer 100) (.ok ()), .released 7]) := by
  have run : manager.drop.Run dropping () := Proc.replay_eq_some_iff.mp rfl
  have life := History.lifecycle history
  exact ⟨life, life.alternates dropping run, life.drop_cleared dropping run _ [] rfl⟩

end Session

end Modeset
