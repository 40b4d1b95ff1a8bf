import Mathlib.Algebra.Order.Group.Multiset
import Mathlib.Data.Multiset.Filter
import Mathlib.Tactic.Abel
import Modeset.Proofs.Sound

/-!
# The ledger of framebuffers

What a manager takes it gives back, exactly once, and nothing else. The *ledger* lists the memory
that has been taken from the pool and not given back, each piece with the framebuffer that the
device has made of it. Memory may be given back only after its framebuffer has been removed, and a
framebuffer may be removed only if it is in the ledger. Along every history the calls keep to these
rules, and between operations the ledger is what the two slots hold.

Numbers need not be fresh: the pool and the device may hand out one that is still in use. So the
ledger is a multiset, and it is not said which of two equal pieces is meant.

## Main definitions

* `Holding`, `Ledger.Step` — the entries of the ledger, and how an event changes it
* `Ledger.Exact` — the ledger of a list of events is what is held

## Main results

* `Ledger.balance_of_follows` — what each event keeps in balance, a list of events does
* `Ledger.follows_of_scanOut`, `Ledger.follows_of_committed`, `Ledger.follows_of_discovered` — the
  procedures keep to the rules
* `Manager.follows_of_effect` — so does every operation
* `History.ledger_exact` — between operations the ledger is what is held, and in the end it is empty
-/

namespace Modeset

namespace Event

/-- An event by which nothing is handed over. -/
def IsNeutral (event : Event Platform) : Prop :=
  event.taken = none ∧ event.returned = none ∧ event.made = none ∧ event.removed = none

theorem IsSteady.isNeutral {event : Event Platform} (steady : event.IsSteady) :
    event.IsNeutral := by
  obtain ⟨call, answer, hcall, rfl⟩ := steady
  cases call with
  | addFramebuffer | removeFramebuffer => cases hcall
  | _ => exact ⟨rfl, rfl, rfl, rfl⟩

end Event

/-- Memory that has been taken, and the framebuffer that the device has made of it, or 0. -/
structure Holding where
  handle : UInt32
  id : UInt32
  deriving DecidableEq

/-- What a framebuffer in use is in the ledger. -/
def Framebuffer.holding (framebuffer : Framebuffer) : Holding :=
  ⟨framebuffer.handle, framebuffer.id⟩

namespace Ledger

/-- How an event changes the ledger. -/
inductive Step : Multiset Holding → Event Platform → Multiset Holding → Prop
  /-- Memory is taken. -/
  | taken {ledger : Multiset Holding} {width height : UInt32} {buffer : Buffer}
      (memory : buffer.handle ≠ 0) :
      Step ledger (.allocated width height (.ok buffer)) (⟨buffer.handle, 0⟩ ::ₘ ledger)
  /-- A framebuffer is made of memory that has none. -/
  | made {ledger : Multiset Holding} {spec : FramebufferSpec} {id : UInt32} (made : id ≠ 0) :
      Step (⟨spec.handle, 0⟩ ::ₘ ledger) (.kms (.addFramebuffer spec) (.ok id))
        (⟨spec.handle, id⟩ ::ₘ ledger)
  /-- A framebuffer is removed. -/
  | removed {ledger : Multiset Holding} {handle id : UInt32} (made : id ≠ 0)
      {answer : Except Fault Unit} :
      Step (⟨handle, id⟩ ::ₘ ledger) (.kms (.removeFramebuffer id) answer)
        (⟨handle, 0⟩ ::ₘ ledger)
  /-- Memory that has no framebuffer is given back. -/
  | returned {ledger : Multiset Holding} {handle : UInt32} :
      Step (⟨handle, 0⟩ ::ₘ ledger) (.released handle) ledger
  | neutral {ledger : Multiset Holding} {event : Event Platform} (neutral : event.IsNeutral) :
      Step ledger event ledger

variable {events : List (Event Platform)} {ledger after : Multiset Holding}
  {event : Event Platform}

/-- The handles in a ledger. -/
def handles (ledger : Multiset Holding) : Multiset UInt32 := ledger.map (·.handle)

/-- The numbers of the framebuffers in a ledger. -/
def ids (ledger : Multiset Holding) : Multiset UInt32 := (ledger.map (·.id)).filter (· ≠ 0)

@[simp] theorem handles_cons (holding : Holding) :
    handles (holding ::ₘ ledger) = holding.handle ::ₘ handles ledger :=
  Multiset.map_cons ..

theorem ids_cons_of_made {holding : Holding} (made : holding.id ≠ 0) :
    ids (holding ::ₘ ledger) = holding.id ::ₘ ids ledger := by
  simp [ids, made]

/-- Memory without a framebuffer adds none. -/
@[simp] theorem ids_cons_zero (handle : UInt32) : ids (⟨handle, 0⟩ ::ₘ ledger) = ids ledger := by
  simp [ids]

/-- What some events hand over, each number as often as it is handed over. -/
def total (part : Event Platform → Option UInt32) (events : List (Event Platform)) :
    Multiset UInt32 :=
  events.filterMap part

@[simp] theorem total_nil {part : Event Platform → Option UInt32} : total part [] = 0 := rfl

@[simp] theorem total_cons {part : Event Platform → Option UInt32} :
    total part (event :: events) = ((part event).toList : Multiset UInt32) + total part events := by
  unfold total
  cases h : part event <;> simp [h]

@[simp] theorem total_append {part : Event Platform → Option UInt32}
    {others : List (Event Platform)} :
    total part (events ++ others) = total part events + total part others := by
  simp [total]

theorem handles_of_step (step : Step ledger event after) :
    ((event.taken.toList : Multiset UInt32) + handles ledger) =
      event.returned.toList + handles after := by
  cases step with
  | taken memory => simp [Event.taken, Event.returned, Event.allocated, handles, memory]
  | made => simp [Event.taken, Event.returned, Event.kms, handles]
  | removed => simp [Event.taken, Event.returned, Event.kms, handles]
  | returned => simp [Event.taken, Event.returned, Event.released, handles]
  | neutral neutral => rw [neutral.1, neutral.2.1]

theorem ids_of_step (step : Step ledger event after) :
    ((event.made.toList : Multiset UInt32) + ids ledger) =
      event.removed.toList + ids after := by
  cases step with
  | taken memory => simp [Event.made, Event.removed, Event.allocated, ids]
  | made made => simp [Event.made, Event.removed, Event.kms, ids, made]
  | removed made => simp [Event.made, Event.removed, Event.kms, ids, made]
  | returned => simp [Event.made, Event.removed, Event.released, ids]
  | neutral neutral => rw [neutral.2.2.1, neutral.2.2.2]

/-- What each event keeps in balance, a list of events does. -/
theorem balance_of_follows {gained lost : Event Platform → Option UInt32}
    {count : Multiset Holding → Multiset UInt32}
    (balance : ∀ {event ledger after}, Step ledger event after →
      ((gained event).toList : Multiset UInt32) + count ledger = (lost event).toList + count after)
    (path : Follows Step ledger events after) :
    total gained events + count ledger = total lost events + count after := by
  induction events generalizing ledger with
  | nil =>
    obtain rfl := path
    rfl
  | cons event events ih =>
    obtain ⟨next, step, path⟩ := path
    -- The balance of the first event is put in front of that of the others.
    calc
      total gained (event :: events) + count ledger
          = total gained events + ((gained event).toList + count ledger) := by
        rw [total_cons]; abel
      _ = (lost event).toList + (total gained events + count next) := by
        rw [balance step]; abel
      _ = total lost (event :: events) + count after := by
        rw [ih path, total_cons, add_assoc]

/-- Events that hand nothing over leave the ledger as it is. -/
theorem follows_of_isNeutral (neutral : ∀ event ∈ events, event.IsNeutral) :
    Follows Step ledger events ledger := by
  induction events with
  | nil => rfl
  | cons event events ih =>
    have first := neutral event List.mem_cons_self
    exact ⟨ledger, .neutral first, ih fun other member => neutral other (.tail _ member)⟩

theorem follows_of_isSteady (steady : ∀ event ∈ events, event.IsSteady) :
    Follows Step ledger events ledger :=
  follows_of_isNeutral fun event member => (steady event member).isNeutral

/-- What is held by whoever has this framebuffer, if any. -/
def held (framebuffer : Option Framebuffer) : Multiset Holding :=
  framebuffer.map Framebuffer.holding |>.toList

@[simp] theorem held_none : held none = 0 := rfl

@[simp] theorem held_some {framebuffer : Framebuffer} :
    held (some framebuffer) = {framebuffer.holding} := rfl

/-- Giving up a framebuffer takes it out of the ledger. -/
theorem follows_of_retired {framebuffer : Option Framebuffer}
    (made : ∀ held ∈ framebuffer, held.id ≠ 0)
    (retired : Framebuffer.Retired framebuffer events) :
    Follows Step (held framebuffer + ledger) events ledger := by
  cases retired with
  | none => exact (zero_add ledger).symm
  | some framebuffer =>
    have removal := made framebuffer rfl
    exact ⟨_, .removed removal, _, .returned, rfl⟩

/-- Giving up what is pending takes it out of the ledger, whether or not the device has made a
framebuffer of it. -/
theorem follows_of_dropped {pending : Pending} (dropped : pending.Dropped events) :
    Follows Step (⟨pending.buffer.handle, pending.id⟩ ::ₘ ledger) events ledger := by
  cases dropped with
  | registered made => exact ⟨_, .removed made, _, .returned, rfl⟩
  | unregistered null => exact ⟨_, null ▸ .returned, rfl⟩

section Output

variable {config : Config} {slot : Slot}

/-- What stays in the ledger of an attempt to scan out is the framebuffer that came of it. -/
theorem follows_of_scanOut {crtc connector : UInt32} {mode : Mode}
    {result : Except Error Framebuffer}
    (scanned : Output.ScanOut config crtc connector mode events result) :
    Follows Step ledger events (held result.toOption + ledger) := by
  cases scanned with
  | noMemory fault => exact ⟨_, .neutral ⟨rfl, rfl, rfl, rfl⟩, (zero_add ledger)⟩
  | nullMemory buffer null =>
    have neutral : (Event.allocated mode.width mode.height (.ok buffer)).IsNeutral :=
      ⟨by simp [Event.taken, Event.allocated, null], rfl, rfl, rfl⟩
    exact ⟨_, .neutral neutral, zero_add ledger⟩
  | refused buffer memory fault =>
    refine ⟨_, .taken memory, _, .neutral ⟨rfl, rfl, rfl, rfl⟩, ?_⟩
    exact ⟨_, .returned, zero_add ledger⟩
  | unset buffer memory id fault dropped =>
    -- Memory of which the device makes framebuffer 0 stays memory without a framebuffer.
    have registration : Step (⟨buffer.handle, 0⟩ ::ₘ ledger)
        (.kms (.addFramebuffer (config.framebufferSpec mode buffer)) (.ok id))
        (⟨buffer.handle, id⟩ ::ₘ ledger) := by
      by_cases null : id = 0
      · subst null
        exact .neutral ⟨rfl, rfl, rfl, rfl⟩
      · exact @Step.made ledger (config.framebufferSpec mode buffer) id null
    refine ⟨_, .taken memory, _, registration, _, .neutral ⟨rfl, rfl, rfl, rfl⟩, ?_⟩
    change Follows Step _ _ (0 + ledger)
    rw [zero_add]
    exact follows_of_dropped dropped
  | setNull buffer memory =>
    refine ⟨_, .taken memory, _, .neutral ⟨rfl, rfl, rfl, rfl⟩, ?_⟩
    exact ⟨_, .neutral ⟨rfl, rfl, rfl, rfl⟩, _, .returned, zero_add ledger⟩
  | bound buffer memory id made =>
    have registration := @Step.made ledger (config.framebufferSpec mode buffer) id made
    refine ⟨_, .taken memory, _, registration, ?_⟩
    exact ⟨_, .neutral ⟨rfl, rfl, rfl, rfl⟩, Multiset.singleton_add _ ledger⟩

/-- A commit changes the ledger as it changes the slot. -/
theorem follows_of_committed {output last : Output} {mode : Mode} {result : Except Error Unit}
    (made : ∀ framebuffer ∈ output.framebuffer, framebuffer.id ≠ 0)
    (commit : Output.Committed config output mode events (result, last)) :
    Follows Step (held output.framebuffer + ledger) events (held last.framebuffer + ledger) := by
  cases commit with
  | unchanged | unbound => rfl
  | failed unsatisfied hcrtc hconnector scanned =>
    have path := @follows_of_scanOut events (held output.framebuffer + ledger) _ _ _ _ _ scanned
    change Follows Step _ _ (0 + _) at path
    rwa [zero_add] at path
  | @set unsatisfied crtc connector hcrtc hconnector first others framebuffer scanned retired =>
    -- Both framebuffers are in the ledger for a while: the new one comes before the old one goes.
    have path : Follows Step (held output.framebuffer + ledger) first
        (held (some framebuffer) + (held output.framebuffer + ledger)) := follows_of_scanOut scanned
    rw [add_left_comm] at path
    exact path.append (follows_of_retired made retired)

/-- The ledger of a discovery is what the slot holds after it, whether it succeeds or not. -/
theorem follows_of_discovered {last : Output} {result : Except Error Outcome}
    (discovery : Output.Discovered config slot .idle events (result, last)) :
    Follows Step ledger events (held last.framebuffer + ledger) := by
  have reading {reads : List (Event Platform)} (asks : ∀ event ∈ reads, event.IsRead) :
      Follows Step ledger reads (held none + ledger) := by
    rw [held_none, zero_add]
    exact follows_of_isSteady fun event member => (asks event member).isSteady
  cases discovery with
  | unlisted fault => exact reading (by simpa using Event.isRead_kms rfl)
  | unresolved asks => exact reading asks
  | unplugged asks => exact reading asks
  | adopted found => exact reading found.asks
  | modeless found => exact reading found.asks
  | committed found stopped preferred commit =>
    have made : ∀ framebuffer ∈ (none : Option Framebuffer), framebuffer.id ≠ 0 := by simp
    exact (reading found.asks).append (follows_of_committed made commit)

end Output

end Ledger

namespace Manager

/-- What the ledger is between operations. -/
def holdings (manager : Manager) : Multiset Holding := manager.framebuffers.map (·.holding)

variable {config : Config} {events : List (Event Platform)} {manager after : Manager}

open Ledger

theorem holdings_eq (manager : Manager) :
    manager.holdings = held (manager.output .primary).framebuffer +
      held (manager.output .external).framebuffer := by
  simp [holdings, framebuffers, held, Option.toList_map]

/-- What is in the ledger for one slot can be told from the rest, which the other slot holds. -/
theorem exists_holdings (manager : Manager) (slot : Slot) :
    ∃ ledger, manager.holdings = held (manager.output slot).framebuffer + ledger ∧
      ∀ output, (manager.hold slot output).holdings = held output.framebuffer + ledger := by
  cases slot with
  | primary => exact ⟨_, manager.holdings_eq, fun output => holdings_eq _⟩
  | external =>
    refine ⟨held (manager.output .primary).framebuffer, ?_, fun output => ?_⟩
    · rw [holdings_eq, add_comm]
    · rw [holdings_eq, add_comm]
      rfl

/-- Giving up both slots empties the ledger. -/
theorem follows_of_outputs_retired (sound : manager.Sound config)
    (retired : manager.outputs.Retired events) : Follows Step manager.holdings events 0 := by
  obtain ⟨first, second, primary, external, rfl⟩ := retired
  -- The external slot's part of the ledger waits while the primary one is given up.
  have first_path := @follows_of_retired first (held (manager.output .external).framebuffer) _
    (sound.made .primary) primary
  have second_path := @follows_of_retired second 0 _ (sound.made .external) external
  rw [add_zero] at second_path
  rw [holdings_eq]
  exact first_path.append second_path

theorem follows_of_closed (sound : manager.Sound config) (closed : manager.Closed events) :
    Follows Step manager.holdings events 0 := by
  cases closed with
  | shut shut =>
    rw [holdings_eq, output, output, sound.shut shut]
    rfl
  | opened isOpen retired =>
    have closing : Follows Step 0 [.closed] 0 := ⟨_, .neutral ⟨rfl, rfl, rfl, rfl⟩, rfl⟩
    exact (follows_of_outputs_retired sound retired).append closing

/-- A detection changes the ledger as it changes its slot. -/
theorem follows_of_detected {slot : Slot} {ledger : Multiset Holding}
    {result : Except Error Outcome}
    (made : ∀ framebuffer ∈ (manager.output slot).framebuffer, framebuffer.id ≠ 0)
    (detected : manager.Detected slot events (result, after)) :
    Follows Step (held (manager.output slot).framebuffer + ledger) events
      (held (after.output slot).framebuffer + ledger) := by
  cases detected with
  | found retired discovered =>
    rw [output_hold_same]
    exact (follows_of_retired made retired).append (follows_of_discovered discovered)
  | failed retired discovered =>
    have path := @follows_of_discovered _ ledger _ _ _ _ discovered
    rw [discovered.framebuffer_of_error rfl] at path
    rw [output_hold_same]
    exact (follows_of_retired made retired).append path

/-- Every operation keeps to the rules, and the ledger behind it is what is then held. -/
theorem follows_of_effect (sound : manager.Sound config) (effect : manager.Effect events after) :
    Follows Step manager.holdings events after.holdings := by
  cases effect with
  | steady steady => exact follows_of_isSteady steady.isSteady
  | unopened => exact ⟨_, .neutral ⟨rfl, rfl, rfl, rfl⟩, rfl⟩
  | opened shut =>
    refine ⟨_, .neutral ⟨rfl, rfl, rfl, rfl⟩, ?_⟩
    rw [holdings_eq, holdings_eq, output, output, sound.shut shut]
    rfl
  | closed closed => exact follows_of_closed sound closed
  | @detected _ slot _ _ _ detected =>
    -- What the other slot holds is not touched.
    obtain ⟨ledger, before, hold⟩ := manager.exists_holdings slot
    rw [before, detected.eq_hold, hold]
    exact follows_of_detected (sound.made slot) detected
  | committed isOpen plugged listed commit =>
    obtain ⟨ledger, before, hold⟩ := manager.exists_holdings .external
    rw [before, hold]
    exact follows_of_committed (sound.made .external) commit

end Manager

theorem History.follows {config : Config} {events : List (Event Platform)} {manager : Manager}
    (history : History config events manager) :
    Follows Ledger.Step 0 events manager.holdings := by
  induction history with
  | new => rfl
  | step history operation run ih =>
    exact ih.append (Manager.follows_of_effect history.sound (Operation.effect_of_run run))

/-- What was taken and not given back is exactly what is held, and all along the calls kept to the
rules: nothing was given back that had not been taken, and no memory before its framebuffer. -/
structure Ledger.Exact (events : List (Event Platform)) (framebuffers : List Framebuffer) :
    Prop where
  handles : total Event.taken events =
    total Event.returned events + (framebuffers.map (·.handle) : Multiset UInt32)
  ids : total Event.made events =
    total Event.removed events + (framebuffers.map (·.id) : Multiset UInt32)
  follows : Follows Step 0 events (framebuffers.map (·.holding) : Multiset Holding)

theorem Ledger.exact_of_follows {events : List (Event Platform)} {framebuffers : List Framebuffer}
    (made : ∀ framebuffer ∈ framebuffers, framebuffer.id ≠ 0)
    (path : Follows Step 0 events (framebuffers.map (·.holding) : Multiset Holding)) :
    Exact events framebuffers where
  handles := by
    have balance := balance_of_follows handles_of_step path
    simpa [handles, Framebuffer.holding, Function.comp_def] using balance
  ids := by
    have balance := balance_of_follows ids_of_step path
    -- Entries without a framebuffer do not count, but what is held always has one.
    have all : (framebuffers.map (·.id)).filter (· ≠ 0) = framebuffers.map (·.id) :=
      List.filter_eq_self.mpr (by simpa using made)
    rw [← all]
    simpa [ids, Framebuffer.holding, Function.comp_def] using balance
  follows := path

/-- Whatever has been done with a manager, and whatever its calls were answered: between operations,
what was taken and not given back is exactly what the two slots hold, and once the manager has been
stopped or dropped, everything has been given back. -/
theorem History.ledger_exact {config : Config} {events : List (Event Platform)} {manager : Manager}
    (history : History config events manager) :
    Ledger.Exact events manager.framebuffers ∧
      (∀ last after, manager.stop.Run last after → Ledger.Exact (events ++ last) []) ∧
      ∀ last, manager.drop.Run last () → Ledger.Exact (events ++ last) [] := by
  have made : ∀ framebuffer ∈ manager.framebuffers, framebuffer.id ≠ 0 := by
    intro framebuffer member
    rcases List.mem_append.mp member with member | member
    · exact history.sound.made .primary framebuffer (Option.mem_toList.mp member)
    · exact history.sound.made .external framebuffer (Option.mem_toList.mp member)
  have closing {last : List (Event Platform)} (closed : manager.Closed last) :
      Ledger.Exact (events ++ last) [] :=
    Ledger.exact_of_follows (by simp)
      (history.follows.append (Manager.follows_of_closed history.sound closed))
  refine ⟨Ledger.exact_of_follows made history.follows, ?_, ?_⟩
  · intro last after run
    exact closing (Manager.closed_of_run_stop run).1
  · intro last run
    exact closing (Manager.closed_of_run_drop run)

/-- The session holds one framebuffer, and gives it back when the manager is dropped. -/
theorem Session.ledger :
    Ledger.Exact (opening ++ detection) [⟨100, 7, 256⟩] ∧
      Ledger.Exact (opening ++ detection ++
        [.kms (.removeFramebuffer 100) (.ok ()), .released 7, .closed]) [] := by
  obtain ⟨between, -, dropped⟩ := History.ledger_exact history
  exact ⟨between, dropped _ (Proc.replay_eq_some_iff.mp rfl)⟩

end Modeset
