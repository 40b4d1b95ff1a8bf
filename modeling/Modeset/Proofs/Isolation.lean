import Modeset.Proofs.Ledger
import Modeset.Proofs.Sharing

/-!
# Isolation of the slots

Both slots are served by one device and one pool, which know framebuffers and memory by numbers
only. So an operation on one slot could give up what the other slot holds, if a number stood for
both. It cannot, as long as no number is handed out while it is in use. Between operations the
ledger is what the two slots hold, and an operation on a slot only works on the slot's own part of
the ledger; since all numbers in the ledger differ, what is given up on the way is in the slot's own
part, and so is not in the other one's.

## Main definitions

* `Ledger.Fresh` — no number is handed out while it is in use
* `Operation.device?`, `Operation.changesMode`, `Operation.succeeded` — which slot an operation is
  about, and whether it has failed
* `Manager.Confined` — what an operation may do that is about one slot

## Main results

* `Ledger.Fresh.step`, `Ledger.Fresh.follows`, `Ledger.Fresh.spares` — with fresh numbers, a part of
  the ledger that nobody works on stays
* `Operation.confined_of_run` — an operation is confined to the slot that it is about
* `Operation.refused_of_run` — an operation about no slot, and a change of mode of any but the
  external one, is refused without a call
* `History.isolated` — the other slot keeps what it holds
-/

namespace Modeset

open Proc Ledger

variable {config : Config} {events others : List (Event Platform)} {manager after : Manager}
  {slot : Slot} {device : UInt32}

namespace Ledger

/-- Along some calls no number is handed out while it is in use. At first these are in use, and then
whatever has been handed over and not back. -/
def Fresh (gained lost : Event Platform → Option UInt32) (inUse : Multiset UInt32) :
    List (Event Platform) → Prop
  | [] => True
  | event :: rest =>
    (∀ number ∈ gained event, number ∉ inUse) ∧
      Fresh gained lost (inUse + (gained event).toList - (lost event).toList) rest

section Fresh

variable {gained lost : Event Platform → Option UInt32} {inUse : Multiset UInt32}

/-- If all numbers in use differ and the next one is fresh, they still differ afterwards, and what
is given up is not in use any more. -/
theorem Fresh.step {event : Event Platform} {left : Multiset UInt32}
    (fresh : Fresh gained lost inUse (event :: events)) (distinct : inUse.Nodup)
    (balance : ((gained event).toList : Multiset UInt32) + inUse = (lost event).toList + left) :
    Fresh gained lost left events ∧ left.Nodup ∧ ∀ number ∈ lost event, number ∉ left := by
  obtain ⟨unused, rest⟩ := fresh
  have whole : ((gained event).toList : Multiset UInt32) + inUse |>.Nodup := by
    cases handed : gained event with
    | none => simpa using distinct
    | some number =>
      have new := unused number handed
      simpa using ⟨new, distinct⟩
  -- What is in use and what is given up are parts of one multiset without repetitions.
  rw [balance] at whole
  obtain ⟨-, distinct, apart⟩ := Multiset.nodup_add.mp whole
  refine ⟨?_, distinct, fun number gone => ?_⟩
  · rwa [add_comm, balance, add_tsub_cancel_left] at rest
  · exact Multiset.disjoint_left.mp apart (by simpa using gone)

/-- With fresh numbers, what is given up along some calls that work on one part of the ledger is not
in the rest of it, and the numbers still differ afterwards. -/
theorem Fresh.follows {count : Multiset Holding → Multiset UInt32}
    (balance : ∀ {event ledger after}, Step ledger event after →
      ((gained event).toList : Multiset UInt32) + count ledger = (lost event).toList + count after)
    {ledger last : Multiset Holding} {rest : Multiset UInt32}
    (fresh : Fresh gained lost (count ledger + rest) (events ++ others))
    (distinct : (count ledger + rest).Nodup) (path : Follows Step ledger events last) :
    Fresh gained lost (count last + rest) others ∧ (count last + rest).Nodup ∧
      ∀ number ∈ rest, number ∉ events.filterMap lost := by
  induction events generalizing ledger with
  | nil =>
    obtain rfl := path
    exact ⟨fresh, distinct, by simp⟩
  | cons event events ih =>
    obtain ⟨next, step, path⟩ := path
    have whole : ((gained event).toList : Multiset UInt32) + (count ledger + rest) =
        (lost event).toList + (count next + rest) := by
      rw [← add_assoc, balance step, add_assoc]
    obtain ⟨fresh, distinct, gone⟩ := Fresh.step fresh distinct whole
    obtain ⟨fresh, distinct, kept⟩ := ih fresh distinct path
    refine ⟨fresh, distinct, fun number member => ?_⟩
    rw [List.filterMap_cons]
    cases first : lost event with
    | none => exact kept number member
    | some other =>
      have differs : number ≠ other := by
        rintro rfl
        exact gone number first (Multiset.mem_add.mpr (.inr member))
      simpa [differs] using kept number member

/-- With fresh numbers from the start, calls that work on one part of the ledger give up nothing
that is in the other part. -/
theorem Fresh.spares {count : Multiset Holding → Multiset UInt32}
    (additive : ∀ first second, count (first + second) = count first + count second)
    (balance : ∀ {event ledger after}, Step ledger event after →
      ((gained event).toList : Multiset UInt32) + count ledger = (lost event).toList + count after)
    {part other last : Multiset Holding} (fresh : Fresh gained lost 0 (events ++ others))
    (past : Follows Step 0 events (part + other)) (path : Follows Step part others last) :
    ∀ number ∈ count other, number ∉ others.filterMap lost := by
  have empty : count 0 = 0 := by simpa using additive 0 0
  have start : Fresh gained lost (count 0 + 0) (events ++ others) := by rwa [empty, add_zero]
  obtain ⟨fresh, distinct, -⟩ := start.follows balance (by simp [empty]) past
  rw [additive, add_zero] at fresh distinct
  rw [← List.append_nil others] at fresh
  exact (fresh.follows balance distinct path).2.2

end Fresh

end Ledger

namespace Operation

/-- The number of the display that an operation is about, if it is about one. -/
def device? : Operation → Option UInt32
  | .detect device | .setMode device _ | .setRefreshRate device _ | .setPower device _
  | .mode device | .modes device | .physicalSize device | .isConnected device
  | .status device => some device
  | .start | .stop | .topology | .write .. | .writeRead .. => none

/-- Whether an operation is to change the mode of a display. -/
def changesMode : Operation → Bool
  | .setMode .. | .setRefreshRate .. => true
  | _ => false

/-- Whether an operation has not failed. Where there is no error to return, to find nothing is to
fail. -/
def succeeded : (operation : Operation) → operation.Result → Bool
  | .start, result | .setMode .., result | .setRefreshRate .., result | .setPower .., result
  | .write .., result => Except.isOk result
  | .stop, _ => true
  | .detect _, result => Except.isOk result
  | .topology, result => Except.isOk result
  | .writeRead .., result => Except.isOk result
  | .mode _, result => Option.isSome result
  | .modes _, result => Option.isSome result
  | .physicalSize _, result => Option.isSome result
  | .isConnected _, result => result
  | .status _, result => Option.isSome result

end Operation

namespace Manager

/-- What is done about one slot: the other one keeps all that it has, and the calls work on the
slot's own part of the ledger. -/
structure Confined (manager : Manager) (slot : Slot) (events : List (Event Platform))
    (after : Manager) : Prop where
  output_of_ne : ∀ other ≠ slot, after.output other = manager.output other
  follows : Follows Step (held (manager.output slot).framebuffer) events
    (held (after.output slot).framebuffer)

/-- To ask the device without changing anything is to be confined to any slot. -/
theorem confined_of_steady (steady : manager.Steady events) :
    manager.Confined slot events manager where
  output_of_ne _ _ := rfl
  follows := follows_of_isSteady steady.isSteady

theorem confined_of_run_detect {result : Except Error Outcome} (sound : manager.Sound config)
    (addressed : Slot.ofDevice? device = some slot)
    (run : (manager.detect device).Run events (result, after)) :
    manager.Confined slot events after := by
  rcases refused_or_detected_of_run run with ⟨rfl, -, rfl⟩ | ⟨-, other, same, detected⟩
  · exact confined_of_steady .nil
  · obtain rfl := Option.some.inj (addressed.symm.trans same)
    have path := @follows_of_detected _ _ _ _ 0 _ (sound.made slot) detected
    rw [add_zero, add_zero] at path
    exact ⟨fun other differs => detected.output_of_ne differs, path⟩

theorem Changed.confined {exact : Mode → Mode → Bool} {result : Except Error Unit}
    (sound : manager.Sound config) (addressed : Slot.ofDevice? device = some slot)
    (changed : manager.Changed device exact events (result, after)) :
    manager.Confined slot events after := by
  cases changed with
  | shut | misaddressed | unplugged | modeless => exact confined_of_steady .nil
  | @committed isOpen external connector plugged mode choice events result output commit =>
    -- Only the external output is ever given another mode.
    obtain rfl := Option.some.inj (addressed.symm.trans external)
    refine ⟨fun other differs => output_hold_of_ne manager output differs, ?_⟩
    have path := @follows_of_committed _ 0 _ _ _ _ _ (sound.made .external) commit
    rw [add_zero, add_zero] at path
    rwa [output_hold_same]

end Manager

namespace Operation

variable {operation : Operation} {result : operation.Result}

/-- An operation is confined to the slot that it is about. -/
theorem confined_of_run (sound : manager.Sound config) (about : operation.device? = some device)
    (addressed : Slot.ofDevice? device = some slot)
    (run : (operation.run manager).Run events (result, after)) :
    manager.Confined slot events after := by
  cases operation with
  | start | stop | topology | write | writeRead => cases about
  | detect =>
    obtain rfl := Option.some.inj about
    exact Manager.confined_of_run_detect sound addressed run
  | setMode other mode =>
    obtain rfl := Option.some.inj about
    have change : (manager.setMode other mode).Run events (result, after) := run
    exact (Manager.changed_of_run change).confined sound addressed
  | setRefreshRate other hz =>
    obtain rfl := Option.some.inj about
    have change : (manager.setRefreshRate other hz).Run events (result, after) := run
    exact (Manager.changed_of_run change).confined sound addressed
  | setPower =>
    obtain ⟨query, rfl⟩ := of_run_keeping run
    exact Manager.confined_of_steady (Manager.steady_of_run_setPower query)
  | mode | modes | physicalSize | isConnected | status =>
    obtain ⟨query, rfl⟩ := of_run_keeping run
    obtain ⟨rfl, -⟩ := Manager.run_output?_iff.mp query
    exact Manager.confined_of_steady .nil

end Operation

namespace Manager

/-- No display is switched whose number names no slot. -/
theorem refused_of_run_setPower {power : Power} {result : Except Error Unit}
    (nowhere : Slot.ofDevice? device = none)
    (run : (manager.setPower device power).Run events result) :
    result.isOk = false ∧ events = [] := by
  rw [run_setPower_iff] at run
  cases found : manager.switchable device with
  | error error =>
    simp only [found] at run
    obtain ⟨rfl, rfl⟩ := run
    exact ⟨rfl, rfl⟩
  | ok connector =>
    obtain ⟨slot, named, -⟩ := (switchable_eq_ok_iff.mp found).plugged
    rw [nowhere] at named
    cases named

theorem Changed.refused {exact : Mode → Mode → Bool} {result : Except Error Unit}
    (elsewhere : Slot.ofDevice? device ≠ some .external)
    (changed : manager.Changed device exact events (result, after)) :
    result.isOk = false ∧ events = [] ∧ after = manager := by
  cases changed with
  | shut | misaddressed => exact ⟨rfl, rfl, rfl⟩
  | unplugged _ external | modeless _ external | committed _ external =>
    exact absurd external elsewhere

end Manager

namespace Operation

variable {operation : Operation} {result : operation.Result}

/-- An operation is refused without a call if its number names no slot, and a change of mode also if
it names another one than the external slot. -/
theorem refused_of_run (about : operation.device? = some device)
    (elsewhere : Slot.ofDevice? device = none ∨
      operation.changesMode = true ∧ Slot.ofDevice? device ≠ some .external)
    (run : (operation.run manager).Run events (result, after)) :
    operation.succeeded result = false ∧ events = [] ∧ after = manager := by
  have not_external : operation.changesMode = true → Slot.ofDevice? device ≠ some .external := by
    rcases elsewhere with nowhere | ⟨-, other⟩
    · simp [nowhere]
    · exact fun _ => other
  cases operation with
  | start | stop | topology | write | writeRead => cases about
  | setMode other mode =>
    obtain rfl := Option.some.inj about
    have change : (manager.setMode other mode).Run events (result, after) := run
    exact (Manager.changed_of_run change).refused (not_external rfl)
  | setRefreshRate other hz =>
    obtain rfl := Option.some.inj about
    have change : (manager.setRefreshRate other hz).Run events (result, after) := run
    exact (Manager.changed_of_run change).refused (not_external rfl)
  | detect =>
    obtain rfl := Option.some.inj about
    have nowhere := elsewhere.resolve_right (by simp [changesMode])
    rcases Manager.refused_or_detected_of_run run with ⟨rfl, failed, rfl⟩ | ⟨-, slot, named, -⟩
    · exact ⟨failed, rfl, rfl⟩
    · rw [nowhere] at named
      cases named
  | setPower =>
    obtain rfl := Option.some.inj about
    have nowhere := elsewhere.resolve_right (by simp [changesMode])
    obtain ⟨query, rfl⟩ := of_run_keeping run
    obtain ⟨failed, rfl⟩ := Manager.refused_of_run_setPower nowhere query
    exact ⟨failed, rfl, rfl⟩
  | mode | modes | physicalSize | isConnected | status =>
    obtain rfl := Option.some.inj about
    have nowhere := elsewhere.resolve_right (by simp [changesMode])
    obtain ⟨query, rfl⟩ := of_run_keeping run
    obtain ⟨rfl, rfl⟩ := Manager.run_output?_iff.mp query
    rw [nowhere]
    exact ⟨rfl, rfl, rfl⟩

end Operation

/-- The framebuffer that a slot holds is neither removed nor is its memory given back. -/
def Output.Spared (output : Output) (events : List (Event Platform)) : Prop :=
  ∀ framebuffer ∈ output.framebuffer, framebuffer.id ∉ events.filterMap Event.removed ∧
    framebuffer.handle ∉ events.filterMap Event.returned

/-- Between operations the ledger is what is held for a slot and what is held for the other one. -/
theorem Manager.holdings_of_ne {other : Slot} (differs : other ≠ slot) :
    manager.holdings =
      held (manager.output slot).framebuffer + held (manager.output other).framebuffer := by
  rw [Manager.holdings_eq]
  cases slot with
  | primary =>
    cases other with
    | primary => exact absurd rfl differs
    | external => rfl
  | external =>
    cases other with
    | primary => exact add_comm _ _
    | external => exact absurd rfl differs

/-- With fresh numbers, what is confined to a slot spares the framebuffer of the other one. -/
theorem Manager.Confined.spared {past : List (Event Platform)} {other : Slot}
    (history : History config past manager) (confined : manager.Confined slot events after)
    (differs : other ≠ slot) (ids : Fresh Event.made Event.removed 0 (past ++ events))
    (memory : Fresh Event.taken Event.returned 0 (past ++ events)) :
    (manager.output other).Spared events := by
  intro framebuffer holds
  have made := history.sound.made other framebuffer holds
  have path := history.follows
  rw [Manager.holdings_of_ne differs] at path
  constructor
  · refine ids.spares (fun _ _ => by simp [Ledger.ids]) ids_of_step path confined.follows _ ?_
    simpa [Option.mem_def.mp holds, Ledger.ids, Framebuffer.holding] using made
  · refine memory.spares (fun _ _ => by simp [Ledger.handles]) handles_of_step path
      confined.follows _ ?_
    simp [Option.mem_def.mp holds, Ledger.handles, Framebuffer.holding]

/-- Whatever has been done with a manager, and whatever its calls were answered: an operation that
is about a display leaves every other slot as it is, and if no number has been handed out while it
was in use, neither the framebuffer of another slot nor its memory is given up. And an operation
whose number names no slot, or a change of mode whose number does not name the external one, fails
without a call and leaves the manager as it is. -/
theorem History.isolated {past : List (Event Platform)} {operation : Operation}
    {result : operation.Result} (history : History config past manager)
    (about : operation.device? = some device)
    (run : (operation.run manager).Run events (result, after)) :
    (∀ other, Slot.ofDevice? device ≠ some other →
      after.output other = manager.output other ∧
        (Fresh Event.made Event.removed 0 (past ++ events) →
          Fresh Event.taken Event.returned 0 (past ++ events) →
          (manager.output other).Spared events)) ∧
      (Slot.ofDevice? device = none ∨
          operation.changesMode = true ∧ Slot.ofDevice? device ≠ some .external →
        operation.succeeded result = false ∧ events = [] ∧ after = manager) := by
  refine ⟨fun other differs => ?_, fun elsewhere => Operation.refused_of_run about elsewhere run⟩
  cases addressed : Slot.ofDevice? device with
  | none =>
    obtain ⟨-, rfl, rfl⟩ := Operation.refused_of_run about (.inl addressed) run
    exact ⟨rfl, fun _ _ framebuffer _ => by simp⟩
  | some slot =>
    have confined := Operation.confined_of_run history.sound about addressed run
    have other_ne : other ≠ slot := by
      rintro rfl
      exact differs addressed
    exact ⟨confined.output_of_ne other other_ne, confined.spared history other_ne⟩

namespace Session

/-- The display is given the slow mode while the panel is there. -/
def slowing : List (Event Platform) :=
  [.allocated 64 48 (.ok ⟨9, 256⟩), .kms (.addFramebuffer ⟨64, 48, 256, 32, 24, 9⟩) (.ok 102),
    .kms (.setCrtc 40 102 0 0 [20] (some slow)) (.ok ()), .kms (.removeFramebuffer 100) (.ok ()),
    .released 7]

/-- The manager behind it. -/
def slowed : Manager :=
  pairManager.hold .external (output.withFramebuffer slow ⟨102, 9, 256⟩)

theorem history_pair : History .default (opening ++ detection ++ panelDetection) pairManager :=
  history.step (.detect 0) (Proc.replay_eq_some_iff.mp rfl)

theorem run_slowing : ((Operation.setMode 1 slow).run pairManager).Run slowing (.ok (), slowed) :=
  Proc.replay_eq_some_iff.mp rfl

/-- The framebuffer of the panel survives, since all numbers are fresh. -/
theorem panel_spared :
    slowed.output .primary = pairManager.output .primary ∧
      (pairManager.output .primary).Spared slowing := by
  obtain ⟨kept, spared⟩ := (History.isolated history_pair rfl run_slowing).1 .primary (by decide)
  have ids : Fresh Event.made Event.removed 0
      (opening ++ detection ++ panelDetection ++ slowing) := by
    simp [Fresh, opening, detection, panelDetection, slowing, Event.made, Event.removed, Event.kms,
      Event.allocated, Event.released, Event.opened]
  have memory : Fresh Event.taken Event.returned 0
      (opening ++ detection ++ panelDetection ++ slowing) := by
    simp [Fresh, opening, detection, panelDetection, slowing, Event.taken, Event.returned,
      Event.kms, Event.allocated, Event.released, Event.opened]
  exact ⟨kept, spared ids memory⟩

end Session

end Modeset
