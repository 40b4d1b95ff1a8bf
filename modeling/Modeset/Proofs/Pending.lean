import Modeset.Proofs.Commit
import Modeset.Proofs.Ledger

/-!
# What becomes of a pending framebuffer

Whoever has a pending framebuffer may let the device make a framebuffer of its memory any number of
times, with whatever answers, and must in the end bind or drop it. It remembers one number only. The
memory and the number that it got last are handed over when it is bound, and given up otherwise, the
framebuffer before the memory and each of them once. A number that is followed by another one is
forgotten: its framebuffer is neither handed over nor removed.

## Main definitions

* `Event.registered` — the number that the device gave a framebuffer, 0 included
* `Pending.History` — the calls up to some registration, and what is pending behind them
* `Pending.Ended` — how a pending framebuffer comes to its end
* `Pending.superseded` — the numbers that were followed by another one

## Main results

* `Pending.run_allocate_ok_iff`, `Pending.run_register_ok_iff` — what one step obtains
* `Pending.run_bind_iff`, `Pending.Ended.cases` — what is handed over or given up in the end
* `Pending.History.obtained` — what is pending is what has been obtained last
* `Pending.superseded_eq_zero` — nothing is superseded if only one number was given
* `Pending.History.settled` — all but the superseded numbers is handed over or given up once
-/

namespace Modeset

open Proc

/-- The number that the device gave a framebuffer, which may be 0. -/
def Event.registered (event : Event Platform) : Option UInt32 :=
  match event with
  | ⟨.inl (.kms (.addFramebuffer _)), .ok id⟩ => some id
  | _ => none

/-- A framebuffer has been made if its number is not 0. -/
theorem Event.made_eq (event : Event Platform) : event.made = event.registered.filter (· ≠ 0) := by
  obtain ⟨(path | _ | call) | ⟨width, height⟩ | handle, answer⟩ := event
  · rfl
  · rfl
  · cases call with
    | addFramebuffer spec =>
      cases answer with
      | error fault => rfl
      | ok id => by_cases null : id = 0 <;> simp [made, registered, Option.filter, null]
    | _ => rfl
  · rfl
  · rfl

namespace Pending

variable {events others last : List (Event Platform)} {pending next : Pending}
  {kept : Option Framebuffer}

/-! ## One step -/

/-- Memory has been allocated if there is any, and nothing has been made of it yet. -/
theorem run_allocate_ok_iff {width height : UInt32} :
    (allocate width height).Run events (.ok pending) ↔
      pending.buffer.handle ≠ 0 ∧ pending.id = 0 ∧
        events = [.allocated width height (.ok pending.buffer)] := by
  rw [allocate, Platform.run_allocate_bind_iff]
  constructor
  · rintro ⟨memory, rest, rfl, run⟩
    cases memory with
    | error fault => simp at run
    | ok buffer =>
      by_cases null : buffer.handle = 0
      · simp [null] at run
      · obtain ⟨rfl, rfl⟩ : rest = [] ∧ pending = ⟨buffer, 0⟩ := by simpa [null] using run
        exact ⟨null, rfl, rfl⟩
  · obtain ⟨buffer, id⟩ := pending
    rintro ⟨memory, rfl, rfl⟩
    exact ⟨.ok buffer, [], rfl, by simp [memory]⟩

section Register

variable {width height depth bpp : UInt32}

/-- From what a framebuffer is made of the memory. -/
def spec (pending : Pending) (width height depth bpp : UInt32) : FramebufferSpec where
  width := width
  height := height
  pitch := pending.buffer.stride
  bpp := bpp
  depth := depth
  handle := pending.buffer.handle

/-- A registration that succeeds puts its number in the place of the one before. -/
theorem run_register_ok_iff :
    (pending.register width height depth bpp).Run events (.ok next) ↔
      events = [.kms (.addFramebuffer (pending.spec width height depth bpp)) (.ok next.id)] ∧
        next.buffer = pending.buffer := by
  rw [register, Platform.run_kms_bind_iff]
  constructor
  · rintro ⟨made, rest, rfl, run⟩
    cases made with
    | error fault => simp at run
    | ok id =>
      obtain ⟨rfl, rfl⟩ : rest = [] ∧ next = { pending with id } := by simpa using run
      exact ⟨rfl, rfl⟩
  · obtain ⟨buffer, id⟩ := next
    rintro ⟨rfl, rfl⟩
    exact ⟨.ok id, [], rfl, .done _⟩

theorem run_register_error_iff {fault : Fault} :
    (pending.register width height depth bpp).Run events (.error fault) ↔
      events = [.kms (.addFramebuffer (pending.spec width height depth bpp)) (.error fault)] := by
  rw [register, Platform.run_kms_bind_iff]
  constructor
  · rintro ⟨made, rest, rfl, run⟩
    cases made with
    | error other =>
      obtain ⟨rfl, rfl⟩ : rest = [] ∧ fault = other := by simpa using run
      rfl
    | ok id => simp at run
  · rintro rfl
    exact ⟨.error fault, [], rfl, .done _⟩

end Register

/-- Binding hands over a framebuffer that the device has made, and drops what is pending if it has
made none. -/
theorem run_bind_iff :
    pending.bind.Run events kept ↔
      (pending.id ≠ 0 ∧ events = [] ∧
        kept = some ⟨pending.id, pending.buffer.handle, pending.buffer.stride⟩) ∨
      (pending.id = 0 ∧ kept = none ∧ pending.Dropped events) := by
  by_cases null : pending.id = 0
  · simp only [bind, framebuffer?, null, if_true, ne_eq, not_true, false_and, true_and, false_or]
    constructor
    · intro run
      obtain ⟨first, rest, rfl, dropped, run⟩ := dropped_of_run_bind run
      obtain ⟨rfl, rfl⟩ := run_done_iff.mp run
      rw [List.append_nil]
      exact ⟨rfl, dropped⟩
    · rintro ⟨rfl, dropped⟩
      exact dropped.run.bind_nil (.done _)
  · simp [bind, framebuffer?, null]

/-! ## A history -/

/-- The calls by which memory was allocated and then registered any number of times, each with its
answer, and what is pending behind them. -/
inductive History : List (Event Platform) → Pending → Prop
  | allocated {events : List (Event Platform)} {pending : Pending} (width height : UInt32)
      (run : (allocate width height).Run events (.ok pending)) : History events pending
  | registered {events others : List (Event Platform)} {pending next : Pending}
      (history : History events pending) (width height depth bpp : UInt32)
      (run : (pending.register width height depth bpp).Run others (.ok next)) :
      History (events ++ others) next
  | refused {events others : List (Event Platform)} {pending : Pending}
      (history : History events pending) (width height depth bpp : UInt32) {fault : Fault}
      (run : (pending.register width height depth bpp).Run others (.error fault)) :
      History (events ++ others) pending

/-- The ways in which a pending framebuffer comes to its end, and what is handed over then. -/
inductive Ended (pending : Pending) : List (Event Platform) → Option Framebuffer → Prop
  | bound {events : List (Event Platform)} {kept : Option Framebuffer}
      (run : pending.bind.Run events kept) : Ended pending events kept
  | dropped {events : List (Event Platform)} (run : pending.drop.Run events ()) :
      Ended pending events none

/-- In the end either a framebuffer is handed over or what is pending is given up. -/
theorem Ended.cases (ended : pending.Ended last kept) :
    (pending.id ≠ 0 ∧ last = [] ∧
      kept = some ⟨pending.id, pending.buffer.handle, pending.buffer.stride⟩) ∨
    (kept = none ∧ pending.Dropped last) := by
  cases ended with
  | bound run => exact (run_bind_iff.mp run).imp_right And.right
  | dropped run => exact .inr ⟨rfl, dropped_of_run run⟩

/-- The numbers that the device gave, in their order. -/
def numbers (events : List (Event Platform)) : List UInt32 := events.filterMap Event.registered

/-- The number that the device gave last, or 0 if it gave none. -/
def lastNumber (events : List (Event Platform)) : UInt32 := (numbers events).getLast?.getD 0

/-- The framebuffers whose numbers were followed by another one. -/
def superseded (events : List (Event Platform)) : Multiset UInt32 :=
  (numbers events).dropLast.filter (· ≠ 0)

/-- Whoever registers successfully at most once loses nothing. -/
theorem superseded_eq_zero (once : (numbers events).length ≤ 1) : superseded events = 0 := by
  have first : (numbers events).dropLast = [] := by
    rw [← List.length_eq_zero_iff, List.length_dropLast]
    omega
  rw [superseded, first]
  rfl

open Ledger

/-- What has been obtained behind some calls: the one piece of memory, of which nothing has been
given back, and the number that came last. -/
structure Obtained (events : List (Event Platform)) (pending : Pending) : Prop where
  taken : total Event.taken events = {pending.buffer.handle}
  returned : total Event.returned events = 0
  removed : total Event.removed events = 0
  id_eq : pending.id = lastNumber events

/-- A registration takes and gives up nothing, whatever is answered. -/
theorem Obtained.attempt {spec : FramebufferSpec} {answer : Except Fault UInt32}
    (obtained : Obtained events pending) (same : next.buffer = pending.buffer)
    (id_eq : next.id = lastNumber (events ++ [.kms (.addFramebuffer spec) answer])) :
    Obtained (events ++ [.kms (.addFramebuffer spec) answer]) next where
  taken := by
    rw [total_append, obtained.taken, same]
    rfl
  returned := by
    rw [total_append, obtained.returned]
    rfl
  removed := by
    rw [total_append, obtained.removed]
    rfl
  id_eq := id_eq

/-- What is pending is what has been obtained last. -/
theorem History.obtained (history : History events pending) : Obtained events pending := by
  induction history with
  | allocated width height run =>
    obtain ⟨memory, unmade, rfl⟩ := run_allocate_ok_iff.mp run
    refine ⟨?_, rfl, rfl, unmade⟩
    simp [Event.taken, Event.allocated, memory]
  | registered history width height depth bpp run ih =>
    obtain ⟨rfl, same⟩ := run_register_ok_iff.mp run
    refine ih.attempt same ?_
    -- Whatever number there was before, the new one is the last.
    simp [lastNumber, numbers, Event.registered, Event.kms]
  | refused history width height depth bpp run ih =>
    obtain rfl := run_register_error_iff.mp run
    refine ih.attempt rfl ?_
    rw [ih.id_eq]
    simp [lastNumber, numbers, Event.registered, Event.kms]

/-- The framebuffers that have been made are those whose numbers were followed by another one, and
that of the last number. -/
theorem total_made_eq (events : List (Event Platform)) :
    total Event.made events =
      superseded events + if lastNumber events = 0 then 0 else {lastNumber events} := by
  have numbered : total Event.made events = (numbers events).filter (· ≠ 0) := by
    rw [numbers, List.filter_filterMap, total]
    exact congrArg _ (List.filterMap_congr fun event _ => event.made_eq)
  rw [numbered, superseded, lastNumber]
  -- The last number is told apart from those before it. Of both, 0 does not count.
  rcases List.eq_nil_or_concat (numbers events) with none | ⟨first, id, split⟩
  · rw [none]
    rfl
  · rw [split, List.concat_eq_append]
    by_cases null : id = 0
    · simp [null]
    · simp [null, ← Multiset.coe_add]

/-! ## The end -/

/-- Giving up what is pending takes away the last number, if it is one, and then gives back the
memory. -/
theorem Dropped.exists_calls (dropped : pending.Dropped last) :
    ∃ calls, last = calls ++ [.released pending.buffer.handle] ∧
      total Event.taken calls = 0 ∧ total Event.returned calls = 0 ∧
      total Event.made calls = 0 ∧
      total Event.removed calls = if pending.id = 0 then 0 else {pending.id} := by
  cases dropped with
  | registered made answer =>
    refine ⟨[.kms (.removeFramebuffer pending.id) answer], rfl, rfl, rfl, rfl, ?_⟩
    rw [if_neg made]
    rfl
  | unregistered null =>
    refine ⟨[], rfl, rfl, rfl, rfl, ?_⟩
    rw [if_pos null]
    rfl

/-- Calls that give back nothing hold no release. -/
theorem not_mem_of_returned {calls : List (Event Platform)}
    (unreturned : total Event.returned calls = 0) (handle : UInt32) :
    .released handle ∉ calls := by
  intro member
  have none := List.filterMap_eq_nil_iff.mp (Multiset.coe_eq_zero _ |>.mp unreturned) _ member
  cases none

/-- A release is the last call if there is none before the last one. -/
theorem eq_nil_of_returned {calls before behind : List (Event Platform)} {final : Event Platform}
    {handle : UInt32} (unreturned : total Event.returned calls = 0)
    (split : calls ++ [final] = before ++ .released handle :: behind) : behind = [] := by
  rcases List.eq_nil_or_concat behind with none | ⟨front, event, rfl⟩
  · exact none
  · -- With something behind it, the release would be one of the calls before the last one.
    rw [List.concat_eq_append, ← List.cons_append, ← List.append_assoc] at split
    obtain ⟨rfl, -⟩ := List.append_inj' split rfl
    exact absurd (by simp) (not_mem_of_returned unreturned handle)

/-- Whether there is something to bind depends on the last number alone. -/
theorem History.bind_ne_none_iff (history : History events pending)
    (run : pending.bind.Run last kept) : kept ≠ none ↔ lastNumber events ≠ 0 := by
  rw [← history.obtained.id_eq]
  rcases run_bind_iff.mp run with ⟨made, -, rfl⟩ | ⟨null, rfl, -⟩
  · exact iff_of_true nofun made
  · exact iff_of_false (by simp) (by simp [null])

/-- However often the device was asked for a framebuffer and whatever it answered, and whether in
the end what was pending is bound or dropped: the memory is handed over or given back, once and
behind everything else. Of the framebuffers that have been made, the superseded ones are lost, and
what remains is handed over or removed. A framebuffer comes of a binding if the number that the
device gave last is not 0. -/
theorem History.settled (history : History events pending) (ended : pending.Ended last kept) :
    total Event.taken (events ++ last) = {pending.buffer.handle} ∧
      total Event.taken (events ++ last) =
        total Event.returned (events ++ last) + (kept.map (·.handle)).toList ∧
      total Event.made (events ++ last) =
        total Event.removed (events ++ last) + (kept.map (·.id)).toList + superseded events ∧
      (∀ before handle behind, events ++ last = before ++ .released handle :: behind →
        behind = []) ∧
      ∀ rest bound, pending.bind.Run rest bound → (bound ≠ none ↔ lastNumber events ≠ 0) := by
  obtain ⟨taken, returned, removed, id_eq⟩ := history.obtained
  have binds : ∀ rest bound, pending.bind.Run rest bound →
      (bound ≠ none ↔ lastNumber events ≠ 0) := fun rest bound run => history.bind_ne_none_iff run
  have made := total_made_eq events
  rw [← id_eq] at made
  rcases ended.cases with ⟨number, rfl, rfl⟩ | ⟨rfl, dropped⟩
  · -- Handed over: what has been obtained is kept, and no call is made.
    rw [List.append_nil, taken, returned, removed, made, if_neg number]
    refine ⟨rfl, by simp, by simp [add_comm], ?_, binds⟩
    intro before handle behind split
    exact absurd (by simp [split]) (not_mem_of_returned returned handle)
  · -- Given up: the last number goes, and then the memory.
    obtain ⟨calls, rfl, taken', returned', made', removed'⟩ := dropped.exists_calls
    have unreturned : total Event.returned (events ++ calls) = 0 := by
      rw [total_append, returned, returned', add_zero]
    refine ⟨?_, ?_, ?_, ?_, binds⟩
    · simp [taken, taken', Event.taken, Event.released]
    · simp [taken, taken', returned, returned', Event.taken, Event.returned, Event.released]
    · simp [made, made', removed, removed', Event.made, Event.removed, Event.released, add_comm]
    · intro before handle behind split
      rw [← List.append_assoc] at split
      exact eq_nil_of_returned unreturned split

end Pending

namespace Session

/-- The device refuses the first request for a framebuffer and grants the second one. -/
def granted : List (Event Platform) :=
  [.allocated 64 32 (.ok ⟨7, 256⟩),
    .kms (.addFramebuffer ⟨64, 32, 256, 32, 24, 7⟩) (.error (.os 12)),
    .kms (.addFramebuffer ⟨64, 32, 256, 32, 24, 7⟩) (.ok 100)]

theorem history_granted : Pending.History granted ⟨⟨7, 256⟩, 100⟩ := by
  have first : Pending.History [.allocated 64 32 (.ok ⟨7, 256⟩)] ⟨⟨7, 256⟩, 0⟩ :=
    .allocated 64 32 (replay_eq_some_iff.mp rfl)
  have refusal : (Pending.register ⟨⟨7, 256⟩, 0⟩ 64 32 24 32).Run
      [.kms (.addFramebuffer ⟨64, 32, 256, 32, 24, 7⟩) (.error (.os 12))] (.error (.os 12)) :=
    Pending.run_register_error_iff.mpr rfl
  have refused := first.refused 64 32 24 32 refusal
  exact refused.registered 64 32 24 32 (Pending.run_register_ok_iff.mpr ⟨rfl, rfl⟩)

/-- If what is pending is dropped after all, its framebuffer is removed and its memory given back. -/
theorem granted_settled :
    Pending.superseded granted = 0 ∧
      Ledger.total Event.removed (granted ++
        [.kms (.removeFramebuffer 100) (.ok ()), .released 7]) = {100} ∧
      Ledger.total Event.returned (granted ++
        [.kms (.removeFramebuffer 100) (.ok ()), .released 7]) = {7} ∧
      ∀ rest bound, (Pending.bind ⟨⟨7, 256⟩, 100⟩).Run rest bound → bound ≠ none := by
  have ended : Pending.Ended ⟨⟨7, 256⟩, 100⟩
      [.kms (.removeFramebuffer 100) (.ok ()), .released 7] none :=
    .dropped (Pending.Dropped.registered (by decide) (.ok ())).run
  have once : Pending.superseded granted = 0 := Pending.superseded_eq_zero (by decide)
  obtain ⟨taken, memory, made, -, binds⟩ := Pending.History.settled history_granted ended
  refine ⟨once, ?_, ?_, fun rest bound run => (binds rest bound run).mpr (by decide)⟩
  · have lone : Ledger.total Event.made (granted ++
        [.kms (.removeFramebuffer 100) (.ok ()), .released 7]) = {100} := rfl
    rw [once, add_zero, lone] at made
    exact made.symm
  · rw [taken] at memory
    exact memory.symm

/-- The device grants a second framebuffer of the same memory, with this number. -/
def replaced (id : UInt32) : List (Event Platform) :=
  [.allocated 64 32 (.ok ⟨7, 256⟩),
    .kms (.addFramebuffer ⟨64, 32, 256, 32, 24, 7⟩) (.ok 100),
    .kms (.addFramebuffer ⟨64, 32, 256, 32, 24, 7⟩) (.ok id)]

theorem history_replaced (id : UInt32) : Pending.History (replaced id) ⟨⟨7, 256⟩, id⟩ := by
  have memory : Pending.History [.allocated 64 32 (.ok ⟨7, 256⟩)] ⟨⟨7, 256⟩, 0⟩ :=
    .allocated 64 32 (replay_eq_some_iff.mp rfl)
  have first : Pending.History _ ⟨⟨7, 256⟩, 100⟩ :=
    memory.registered 64 32 24 32 (Pending.run_register_ok_iff.mpr ⟨rfl, rfl⟩)
  exact first.registered 64 32 24 32 (Pending.run_register_ok_iff.mpr ⟨rfl, rfl⟩)

/-- The first framebuffer is neither removed with the second one nor handed over. If the second
number is 0, there is nothing to bind although the first framebuffer has been made. -/
theorem replaced_lost :
    Pending.History (replaced 101) ⟨⟨7, 256⟩, 101⟩ ∧
      (Pending.drop ⟨⟨7, 256⟩, 101⟩).Run [.kms (.removeFramebuffer 101) (.ok ()), .released 7] () ∧
      100 ∈ Ledger.total Event.made (replaced 101) ∧
      100 ∉ Ledger.total Event.removed
        (replaced 101 ++ [.kms (.removeFramebuffer 101) (.ok ()), .released 7]) ∧
      Pending.History (replaced 0) ⟨⟨7, 256⟩, 0⟩ ∧
      (Pending.bind ⟨⟨7, 256⟩, 0⟩).Run [.released 7] none ∧
      100 ∈ Ledger.total Event.made (replaced 0) :=
  ⟨history_replaced 101, (Pending.Dropped.registered (by decide) (.ok ())).run, by decide,
    by decide, history_replaced 0, Pending.run_bind_iff.mpr (.inr ⟨rfl, rfl, .unregistered rfl⟩),
    by decide⟩

end Session

end Modeset
