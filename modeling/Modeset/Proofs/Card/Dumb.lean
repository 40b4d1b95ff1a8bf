import Mathlib.Data.List.Induction
import Modeset.Proofs.Live

/-!
# Which dumb buffers a card destroys

Nothing is known of the kernel here: it may give out a handle that is still in use, refuse to make
a buffer, and refuse to destroy one. A card is called any number of times, in whatever way, and
among other things it is told to make and to destroy dumb buffers. It puts the request to destroy a
buffer only for a handle that it has got from the kernel, and only once for each time that it has
got it, even if the kernel refused. Whatever other handle it is given, it does not ask the kernel.

## Main definitions

* `Event.createdDumb`, `Event.destroyedDumb` — the dumb buffer that a request makes or destroys
* `Card.History` — the requests of a sequence of calls to a card, and the card behind them
* `Card.Outstanding` — a handle that has been got and not been taken back since
* `Card.Owned` — only outstanding handles are destroyed

## Main results

* `Card.served_of_run` — what one call does to the handles that a card keeps
* `Card.Tracks.step`, `Card.History.tracks` — a card keeps just the outstanding handles
* `Card.Owned.count_le` — where only outstanding handles are destroyed, none is destroyed more often
  than it is made
* `Card.History.destroys_outstanding` — so it is with every card
-/

namespace Modeset

open Proc

namespace Event

/-- The handle of the dumb buffer that the kernel made. -/
def createdDumb (event : Event Node) : Option UInt32 :=
  match event with
  | ⟨.createDumb .., .ok dumb⟩ => some dumb.handle
  | _ => none

/-- The handle of the dumb buffer that the kernel was to destroy, whatever it answered. -/
def destroyedDumb (event : Event Node) : Option UInt32 :=
  match event with
  | ⟨.destroyDumb handle, _⟩ => some handle
  | _ => none

/-- A request that neither makes nor destroys a dumb buffer. -/
def SparesDumbs (event : Event Node) : Prop :=
  event.createdDumb = none ∧ event.destroyedDumb = none

theorem sparesDumbs_of_isLasting {event : Event Node} (passing : event.call.isLasting = false) :
    event.SparesDumbs := by
  obtain ⟨call, answer⟩ := event
  cases call with
  | createDumb | destroyDumb => cases passing
  | _ => exact ⟨rfl, rfl⟩

end Event

namespace Card

variable {retries : Nat} {events others : List (Event Node)} {card after : Card} {handle : UInt32}

/-- The requests to the node, with their answers, of some calls to a card that has just been opened,
one after the other, and the card behind them. -/
inductive History (retries : Nat) : List (Event Node) → Card → Prop
  | opened (path : Path) : History retries [] { path }
  | call {events others : List (Event Node)} {card after : Card}
      (history : History retries events card) (call : Kms.Call) {answer : Kms.Answer call}
      (run : (kms retries call card).Run others (answer, after)) :
      History retries (events ++ others) after

/-! ## What one call does -/

/-- The ways in which a call can change the handles that a card keeps. -/
inductive Served (card : Card) : List (Event Node) → Card → Prop
  /-- No dumb buffer is made or destroyed. -/
  | spared {events : List (Event Node)} (spares : ∀ event ∈ events, event.SparesDumbs) :
      Served card events card
  /-- A dumb buffer is made, and its handle is kept. -/
  | created (width height bpp : UInt32) (dumb : DumbBuffer) :
      Served card [⟨.createDumb width height bpp, .ok dumb⟩] (card.insert dumb.handle)
  /-- A dumb buffer is destroyed whose handle was kept, and it no longer is. -/
  | destroyed (handle : UInt32) (kept : handle ∈ card.dumbs) (answer : Except Fault Unit) :
      Served card [⟨.destroyDumb handle, answer⟩] (card.erase handle)

/-- A handle that is not kept is refused, and the kernel is not asked. -/
theorem run_destroyDumb_iff_of_notMem (unkept : handle ∉ card.dumbs) {answer : Except Fault Unit} :
    (kms retries (.destroyDumb handle) card).Run events (answer, after) ↔
      events = [] ∧
        answer = .error (.described .notFound s!"no dumb buffer with handle {handle}") ∧
        after = card := by
  change (destroyDumb handle card).Run events (answer, after) ↔ _
  rw [destroyDumb, if_neg unkept, pure_eq, run_done_iff, Prod.mk.injEq]

/-- What uses nothing of what a card keeps, and can put no request that makes or destroys a dumb
buffer, leaves the handles that are kept as they are. -/
theorem served_of_makesOnly {α : Type} {p : Proc Node α} {a : α}
    (only : p.MakesOnly (S := Node) fun call => ∀ answer, Event.SparesDumbs ⟨call, answer⟩)
    (run : ((liftM p : StateT Card (Proc Node) α) card).Run events (a, after)) :
    Served card events after := by
  obtain ⟨own, rfl⟩ := run_lift_iff.mp run
  exact .spared fun event member => only.of_run own event member event.answer

/-- A call can change the handles that are kept in these ways only. -/
theorem served_of_run {call : Kms.Call} {answer : Kms.Answer call}
    (run : (kms retries call card).Run events (answer, after)) : Served card events after := by
  by_cases passing : call.isLasting = false
  · obtain ⟨rfl, passes⟩ := passes_of_run_kms passing run
    exact .spared fun event member => Event.sparesDumbs_of_isLasting (passes event member)
  cases call with
  | addFramebuffer spec =>
    refine served_of_makesOnly ?_ run
    unfold addFramebuffer
    cases objectId spec.handle with
    | error fault => exact trivial
    | ok handle => exact makesOnly_ask_iff.mpr fun answer => ⟨rfl, rfl⟩
  | removeFramebuffer id =>
    refine served_of_makesOnly ?_ run
    unfold removeFramebuffer
    cases objectId id with
    | error fault => exact trivial
    | ok id => exact makesOnly_ask_iff.mpr fun answer => ⟨rfl, rfl⟩
  | createDumb width height bpp =>
    obtain ⟨creation, rest, rfl, last⟩ := Proc.run_ask_bind_iff.mp run
    cases creation with
    | error fault =>
      obtain ⟨rfl, same⟩ := run_done_iff.mp last
      obtain ⟨-, rfl⟩ := Prod.mk.inj same
      exact .spared fun event member => List.mem_singleton.mp member ▸ ⟨rfl, rfl⟩
    | ok dumb =>
      obtain ⟨rfl, same⟩ := run_done_iff.mp last
      obtain ⟨-, rfl⟩ := Prod.mk.inj same
      exact .created width height bpp dumb
  | destroyDumb handle =>
    by_cases kept : handle ∈ card.dumbs
    · have destruction : (destroyDumb handle card).Run events (answer, after) := run
      rw [destroyDumb, if_pos kept] at destruction
      obtain ⟨reply, rest, rfl, last⟩ := Proc.run_ask_bind_iff.mp destruction
      obtain ⟨rfl, same⟩ := run_done_iff.mp last
      obtain ⟨-, rfl⟩ := Prod.mk.inj same
      exact .destroyed handle kept reply
    · obtain ⟨rfl, -, rfl⟩ := (run_destroyDumb_iff_of_notMem kept).mp run
      exact .spared (by simp)
  | _ => exact absurd rfl passing

/-! ## Outstanding handles -/

/-- The kernel has given this handle out for a dumb buffer, and has not been asked since to destroy
it. -/
def Outstanding (handle : UInt32) (events : List (Event Node)) : Prop :=
  ∃ before creation later, events = before ++ creation :: later ∧
    creation.createdDumb = some handle ∧ ∀ event ∈ later, event.destroyedDumb ≠ some handle

theorem not_outstanding_nil : ¬ Outstanding handle [] := by
  rintro ⟨before, creation, later, same, -⟩
  simp at same

/-- A handle is outstanding behind a request that has made its buffer, and stays so behind every
other request that does not destroy it. -/
theorem outstanding_append_singleton_iff {event : Event Node} :
    Outstanding handle (events ++ [event]) ↔
      event.createdDumb = some handle ∨
        Outstanding handle events ∧ event.destroyedDumb ≠ some handle := by
  constructor
  · rintro ⟨before, creation, later, same, made, kept⟩
    -- Either the last request is the creation itself, or it is one of those behind it.
    rcases List.eq_nil_or_concat later with rfl | ⟨later, last, rfl⟩
    · obtain ⟨-, last_eq⟩ := List.append_inj' same rfl
      obtain rfl := List.singleton_inj.mp last_eq
      exact .inl made
    · rw [List.concat_eq_append, ← List.cons_append, ← List.append_assoc] at same
      obtain ⟨rfl, last_eq⟩ := List.append_inj' same rfl
      obtain rfl := List.singleton_inj.mp last_eq
      refine .inr ⟨⟨before, creation, later, rfl, made, fun other member => ?_⟩, ?_⟩
      · exact kept other (by simp [member])
      · exact kept event (by simp)
  · rintro (made | ⟨⟨before, creation, later, rfl, made, kept⟩, spared⟩)
    · exact ⟨events, event, [], rfl, made, by simp⟩
    · refine ⟨before, creation, later ++ [event], by simp, made, fun other member => ?_⟩
      rcases List.mem_append.mp member with member | member
      · exact kept other member
      · exact List.mem_singleton.mp member ▸ spared

/-- Whenever the kernel is asked to destroy a dumb buffer, its handle is outstanding. -/
def Owned (events : List (Event Node)) : Prop :=
  ∀ before event handle, before ++ [event] <+: events → event.destroyedDumb = some handle →
    Outstanding handle before

theorem owned_append_singleton_iff {event : Event Node} :
    Owned (events ++ [event]) ↔
      Owned events ∧ ∀ handle, event.destroyedDumb = some handle → Outstanding handle events := by
  unfold Owned
  simp only [List.prefix_concat_iff]
  constructor
  · intro owned
    exact ⟨fun before other handle earlier => owned before other handle (.inr earlier),
      fun handle => owned events event handle (.inl rfl)⟩
  · rintro ⟨owned, last⟩ before other handle (same | earlier) destroyed
    · obtain ⟨rfl, last_eq⟩ := List.append_inj' same rfl
      obtain rfl := List.singleton_inj.mp last_eq
      exact last handle destroyed
    · exact owned before other handle earlier destroyed

/-- What is owned all along was so at every point. -/
theorem Owned.of_prefix {before : List (Event Node)} (owned : Owned events)
    (earlier : before <+: events) : Owned before :=
  fun first event handle further => owned first event handle (further.trans earlier)

/-- How often a request concerns a handle: once or not at all. -/
theorem count_filterMap_append_singleton (part : Event Node → Option UInt32) (event : Event Node) :
    ((events ++ [event]).filterMap part).count handle =
      (events.filterMap part).count handle + if part event = some handle then 1 else 0 := by
  rw [List.filterMap_append, List.count_append]
  cases same : part event with
  | none => simp [same]
  | some other => simp [same, List.count_singleton]

/-- Where only outstanding handles are destroyed, none is destroyed more often than it is made, and
if it is outstanding, then less often. -/
theorem Owned.count_le (owned : Owned events) (handle : UInt32) :
    (events.filterMap Event.destroyedDumb).count handle ≤
        (events.filterMap Event.createdDumb).count handle ∧
      (Outstanding handle events →
        (events.filterMap Event.destroyedDumb).count handle <
          (events.filterMap Event.createdDumb).count handle) := by
  induction events using List.reverseRecOn with
  | nil => exact ⟨le_refl _, fun outstanding => absurd outstanding not_outstanding_nil⟩
  | append_singleton events event ih =>
    obtain ⟨earlier, last⟩ := owned_append_singleton_iff.mp owned
    obtain ⟨bounded, strictly⟩ := ih earlier
    rw [count_filterMap_append_singleton, count_filterMap_append_singleton,
      outstanding_append_singleton_iff]
    by_cases destroyed : event.destroyedDumb = some handle
    · -- What is destroyed here was outstanding, so it has been made once more than destroyed.
      have before := strictly (last handle destroyed)
      have unmade : event.createdDumb ≠ some handle := by
        obtain ⟨call, answer⟩ := event
        cases call <;> cases destroyed
        exact nofun
      simp only [destroyed, unmade, if_true, if_false, not_true, ne_eq, and_false, or_false]
      exact ⟨before, False.elim⟩
    · by_cases made : event.createdDumb = some handle
      · simp only [destroyed, made, if_true, if_false]
        omega
      · simp only [destroyed, made, if_false, ne_eq, not_false_eq_true, and_true, false_or]
        exact ⟨bounded, strictly⟩

/-! ## What a card keeps -/

/-- A card that has put these requests keeps just the outstanding handles, and it has destroyed no
others. -/
structure Tracks (events : List (Event Node)) (card : Card) : Prop where
  mem_dumbs_iff : ∀ handle, handle ∈ card.dumbs ↔ Outstanding handle events
  owned : Owned events

namespace Tracks

theorem opened (path : Path) : Tracks [] { path } where
  mem_dumbs_iff handle := iff_of_false nofun not_outstanding_nil
  owned before event handle earlier := by simp at earlier

/-- Requests that neither make nor destroy a dumb buffer change nothing. -/
theorem spared (tracks : Tracks events card) (spares : ∀ event ∈ others, event.SparesDumbs) :
    Tracks (events ++ others) card := by
  induction others using List.reverseRecOn with
  | nil =>
    rw [List.append_nil]
    exact tracks
  | append_singleton others event ih =>
    obtain ⟨unmade, undestroyed⟩ := spares event (by simp)
    have earlier := ih fun other member => spares other (List.mem_append_left _ member)
    rw [← List.append_assoc]
    constructor
    · intro handle
      rw [outstanding_append_singleton_iff, earlier.mem_dumbs_iff, unmade, undestroyed]
      simp
    · refine owned_append_singleton_iff.mpr ⟨earlier.owned, fun handle destroyed => ?_⟩
      rw [undestroyed] at destroyed
      cases destroyed

/-- What a card keeps stays in step with what is outstanding, whatever call is served. -/
theorem step (tracks : Tracks events card) (served : Served card others after) :
    Tracks (events ++ others) after := by
  cases served with
  | spared spares => exact tracks.spared spares
  -- A handle that is given out while it is still kept stays one entry, as it stays outstanding.
  | created width height bpp dumb =>
    constructor
    · intro handle
      rw [outstanding_append_singleton_iff, mem_insert, tracks.mem_dumbs_iff]
      simp [Event.createdDumb, Event.destroyedDumb, eq_comm]
    · exact owned_append_singleton_iff.mpr ⟨tracks.owned, nofun⟩
  | destroyed handle kept answer =>
    constructor
    · intro other
      rw [outstanding_append_singleton_iff, mem_erase, tracks.mem_dumbs_iff]
      simp [Event.createdDumb, Event.destroyedDumb, eq_comm]
    · refine owned_append_singleton_iff.mpr ⟨tracks.owned, fun other destroyed => ?_⟩
      obtain rfl := Option.some.inj destroyed
      exact (tracks.mem_dumbs_iff handle).mp kept

end Tracks

/-- Behind every sequence of calls, a card keeps just the outstanding handles. -/
theorem History.tracks (history : History retries events card) : Tracks events card := by
  induction history with
  | opened path => exact .opened path
  | call history call run ih => exact ih.step (served_of_run run)

/-- Whatever a card is called for and whatever the kernel answers: the kernel is asked to destroy a
dumb buffer only when its handle is outstanding; at no point has it been asked to destroy one more
often than it has made it; and if the card is told to destroy any other, it says that there is none,
and asks nothing. -/
theorem History.destroys_outstanding (history : History retries events card) :
    Owned events ∧
      (∀ before, before <+: events → ∀ handle,
        (before.filterMap Event.destroyedDumb).count handle ≤
          (before.filterMap Event.createdDumb).count handle) ∧
      ∀ handle, ¬ Outstanding handle events → ∀ others answer after,
        (kms retries (.destroyDumb handle) card).Run others (answer, after) ↔
          others = [] ∧
            answer = .error (.described .notFound s!"no dumb buffer with handle {handle}") ∧
            after = card := by
  obtain ⟨mem_dumbs_iff, owned⟩ := history.tracks
  refine ⟨owned, fun before earlier handle => ?_, fun handle done others answer after => ?_⟩
  · exact ((owned.of_prefix earlier).count_le handle).1
  · exact run_destroyDumb_iff_of_notMem fun kept => done ((mem_dumbs_iff handle).mp kept)

end Card

namespace Session

/-- The kernel gives a handle out a second time, once its first buffer is destroyed, and then
refuses to destroy the second one. -/
def reused : List (Event Node) :=
  [⟨.createDumb 64 48 32, .ok ⟨5, 256, 0⟩⟩, ⟨.destroyDumb 5, .ok ()⟩,
    ⟨.createDumb 64 48 32, .ok ⟨5, 256, 0⟩⟩, ⟨.destroyDumb 5, .error (.os 16)⟩]

theorem history_reused : Card.History 0 reused {} := by
  have made (card : Card) : (Card.kms 0 (.createDumb 64 48 32) card).Run
      [⟨.createDumb 64 48 32, .ok ⟨5, 256, 0⟩⟩] (.ok ⟨5, 256, 12288⟩, card.insert 5) :=
    .call (.done _)
  have destroyed (answer : Except Fault Unit) : (Card.kms 0 (.destroyDumb 5) { dumbs := [5] }).Run
      [⟨.destroyDumb 5, answer⟩] (answer, {}) :=
    .call (.done _)
  have first := (Card.History.opened ⟨[]⟩).call _ (made {})
  have second := (first.call _ (destroyed (.ok ()))).call _ (made {})
  exact second.call _ (destroyed (.error (.os 16)))

/-- The handle is not outstanding any more, although its last buffer may still be there. -/
theorem not_outstanding_reused : ¬ Card.Outstanding 5 reused := by
  have split : reused = reused.take 3 ++ [⟨.destroyDumb 5, .error (.os 16)⟩] := rfl
  rw [split, Card.outstanding_append_singleton_iff]
  rintro (made | ⟨-, spared⟩)
  · cases made
  · exact spared rfl

/-- The card does not ask the kernel a third time. -/
theorem reused_refused :
    Card.Owned reused ∧ ¬ Card.Outstanding 5 reused ∧
      (Card.kms 0 (.destroyDumb 5) {}).Run []
        (.error (.described .notFound "no dumb buffer with handle 5"), {}) := by
  obtain ⟨owned, -, refused⟩ := Card.History.destroys_outstanding history_reused
  refine ⟨owned, not_outstanding_reused, ?_⟩
  exact (refused 5 not_outstanding_reused [] _ {}).mpr ⟨rfl, rfl, rfl⟩

end Session

end Modeset
