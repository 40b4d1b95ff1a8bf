import Modeset.Host
import Modeset.Proofs.Run

/-!
# Procedures in layers

A command stands on several layers: what it does with a manager is carried out on a device and a
pool, the pool on the device alone, and the device on its node, beside which the command asks its
host. Each layer is a procedure whose calls are carried out by procedures of the layer below. Here a
run of the layer below is turned into a run of the layer above. If what stands at the bottom has a
state, then this run leads from the one state to the other as well, where an event of the upper
layer leads wherever the events lead that its call is carried out by.

## Main definitions

* `Event.onLeft`, `Event.onRight`, `Event.lefts` — the events of two signatures side by side
* `Carried`, `CarriedBeside` — where an event leads whose call is carried out below
* `Proc.CarriedOut` — the events below that the events above are carried out by
* `Proc.MakesOnly` — the calls that a procedure can make at all

## Main results

* `Proc.run_left_iff`, `Proc.run_right_iff` — the runs of a procedure over one of two signatures
* `Proc.run_refineFirst_iff` — the runs below are those above, with the calls carried out
* `Proc.exists_carried_of_interpret`, `Proc.exists_carried_of_refineFirst` — a run below is one
  above
* `Proc.run_filterNotes_iff` — the notes that are left out do not matter
* `Proc.MakesOnly.of_run` — no other calls are made
-/

namespace Modeset

open Proc

variable {R S T : Signature} {α β σ τ : Type}

namespace Event

/-- An event of the first of two signatures, as one of both. -/
def onLeft (event : Event S) : Event (S.sum T) := ⟨.inl event.call, event.answer⟩

/-- An event of the second of two signatures, as one of both. -/
def onRight (event : Event T) : Event (S.sum T) := ⟨.inr event.call, event.answer⟩

/-- The event of the first signature that an event of both is, if it is one. -/
def left? (event : Event (S.sum T)) : Option (Event S) :=
  match event with
  | ⟨.inl call, answer⟩ => some ⟨call, answer⟩
  | ⟨.inr _, _⟩ => none

/-- The events of the first of two signatures. -/
def lefts (events : List (Event (S.sum T))) : List (Event S) := events.filterMap left?

@[simp] theorem lefts_nil : lefts ([] : List (Event (S.sum T))) = [] := rfl

@[simp] theorem lefts_append (events others : List (Event (S.sum T))) :
    lefts (events ++ others) = lefts events ++ lefts others :=
  List.filterMap_append

@[simp] theorem lefts_map_onLeft (events : List (Event S)) :
    lefts (events.map (onLeft : Event S → Event (S.sum T))) = events := by
  have own : left? ∘ (onLeft : Event S → Event (S.sum T)) = some := rfl
  rw [lefts, List.filterMap_map, own, List.filterMap_some]

@[simp] theorem lefts_map_onRight (events : List (Event T)) :
    lefts (events.map (onRight : Event T → Event (S.sum T))) = [] := by
  have other : left? ∘ (onRight : Event T → Event (S.sum T)) = fun _ => none := rfl
  rw [lefts, List.filterMap_map, other]
  exact List.filterMap_eq_nil_iff.mpr fun _ _ => rfl

end Event

namespace Proc

/-- Where each call is carried out by one call, a run below is one above, call by call. -/
theorem run_interpret_iff {p : Proc S α} {carryOut : (c : S.Call) → Proc T (S.Answer c)}
    {below : Event S → Event T}
    (asks : ∀ c events answer, (carryOut c).Run events answer ↔ events = [below ⟨c, answer⟩])
    {events : List (Event T)} {a : α} :
    (p.interpret carryOut fun entry => .note entry (.done ())).Run events a ↔
      ∃ above, p.Run above a ∧ events = above.map below := by
  induction p generalizing events with
  | done b =>
    constructor
    · intro run
      obtain ⟨rfl, rfl⟩ := run_done_iff.mp run
      exact ⟨[], .done _, rfl⟩
    · rintro ⟨above, run, rfl⟩
      obtain ⟨rfl, rfl⟩ := run_done_iff.mp run
      exact .done _
  | call c next ih =>
    rw [interpret_call]
    constructor
    · intro run
      obtain ⟨first, answer, rest, asked, later, rfl⟩ := run_bind_iff.mp run
      obtain rfl := (asks c first answer).mp asked
      obtain ⟨above, above_run, rfl⟩ := (ih answer).mp later
      exact ⟨⟨c, answer⟩ :: above, .call above_run, rfl⟩
    · rintro ⟨above, run, rfl⟩
      obtain ⟨answer, rest, rfl, later⟩ := run_call_iff.mp run
      have asked := (asks c _ answer).mpr rfl
      exact asked.bind ((ih answer).mpr ⟨rest, later, rfl⟩)
  | note entry next ih =>
    rw [interpret_note, bind_note, run_note_iff, bind_done, ih]
    simp only [run_note_iff]

/-- A procedure over the first of two signatures makes its own calls, seen as calls of both. -/
theorem run_left_iff {p : Proc S α} {events : List (Event (S.sum T))} {a : α} :
    (p.left : Proc (S.sum T) α).Run events a ↔
      ∃ own, p.Run own a ∧ events = own.map Event.onLeft :=
  run_interpret_iff fun _ _ _ => run_ask_iff

/-- A procedure over the second of two signatures makes its own calls, seen as calls of both. -/
theorem run_right_iff {p : Proc T α} {events : List (Event (S.sum T))} {a : α} :
    (p.right : Proc (S.sum T) α).Run events a ↔
      ∃ own, p.Run own a ∧ events = own.map Event.onRight :=
  run_interpret_iff fun _ _ _ => run_ask_iff

/-- The notes that are left out do not matter. -/
theorem run_filterNotes_iff {p : Proc S α} {keep : Entry → Bool} {events : List (Event S)} {a : α} :
    (p.filterNotes keep).Run events a ↔ p.Run events a := by
  induction p generalizing events with
  | done b => rfl
  | call c next ih => simp only [filterNotes, run_call_iff, ih]
  | note entry next ih =>
    unfold filterNotes
    split <;> simp only [run_note_iff, ih]

/-! ## Carrying calls out -/

/-- Where an event leads whose call is carried out below. -/
def Carried (carryOut : (c : S.Call) → Proc T (S.Answer c)) (step : τ → Event T → τ → Prop)
    (t : τ) (event : Event S) (after : τ) : Prop :=
  ∃ events, (carryOut event.call).Run events event.answer ∧ Follows step t events after

/-- Where an event leads whose call is carried out below by something with a state of its own. -/
def CarriedBeside (carryOut : (c : S.Call) → StateT σ (Proc T) (S.Answer c))
    (step : τ → Event T → τ → Prop) (s : σ × τ) (event : Event S) (after : σ × τ) : Prop :=
  ∃ events, (carryOut event.call s.1).Run events (event.answer, after.1) ∧
    Follows step s.2 events after.2

variable {step : τ → Event T → τ → Prop} {t after : τ}

/-- A run of the layer below is one of the layer above, and leads where that one leads. -/
theorem exists_carried_of_interpret {p : Proc S α}
    {carryOut : (c : S.Call) → Proc T (S.Answer c)} {events : List (Event T)} {a : α}
    (run : (p.interpret carryOut fun entry => .note entry (.done ())).Run events a)
    (path : Follows step t events after) :
    ∃ above, p.Run above a ∧ Follows (Carried carryOut step) t above after := by
  induction p generalizing events t with
  | done b =>
    obtain ⟨rfl, rfl⟩ := run_done_iff.mp run
    exact ⟨[], .done _, path⟩
  | call c next ih =>
    rw [interpret_call] at run
    obtain ⟨first, answer, rest, asked, later, rfl⟩ := run_bind_iff.mp run
    obtain ⟨middle, first_path, rest_path⟩ := Follows.append_iff.mp path
    obtain ⟨above, above_run, above_path⟩ := ih answer later rest_path
    exact ⟨⟨c, answer⟩ :: above, .call above_run, middle, ⟨first, asked, first_path⟩, above_path⟩
  | note entry next ih =>
    rw [interpret_note, bind_note, run_note_iff] at run
    obtain ⟨above, above_run, above_path⟩ := ih run path
    exact ⟨above, .note above_run, above_path⟩

/-- Whatever procedures the calls of a procedure are carried out by, its result is one that it has
for some answers. -/
theorem exists_run_of_interpret {p : Proc S α} {carryOut : (c : S.Call) → Proc T (S.Answer c)}
    {events : List (Event T)} {a : α}
    (run : (p.interpret carryOut fun entry => .note entry (.done ())).Run events a) :
    ∃ above, p.Run above a := by
  -- At the bottom there is nothing that an event could change.
  have still : Follows (fun _ _ _ => True) () events () := by
    clear run
    induction events with
    | nil => rfl
    | cons event rest ih => exact ⟨(), trivial, ih⟩
  obtain ⟨above, above_run, -⟩ := exists_carried_of_interpret run still
  exact ⟨above, above_run⟩

/-- The events below that the events above are carried out by, when the calls of the first of two
signatures are carried out by something with a state of its own. -/
def CarriedOut (carryOut : (c : S.Call) → StateT σ (Proc T) (S.Answer c)) :
    σ → List (Event (S.sum R)) → List (Event (T.sum R)) → σ → Prop
  | s, [], events, last => events = [] ∧ last = s
  | s, ⟨.inl c, answer⟩ :: above, events, last =>
    ∃ own middle rest, (carryOut c s).Run own (answer, middle) ∧
      CarriedOut carryOut middle above rest last ∧ events = own.map Event.onLeft ++ rest
  | s, ⟨.inr c, answer⟩ :: above, events, last =>
    ∃ rest, CarriedOut carryOut s above rest last ∧ events = ⟨.inr c, answer⟩ :: rest

/-- The runs of the layer below beside another signature are those of the layer above, with the
calls carried out. -/
theorem run_refineFirst_iff {p : Proc (S.sum R) α}
    {carryOut : (c : S.Call) → StateT σ (Proc T) (S.Answer c)} {s last : σ}
    {events : List (Event (T.sum R))} {a : α} :
    (p.refineFirst carryOut s).Run events (a, last) ↔
      ∃ above, p.Run above a ∧ CarriedOut carryOut s above events last := by
  induction p generalizing events s with
  | done b =>
    constructor
    · intro run
      obtain ⟨rfl, same⟩ := run_done_iff.mp run
      obtain ⟨rfl, rfl⟩ := Prod.mk.inj same
      exact ⟨[], .done _, rfl, rfl⟩
    · rintro ⟨above, run, carried⟩
      obtain ⟨rfl, rfl⟩ := run_done_iff.mp run
      obtain ⟨rfl, rfl⟩ := carried
      exact .done _
  | call c next ih =>
    constructor
    · intro run
      obtain ⟨first, ⟨answer, middle⟩, rest, asked, later, rfl⟩ := run_bind_iff.mp run
      obtain ⟨above, above_run, carried⟩ := (ih answer).mp later
      refine ⟨⟨c, answer⟩ :: above, .call above_run, ?_⟩
      cases c with
      | inl c =>
        obtain ⟨own, own_run, rfl⟩ := run_left_iff.mp asked
        exact ⟨own, middle, rest, own_run, carried, rfl⟩
      | inr c =>
        obtain ⟨reply, others, rfl, ended⟩ := run_call_iff.mp asked
        obtain ⟨rfl, same⟩ := run_done_iff.mp ended
        obtain ⟨rfl, rfl⟩ := Prod.mk.inj same
        exact ⟨rest, carried, rfl⟩
    · rintro ⟨above, run, carried⟩
      obtain ⟨answer, others, rfl, later⟩ := run_call_iff.mp run
      apply run_bind_iff.mpr
      cases c with
      | inl c =>
        obtain ⟨own, middle, rest, own_run, carried, rfl⟩ := carried
        exact ⟨own.map Event.onLeft, (answer, middle), rest, run_left_iff.mpr ⟨own, own_run, rfl⟩,
          (ih answer).mpr ⟨others, later, carried⟩, rfl⟩
      | inr c =>
        obtain ⟨rest, carried, rfl⟩ := carried
        exact ⟨[⟨.inr c, answer⟩], (answer, s), rest, .call (.done _),
          (ih answer).mpr ⟨others, later, carried⟩, rfl⟩
  | note entry next ih =>
    constructor
    · intro run
      obtain ⟨above, above_run, carried⟩ := ih.mp (run_note_iff.mp run)
      exact ⟨above, .note above_run, carried⟩
    · rintro ⟨above, run, carried⟩
      exact .note (ih.mpr ⟨above, run_note_iff.mp run, carried⟩)

/-- As far as the carried calls are concerned, the events below lead where those above lead. -/
theorem CarriedOut.follows {carryOut : (c : S.Call) → StateT σ (Proc T) (S.Answer c)}
    {s last : σ} {above : List (Event (S.sum R))} {events : List (Event (T.sum R))}
    (carried : CarriedOut carryOut s above events last)
    (path : Follows step t (Event.lefts events) after) :
    Follows (CarriedBeside carryOut step) (s, t) (Event.lefts above) (last, after) := by
  induction above generalizing events s t with
  | nil =>
    obtain ⟨rfl, rfl⟩ := carried
    obtain rfl := path
    rfl
  | cons event above ih =>
    obtain ⟨c | c, answer⟩ := event
    · obtain ⟨own, middle, rest, own_run, carried, rfl⟩ := carried
      rw [Event.lefts_append, Event.lefts_map_onLeft] at path
      obtain ⟨between, first_path, rest_path⟩ := Follows.append_iff.mp path
      exact ⟨(middle, between), ⟨own, own_run, first_path⟩, ih carried rest_path⟩
    · -- A call beside goes through, and changes nothing that is led along here.
      obtain ⟨rest, carried, rfl⟩ := carried
      exact ih carried path

/-- A run of the layer below beside another signature is one of the layer above, and as far as the
carried calls are concerned it leads where that one leads. -/
theorem exists_carried_of_refineFirst {p : Proc (S.sum R) α}
    {carryOut : (c : S.Call) → StateT σ (Proc T) (S.Answer c)} {s last : σ}
    {events : List (Event (T.sum R))} {a : α}
    (run : (p.refineFirst carryOut s).Run events (a, last))
    (path : Follows step t (Event.lefts events) after) :
    ∃ above, p.Run above a ∧
      Follows (CarriedBeside carryOut step) (s, t) (Event.lefts above) (last, after) := by
  obtain ⟨above, above_run, carried⟩ := run_refineFirst_iff.mp run
  exact ⟨above, above_run, carried.follows path⟩

/-! ## Calls that are never made -/

/-- Whatever its calls are answered, a procedure makes no others than these. -/
def MakesOnly (allowed : S.Call → Prop) : Proc S α → Prop
  | done _ => True
  | call c next => allowed c ∧ ∀ answer, (next answer).MakesOnly allowed
  | note _ next => next.MakesOnly allowed

section MakesOnly

variable {allowed : S.Call → Prop}

theorem MakesOnly.of_run {p : Proc S α} (only : p.MakesOnly allowed) {events : List (Event S)}
    {a : α} (run : p.Run events a) : ∀ event ∈ events, allowed event.call := by
  induction run with
  | done a => simp
  | call _ ih => exact List.forall_mem_cons.mpr ⟨only.1, ih (only.2 _)⟩
  | note _ ih => exact ih only

@[simp] theorem makesOnly_done {a : α} : (done a : Proc S α).MakesOnly allowed := trivial

@[simp] theorem makesOnly_log {level : Level} {topic : Topic} {text : String} :
    (log level topic text : Proc S Unit).MakesOnly allowed := trivial

@[simp] theorem makesOnly_ask_iff {c : S.Call} : (ask c).MakesOnly allowed ↔ allowed c :=
  ⟨fun only => only.1, fun here => ⟨here, fun _ => trivial⟩⟩

theorem MakesOnly.bind {p : Proc S α} {f : α → Proc S β} (first : p.MakesOnly allowed)
    (rest : ∀ a, (f a).MakesOnly allowed) : (p >>= f).MakesOnly allowed := by
  induction p with
  | done a => exact rest a
  | call c next ih => exact ⟨first.1, fun answer => ih answer (first.2 answer)⟩
  | note entry next ih => exact ih first

@[simp] theorem makesOnly_ask_bind_iff {c : S.Call} {f : S.Answer c → Proc S β} :
    (ask c >>= f).MakesOnly allowed ↔ allowed c ∧ ∀ answer, (f answer).MakesOnly allowed :=
  Iff.rfl

@[simp] theorem makesOnly_log_bind_iff {level : Level} {topic : Topic} {text : String}
    {f : Unit → Proc S β} :
    (log level topic text >>= f).MakesOnly allowed ↔ (f ()).MakesOnly allowed :=
  Iff.rfl

end MakesOnly

end Proc

namespace Host

variable {call : Call} {allowed : Call → Prop} {events : List (Event Host)} {b : β}

/- The answer's type is left out of the index, since for a known call it is unfolded there. -/
@[simp] theorem run_ask_bind_iff {f : Answer call → Proc Host β} :
    (@Bind.bind (Proc Host) _ (no_index (Answer call)) β (ask call) f).Run events b ↔
      ∃ answer rest, events = ⟨call, answer⟩ :: rest ∧ (f answer).Run rest b :=
  Proc.run_ask_bind_iff

@[simp] theorem makesOnly_ask_bind_iff {f : Answer call → Proc Host β} :
    (@Bind.bind (Proc Host) _ (no_index (Answer call)) β (ask call) f).MakesOnly (S := Host)
      allowed ↔ allowed call ∧ ∀ answer, (f answer).MakesOnly (S := Host) allowed :=
  Iff.rfl

end Host

end Modeset
