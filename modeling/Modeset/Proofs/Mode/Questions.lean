import Modeset.Mode.Choice
import Modeset.Proofs.Run

/-!
# Which modes are asked about

Whether a mode is exact is asked by a question that may have effects: it may count, or change its
mind. So it matters which modes it is put to and in which order. Here the answers are left open at
first. A choice is then a procedure whose calls are the questions, and its runs are laid down place
by place: the modes up to the first one that is accepted are asked about, each once, and if none is
accepted, all of them are. A question with a state of its own is one way to give the answers.

## Main definitions

* `Mode.Question`, `Mode.ask` — the question about a mode, with its answer left open
* `Mode.Fallback` — the place that is chosen if no mode is exact
* `Mode.Chosen` — the ways in which a choice can go

## Main results

* `Mode.Fallback.unique` — there is one place to fall back on
* `Mode.run_scanIndexM_iff`, `Mode.run_chooseIndexM_iff` — a choice can go in these ways only
* `Mode.interpret_chooseIndexM` — any question with effects is put as the open one is
* `Mode.chooseIndexM_breaks_ties` — what is chosen by a question with a state, and what it is asked
-/

namespace Modeset

namespace Proc

variable {S : Signature} {α σ : Type}

/-- If the calls of a procedure are answered out of a state, this answers one of its runs. -/
theorem exists_follows_of_state (answer : (c : S.Call) → StateM σ (S.Answer c)) (p : Proc S α)
    (s : σ) :
    ∃ events, p.Run events (p.interpret answer (fun _ => pure ()) s).1 ∧
      Follows (fun s event t => answer event.call s = (event.answer, t)) s events
        (p.interpret answer (fun _ => pure ()) s).2 := by
  induction p generalizing s with
  | done a => exact ⟨[], .done a, rfl⟩
  | call c next ih =>
    obtain ⟨events, run, path⟩ := ih (answer c s).1 (answer c s).2
    exact ⟨⟨c, (answer c s).1⟩ :: events, .call run, (answer c s).2, rfl, path⟩
  | note entry next ih =>
    obtain ⟨events, run, path⟩ := ih s
    exact ⟨events, .note run, path⟩

end Proc

namespace Mode

open Proc

/-- The question whether a mode is exactly what is wanted. -/
abbrev Question : Signature := ⟨Mode, fun _ => Bool⟩

/-- Ask about a mode. -/
def ask (mode : Mode) : Proc Question Bool := Proc.ask (S := Question) mode

/-- The modes of a list are asked about, and none is accepted. -/
def refused (modes : List Mode) : List (Event Question) := modes.map fun mode => ⟨mode, false⟩

/-- The place that is chosen if no mode is exact: that of the last mode that the display prefers, or
the first one if it prefers none. -/
inductive Fallback (modes : List Mode) : Nat → Prop
  | preferred {index : Nat} {mode : Mode} (listed : modes[index]? = some mode)
      (preferred : mode.isPreferred = true)
      (last : ∀ later other, index < later → modes[later]? = some other →
        other.isPreferred = false) :
      Fallback modes index
  | first (none : ∀ mode ∈ modes, mode.isPreferred = false) : Fallback modes 0

/-- The ways in which a choice can go: the questions with their answers, and the place chosen. -/
inductive Chosen (modes : List Mode) : List (Event Question) → Option Nat → Prop
  /-- From an empty list nothing is chosen, and nothing is asked. -/
  | nothing (empty : modes = []) : Chosen modes [] none
  /-- The modes before this place are refused, and then the one at this place is accepted. -/
  | exact {index : Nat} {mode : Mode} (listed : modes[index]? = some mode) :
      Chosen modes (refused (modes.take index) ++ [⟨mode, true⟩]) (some index)
  /-- Every mode is refused. -/
  | fallback {index : Nat} (listed : modes ≠ []) (falls : Fallback modes index) :
      Chosen modes (refused modes) (some index)

variable {modes : List Mode} {events : List (Event Question)} {index : Nat}

/-- There is one place to fall back on. -/
theorem Fallback.unique {other : Nat} (falls : Fallback modes index)
    (falls' : Fallback modes other) : index = other := by
  -- A preferred mode before the one or the other place is no obstacle, but one behind it is.
  cases falls with
  | preferred listed preferred last =>
    cases falls' with
    | preferred listed' preferred' last' =>
      rcases Nat.lt_trichotomy index other with before | same | behind
      · exact absurd (last _ _ before listed') (by simp [preferred'])
      · exact same
      · exact absurd (last' _ _ behind listed) (by simp [preferred])
    | first none => exact absurd (none _ (List.mem_of_getElem? listed)) (by simp [preferred])
  | first none =>
    cases falls' with
    | preferred listed preferred =>
      exact absurd (none _ (List.mem_of_getElem? listed)) (by simp [preferred])
    | first => rfl

/-- A further mode is fallen back on if the display prefers it. -/
theorem Fallback.snoc (falls : Fallback modes index) (mode : Mode) :
    Fallback (modes ++ [mode]) (if mode.isPreferred then modes.length else index) := by
  by_cases preferred : mode.isPreferred
  · rw [if_pos preferred]
    refine .preferred List.getElem?_concat_length preferred fun later other behind listed => ?_
    -- Nothing stands behind the last place.
    have inside := (List.getElem?_eq_some_iff.mp listed).1
    rw [List.length_append, List.length_singleton] at inside
    omega
  · rw [if_neg preferred]
    have unwanted : mode.isPreferred = false := by simpa using preferred
    cases falls with
    | preferred listed preferred last =>
      have inside := (List.getElem?_eq_some_iff.mp listed).1
      refine .preferred ((List.getElem?_append_left inside).trans listed) preferred ?_
      intro later other behind listed
      rw [List.getElem?_append] at listed
      split at listed
      · exact last later other behind listed
      · obtain rfl := List.mem_singleton.mp (List.mem_of_getElem? listed)
        exact unwanted
    | first none =>
      refine .first fun other member => ?_
      rcases List.mem_append.mp member with member | member
      · exact none other member
      · obtain rfl := List.mem_singleton.mp member
        exact unwanted

/-- A place to fall back on is one of the list. -/
theorem Fallback.lt_length (falls : Fallback modes index) (listed : modes ≠ []) :
    index < modes.length := by
  cases falls with
  | preferred listed => exact (List.getElem?_eq_some_iff.mp listed).1
  | first => exact List.length_pos_iff.mpr listed

/-- The scan of the part of a list that is left asks about its modes up to the first accepted one,
or about all of them. By then it has the place to fall back on in the part that it has seen. -/
theorem run_scanIndexM_iff {seen rest : List Mode} {fallback found : Nat}
    (falls : Fallback seen fallback) :
    (scanIndexM ask fallback seen.length rest).Run events found ↔
      (∃ place mode, rest[place]? = some mode ∧
        events = refused (rest.take place) ++ [⟨mode, true⟩] ∧ found = seen.length + place) ∨
      events = refused rest ∧ Fallback (seen ++ rest) found := by
  induction rest generalizing seen fallback events with
  | nil =>
    rw [scanIndexM, pure_eq, run_done_iff, List.append_nil]
    constructor
    · rintro ⟨rfl, rfl⟩
      exact .inr ⟨rfl, falls⟩
    · rintro (⟨place, mode, listed, -⟩ | ⟨rfl, falls'⟩)
      · simp at listed
      · exact ⟨rfl, falls'.unique falls⟩
  | cons mode rest ih =>
    -- Behind this mode, the scan goes on as one that has seen it too.
    have later := @ih (events.drop 1) (seen ++ [mode]) _ (falls.snoc mode)
    rw [List.length_append, List.length_singleton, List.append_assoc,
      List.singleton_append] at later
    unfold scanIndexM ask
    rw [run_ask_bind_iff]
    constructor
    · rintro ⟨answer, others, rfl, run⟩
      cases answer with
      | true =>
        obtain ⟨rfl, rfl⟩ := run_done_iff.mp run
        exact .inl ⟨0, mode, rfl, rfl, rfl⟩
      | false =>
        rcases later.mp run with ⟨place, other, listed, same, rfl⟩ | ⟨same, falls'⟩
        · refine .inl ⟨place + 1, other, listed, ?_, by omega⟩
          exact congrArg (List.cons _) same
        · exact .inr ⟨congrArg (List.cons _) same, falls'⟩
    · rintro (⟨place, other, listed, rfl, rfl⟩ | ⟨rfl, falls'⟩)
      · cases place with
        | zero =>
          obtain rfl := Option.some.inj listed
          exact ⟨true, [], rfl, .done _⟩
        | succ place =>
          refine ⟨false, _, rfl, later.mpr (.inl ⟨place, other, listed, rfl, by omega⟩)⟩
      · exact ⟨false, _, rfl, later.mpr (.inr ⟨rfl, falls'⟩)⟩

/-- A list that is not empty is scanned from its first place, which is also fallen back on. -/
theorem chooseIndexM_cons {m : Type → Type} [Monad m] (exact : Mode → m Bool) (mode : Mode)
    (rest : List Mode) :
    chooseIndexM exact (mode :: rest) = some <$> scanIndexM exact 0 0 (mode :: rest) :=
  rfl

/-- However the questions are answered, a choice goes in one of these ways, and each of them can be
gone. -/
theorem run_chooseIndexM_iff {result : Option Nat} :
    (chooseIndexM ask modes).Run events result ↔ Chosen modes events result := by
  cases modes with
  | nil =>
    rw [chooseIndexM_nil, pure_eq, run_done_iff]
    constructor
    · rintro ⟨rfl, rfl⟩
      exact .nothing rfl
    · intro chosen
      cases chosen with
      | nothing => exact ⟨rfl, rfl⟩
      | exact listed => simp at listed
      | fallback listed => exact absurd rfl listed
  | cons mode rest =>
    have scanned (found : Nat) :=
      @run_scanIndexM_iff events [] (mode :: rest) 0 found (.first (by simp))
    rw [chooseIndexM_cons, map_eq_pure_bind, run_bind_pure_iff]
    constructor
    · rintro ⟨found, run, rfl⟩
      rcases (scanned found).mp run with ⟨place, other, listed, rfl, rfl⟩ | ⟨rfl, falls⟩
      · rw [List.length_nil, Nat.zero_add]
        exact .exact listed
      · exact .fallback (List.cons_ne_nil mode rest) falls
    · intro chosen
      cases chosen with
      | nothing empty => cases empty
      | exact listed =>
        exact ⟨_, (scanned _).mpr (.inl ⟨_, _, listed, rfl, (Nat.zero_add _).symm⟩), rfl⟩
      | fallback _ falls => exact ⟨_, (scanned _).mpr (.inr ⟨rfl, falls⟩), rfl⟩

section Interpret

variable {m : Type → Type} [Monad m]

/-- Any question with effects is put to the modes as the one is whose answers are left open. -/
theorem interpret_scanIndexM (exact : Mode → m Bool) (record : Entry → m Unit)
    (fallback index : Nat) (modes : List Mode) :
    (scanIndexM ask fallback index modes).interpret exact record =
      scanIndexM exact fallback index modes := by
  induction modes generalizing fallback index with
  | nil => rfl
  | cons mode rest ih =>
    unfold scanIndexM ask Proc.ask
    rw [bind_call, interpret_call]
    refine bind_congr fun answer => ?_
    cases answer with
    | true => rfl
    | false => exact ih _ _

theorem interpret_chooseIndexM [LawfulMonad m] (exact : Mode → m Bool) (record : Entry → m Unit)
    (modes : List Mode) :
    (chooseIndexM ask modes).interpret exact record = chooseIndexM exact modes := by
  cases modes with
  | nil => rfl
  | cons mode rest =>
    rw [chooseIndexM_cons, chooseIndexM_cons, map_eq_pure_bind, interpret_bind,
      interpret_scanIndexM, map_eq_pure_bind]
    rfl

end Interpret

/-- Only from the empty list nothing is chosen. -/
theorem Chosen.eq_none_iff {result : Option Nat} (chosen : Chosen modes events result) :
    result = none ↔ modes = [] := by
  cases chosen with
  | nothing empty => exact iff_of_true rfl empty
  | exact listed =>
    refine iff_of_false nofun ?_
    rintro rfl
    simp at listed
  | fallback listed => exact iff_of_false nofun listed

/-- What is chosen is a place of the list. -/
theorem Chosen.lt_length {result : Option Nat} (chosen : Chosen modes events result) :
    ∀ index ∈ result, index < modes.length := by
  rintro index rfl
  cases chosen with
  | exact listed => exact (List.getElem?_eq_some_iff.mp listed).1
  | fallback listed falls => exact falls.lt_length listed

/-- Whatever state a question keeps, and whatever this makes of its answers: it is put to just the
modes to which a choice puts it, the state goes from each to the next, and what comes of it is the
first accepted mode, or the place to fall back on if none is accepted. -/
theorem chooseIndexM_breaks_ties {σ : Type} (exact : Mode → StateM σ Bool) (modes : List Mode)
    (s : σ) :
    ∃ asked result t, chooseIndexM exact modes s = (result, t) ∧
      (chooseIndexM ask modes).Run asked result ∧
      Follows (fun s question t => exact question.call s = (question.answer, t)) s asked t ∧
      Chosen modes asked result ∧ (result = none ↔ modes = []) ∧
      ∀ index ∈ result, index < modes.length := by
  obtain ⟨asked, run, path⟩ :=
    exists_follows_of_state (S := Question) exact (chooseIndexM ask modes) s
  rw [interpret_chooseIndexM] at run path
  have chosen := run_chooseIndexM_iff.mp run
  exact ⟨asked, _, _, rfl, run, path, chosen, chosen.eq_none_iff, chosen.lt_length⟩

/-- A question that counts how often it is put is not put to the modes behind the exact one. -/
example :
    let counting (mode : Mode) : StateM Nat Bool := do
      modify (· + 1)
      return mode.vrefresh == 60
    chooseIndexM counting [ofSize 640 480 30, ofSize 640 480 60, ofSize 800 600 60] 0 =
      (some 1, 2) :=
  rfl

end Mode

end Modeset
