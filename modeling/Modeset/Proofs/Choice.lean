import Modeset.Mode.Choice

/-!
# Which mode is chosen

The choice of a mode is made in one pass over the list, which remembers the place of the last
preferred mode as it goes. Said without places: the first mode that is exact is chosen; if none is,
the last one that the display prefers; and if it prefers none, the first one of the list.

## Main definitions

* `Mode.favourite?` — the mode that the display would like best

## Main results

* `Mode.choose?_eq` — the first exact mode is chosen, or else the favourite
* `Mode.choose?_eq_some_iff`, `Mode.choose?_eq_none_iff` — which mode is chosen, and when none is
* `Mode.exists_choose?` — from a list that is not empty, some mode is chosen
-/

namespace Modeset.Mode

variable {exact : Mode → Bool} {modes : List Mode}

/-- The last mode of a list that the display prefers, or else the first mode of the list. -/
def favourite? (modes : List Mode) : Option Mode :=
  (modes.reverse.find? isPreferred).or modes.head?

/-- The scan of the part of a list that starts at a place finds the first exact mode of this part,
or else its last preferred mode, or else what it was told to fall back on. -/
theorem getElem?_scanIndexM {whole : List Mode} {fallback index : Nat}
    (part : whole.drop index = modes) :
    whole[Id.run (scanIndexM (fun mode => pure (exact mode)) fallback index modes)]? =
      (modes.find? exact).or ((modes.reverse.find? isPreferred).or whole[fallback]?) := by
  induction modes generalizing fallback index with
  | nil => rfl
  | cons mode rest ih =>
    have here : whole[index]? = some mode := by
      rw [← List.head?_drop, part, List.head?_cons]
    have next : whole.drop (index + 1) = rest := by
      rw [← List.drop_drop, part, List.drop_one, List.tail_cons]
    by_cases first : exact mode
    · simp [scanIndexM, first, here]
    · -- What is fallen back on is replaced by this mode if the display prefers it.
      have later := @ih (if mode.isPreferred then index else fallback) _ next
      by_cases preferred : mode.isPreferred <;> simp_all [scanIndexM, List.find?_append]

/-- The first exact mode is chosen, or else the favourite. -/
theorem choose?_eq : choose? exact modes = (modes.find? exact).or (favourite? modes) := by
  cases modes with
  | nil => rfl
  | cons mode rest =>
    exact @getElem?_scanIndexM exact _ (mode :: rest) 0 0 rfl

/-- From a list that is not empty, some mode is chosen. -/
theorem exists_choose? (listed : modes ≠ []) : ∃ mode ∈ modes, choose? exact modes = some mode := by
  cases choice : choose? exact modes with
  | some mode => exact ⟨mode, mem_of_choose? choice, rfl⟩
  | none =>
    rw [choose?_eq, Option.or_eq_none_iff, favourite?, Option.or_eq_none_iff] at choice
    exact absurd (List.head?_eq_none_iff.mp choice.2.2) listed

/-- What is chosen is the first exact mode, unless no mode is exact. -/
theorem choose?_eq_some_iff {chosen : Mode} :
    choose? exact modes = some chosen ↔ modes.find? exact = some chosen ∨
      (∀ mode ∈ modes, exact mode = false) ∧ favourite? modes = some chosen := by
  rw [choose?_eq, Option.or_eq_some_iff, List.find?_eq_none]
  simp only [Bool.not_eq_true]

/-- Only from the empty list nothing is chosen. -/
theorem choose?_eq_none_iff : choose? exact modes = none ↔ modes = [] := by
  cases modes with
  | nil => exact ⟨fun _ => rfl, fun _ => rfl⟩
  | cons mode rest =>
    obtain ⟨chosen, -, choice⟩ := @exists_choose? exact _ (List.cons_ne_nil mode rest)
    simp [choice]

/-- If no mode is exact, the favourite is chosen. -/
theorem choose?_eq_favourite? (none_exact : ∀ mode ∈ modes, exact mode = false) :
    choose? exact modes = favourite? modes := by
  have missed : modes.find? exact = none := by simpa [List.find?_eq_none] using none_exact
  rw [choose?_eq, missed, Option.none_or]

end Modeset.Mode
