import Modeset.Mode

/-!
# Choosing a mode

A connector lists its modes in the order the display gives them. The first one that is exactly what
was asked for is taken; failing that, the last one that the display prefers; failing that, the
first. The question whether a mode is exact may have effects, so it is put to each mode at most
once, in order, and no further than the first yes.

## Main definitions

* `Mode.chooseIndexM` — the place of the chosen mode, for a question with effects
* `Mode.choose?` — the chosen mode, for a plain question

## Main results

* `Mode.chooseIndexM_nil` — nothing is chosen from an empty list, and nothing is asked
* `Mode.mem_of_choose?` — what is chosen is in the list
-/

namespace Modeset.Mode

section

variable {m : Type → Type} [Monad m]

/-- The place of the first exact mode of the list, which starts at place `index`, or else that of
its last preferred mode, or else `fallback`. -/
def scanIndexM (exact : Mode → m Bool) (fallback index : Nat) : List Mode → m Nat
  | [] => pure fallback
  | mode :: rest => do
    let fallback := if mode.isPreferred then index else fallback
    if ← exact mode then
      pure index
    else
      scanIndexM exact fallback (index + 1) rest

/-- The place of the mode to use, unless there is none. -/
def chooseIndexM (exact : Mode → m Bool) : List Mode → m (Option Nat)
  | [] => pure none
  | modes => some <$> scanIndexM exact 0 0 modes

@[simp] theorem chooseIndexM_nil (exact : Mode → m Bool) :
    chooseIndexM exact [] = pure none := rfl

end

/-- The place of the mode to use, for a question without effects. -/
def chooseIndex (exact : Mode → Bool) (modes : List Mode) : Option Nat :=
  Id.run (chooseIndexM (fun mode => pure (exact mode)) modes)

/-- The mode to use, unless there is none. -/
def choose? (exact : Mode → Bool) (modes : List Mode) : Option Mode :=
  (chooseIndex exact modes).bind fun index => modes[index]?

theorem mem_of_choose? {exact : Mode → Bool} {modes : List Mode} {mode : Mode}
    (choice : choose? exact modes = some mode) : mode ∈ modes := by
  obtain ⟨index, -, found⟩ := Option.bind_eq_some_iff.mp choice
  exact List.mem_of_getElem? found

end Modeset.Mode
