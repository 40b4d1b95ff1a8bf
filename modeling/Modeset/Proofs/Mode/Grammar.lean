import Mathlib.Data.List.Induction
import Modeset.Mode.Request

/-!
# The grammar of mode requests

What may be typed for a request, laid down as a grammar: a width, an `x` of either case and a
height, and perhaps an `@` with a rate behind them, which may be followed by its unit any number of
times.
Numbers have one optional plus sign and any number of leading zeros, and must fit into their fields.
Reading a request accepts these texts and no others, and reads from each the numbers that it spells.

## Main definitions

* `Decimal.Digits`, `Decimal.Numeral` — the texts that spell a number
* `ModeRequest.SpellsSize`, `ModeRequest.Spells` — the texts that spell a size and a request

## Main results

* `Decimal.unsigned?_eq_some_iff` — a number is read from the numerals that are in bounds
* `ModeRequest.cut?_eq_some_iff`, `ModeRequest.cut?_eq_none_iff` — where a text is cut
* `ModeRequest.dropUnit_units` — of a rate with units, the units are dropped
* `ModeRequest.parse_accepts` — a request is read from the texts that spell it
-/

namespace Modeset

variable {text : List Char} {n bound : Nat}

namespace Decimal

/-- The texts of ASCII digits, at least one, each with the number that it is in base ten. A further
digit moves those before it up by one place. -/
inductive Digits : List Char → Nat → Prop
  | single {digit : Char} (isDigit : digit.isDigit = true) :
      Digits [digit] (digit.toNat - '0'.toNat)
  | snoc {text : List Char} {n : Nat} (digits : Digits text n) {digit : Char}
      (isDigit : digit.isDigit = true) :
      Digits (text ++ [digit]) (10 * n + (digit.toNat - '0'.toNat))

/-- The texts that spell a number: its digits, with or without a plus sign before them. -/
inductive Numeral : List Char → Nat → Prop
  | plain {text : List Char} {n : Nat} (digits : Digits text n) : Numeral text n
  | signed {text : List Char} {n : Nat} (digits : Digits text n) : Numeral ('+' :: text) n

/-- Digits have the value that is computed from the left. -/
theorem digits_iff :
    Digits text n ↔
      text ≠ [] ∧ (∀ c ∈ text, c.isDigit = true) ∧ n = Nat.ofDigitChars 10 text 0 := by
  constructor
  · intro digits
    induction digits with
    | single isDigit => exact ⟨by simp, by simpa using isDigit, by simp [Nat.ofDigitChars_cons]⟩
    | snoc digits isDigit ih =>
      obtain ⟨-, all, rfl⟩ := ih
      refine ⟨by simp, ?_, ?_⟩
      · intro c member
        rcases List.mem_append.mp member with member | member
        · exact all c member
        · obtain rfl := List.mem_singleton.mp member
          exact isDigit
      · simp [Nat.ofDigitChars_append, Nat.ofDigitChars_cons]
  · rintro ⟨nonempty, all, rfl⟩
    -- The value grows at the end of the text, so the induction takes digits from there.
    induction text using List.reverseRecOn with
    | nil => exact absurd rfl nonempty
    | append_singleton text digit ih =>
      have isDigit : digit.isDigit = true := all digit (by simp)
      by_cases first : text = []
      · subst first
        simpa [Nat.ofDigitChars_cons] using Digits.single isDigit
      · have digits := ih first fun c member => all c (List.mem_append_left _ member)
        simpa [Nat.ofDigitChars_append, Nat.ofDigitChars_cons] using digits.snoc isDigit

theorem Digits.isDigit_of_mem (digits : Digits text n) : ∀ c ∈ text, c.isDigit = true :=
  (digits_iff.mp digits).2.1

theorem digits?_eq_some_iff : digits? text = some n ↔ Digits text n := by
  simp only [digits_iff, digits?, ← and_assoc, List.all_eq_true]
  by_cases digits : text ≠ [] ∧ ∀ c ∈ text, c.isDigit = true
  · rw [if_pos digits, Option.some.injEq]
    constructor
    · rintro rfl
      exact ⟨digits, rfl⟩
    · rintro ⟨-, rfl⟩
      rfl
  · rw [if_neg digits]
    exact iff_of_false (by simp) fun all => digits all.1

/-- A plus sign is no digit. -/
theorem Digits.dropPlus_eq (digits : Digits text n) : dropPlus text = text := by
  unfold dropPlus
  split
  · have sign := digits.isDigit_of_mem '+' List.mem_cons_self
    exact absurd sign (by decide)
  · rfl

/-- A number is read from the numerals that are in bounds. -/
theorem unsigned?_eq_some_iff :
    unsigned? bound text = some n ↔ Numeral text n ∧ n ≤ bound := by
  rw [unsigned?, Option.filter_eq_some_iff, digits?_eq_some_iff, decide_eq_true_iff]
  refine and_congr_left fun _ => ⟨fun digits => ?_, fun numeral => ?_⟩
  · unfold dropPlus at digits
    split at digits
    · exact .signed digits
    · exact .plain digits
  · cases numeral with
    | plain digits =>
      rw [digits.dropPlus_eq]
      exact digits
    | signed digits => exact digits

/-- A word is read from the numerals that spell it, if the bound is the largest word. -/
theorem exists_unsigned?_iff {α : Type} {ofNat : Nat → α} {toNat : α → Nat} {word : α}
    (fits : ∀ n ≤ bound, toNat (ofNat n) = n) (same : ∀ word, ofNat (toNat word) = word)
    (largest : ∀ word, toNat word ≤ bound) :
    (∃ n, unsigned? bound text = some n ∧ ofNat n = word) ↔ Numeral text (toNat word) := by
  constructor
  · rintro ⟨n, read, rfl⟩
    obtain ⟨numeral, small⟩ := unsigned?_eq_some_iff.mp read
    rwa [fits n small]
  · intro numeral
    exact ⟨toNat word, unsigned?_eq_some_iff.mpr ⟨numeral, largest word⟩, same word⟩

/-- Numerals consist of digits and a plus sign. -/
theorem Numeral.mem (numeral : Numeral text n) : ∀ c ∈ text, c = '+' ∨ c.isDigit = true := by
  intro c member
  cases numeral with
  | plain digits => exact .inr (digits.isDigit_of_mem c member)
  | signed digits =>
    rcases List.mem_cons.mp member with rfl | member
    · exact .inl rfl
    · exact .inr (digits.isDigit_of_mem c member)

/-- What is neither a digit nor a plus sign does not occur in a numeral. -/
theorem Numeral.ne_of_mem (numeral : Numeral text n) {other : Char} (sign : other ≠ '+')
    (digit : other.isDigit = false) : ∀ c ∈ text, c ≠ other := by
  rintro c member rfl
  rcases numeral.mem c member with same | isDigit
  · exact sign same
  · exact absurd (digit.symm.trans isDigit) nofun

end Decimal

namespace ModeRequest

open Decimal

/-- The unit of a rate, which begins with this letter, so many times. -/
def units (letter : Char) (count : Nat) : List Char :=
  (List.replicate count [letter, 'z']).flatten

/-- The texts that spell a size: its width and its height with an `x` of either case between. -/
inductive SpellsSize : List Char → UInt16 → UInt16 → Prop
  | intro {first second : List Char} {separator : Char} {width height : UInt16}
      (widthSpelled : Numeral first width.toNat) (separates : separator = 'x' ∨ separator = 'X')
      (heightSpelled : Numeral second height.toNat) :
      SpellsSize (first ++ separator :: second) width height

/-- The texts that spell a request: a size alone, or a size and behind an `@` a rate, which any
number of `hz` and then any number of `Hz` may follow. -/
inductive Spells : List Char → ModeRequest → Prop
  | size {text : List Char} {width height : UInt16} (size : SpellsSize text width height) :
      Spells text ⟨width, height, none⟩
  | rated {text rate : List Char} {width height : UInt16} {hz : UInt32}
      (size : SpellsSize text width height) (rateSpelled : Numeral rate hz.toNat)
      (small capital : Nat) :
      Spells (text ++ '@' :: (rate ++ (units 'h' small ++ units 'H' capital)))
        ⟨width, height, some hz⟩

section Cut

variable {isCut : Char → Bool} {before after : List Char}

/-- A text is cut at the first character that is selected. -/
theorem cut?_eq_some_iff :
    cut? isCut text = some (before, after) ↔
      ∃ c, text = before ++ c :: after ∧ isCut c = true ∧ ∀ d ∈ before, isCut d = false := by
  induction text generalizing before with
  | nil => simp [cut?]
  | cons c rest ih =>
    unfold cut?
    cases cuts : isCut c with
    | true =>
      rw [if_pos rfl, Option.some.injEq, Prod.mk.injEq]
      constructor
      · rintro ⟨rfl, rfl⟩
        exact ⟨c, rfl, cuts, by simp⟩
      · rintro ⟨d, same, -, uncut⟩
        -- The cut is at the first character, so nothing can stand before it.
        cases before with
        | nil => exact ⟨rfl, (List.cons.inj same).2⟩
        | cons e before =>
          obtain ⟨rfl, -⟩ := List.cons.inj same
          exact absurd (cuts.symm.trans (uncut c List.mem_cons_self)) nofun
    | false =>
      rw [if_neg (by simp), Option.map_eq_some_iff]
      constructor
      · rintro ⟨⟨first, second⟩, later, same⟩
        obtain ⟨rfl, rfl⟩ := Prod.mk.inj same
        obtain ⟨d, rfl, selected, uncut⟩ := ih.mp later
        exact ⟨d, rfl, selected, List.forall_mem_cons.mpr ⟨cuts, uncut⟩⟩
      · rintro ⟨d, same, selected, uncut⟩
        cases before with
        | nil =>
          obtain ⟨rfl, -⟩ := List.cons.inj same
          exact absurd (cuts.symm.trans selected) nofun
        | cons e before =>
          obtain ⟨rfl, rfl⟩ := List.cons.inj same
          exact ⟨(before, after), ih.mpr ⟨d, rfl, selected, (List.forall_mem_cons.mp uncut).2⟩, rfl⟩

theorem cut?_eq_none_iff : cut? isCut text = none ↔ ∀ c ∈ text, isCut c = false := by
  induction text with
  | nil => simp [cut?]
  | cons c rest ih => cases cuts : isCut c <;> simp [cut?, cuts, ih]

end Cut

section Unit

variable {letter : Char}

theorem units_succ (letter : Char) (count : Nat) :
    units letter (count + 1) = units letter count ++ [letter, 'z'] := by
  simp [units, List.replicate_succ']

/-- Units at the end are dropped, all of one kind. -/
theorem dropUnits_reverse_units (count : Nat) (rest : List Char) :
    dropUnits letter ((units letter count).reverse ++ rest) = dropUnits letter rest := by
  induction count with
  | zero => rfl
  | succ count ih => simpa [units_succ, dropUnits] using ih

/-- What does not end with a unit stays. -/
theorem dropUnits_eq_self (ends : ∀ rest, text ≠ 'z' :: letter :: rest) :
    dropUnits letter text = text := by
  unfold dropUnits
  split
  · split
    · rename_i rest same
      exact absurd (same ▸ rfl) (ends rest)
    · rfl
  · rfl

/-- Nothing but units is dropped. -/
theorem exists_eq_units_append (letter : Char) (text : List Char) :
    ∃ count, text = (units letter count).reverse ++ dropUnits letter text := by
  fun_induction dropUnits letter text with
  | case1 rest ih =>
    obtain ⟨count, same⟩ := ih
    refine ⟨count + 1, ?_⟩
    rw [units_succ, List.reverse_append, List.append_assoc, ← same]
    rfl
  | case2 | case3 => exact ⟨0, rfl⟩

/-- A text is what is left of it without units, and units of the two kinds. -/
theorem exists_eq_dropUnit_append (text : List Char) :
    ∃ small capital, text = dropUnit text ++ (units 'h' small ++ units 'H' capital) := by
  obtain ⟨capital, first⟩ := exists_eq_units_append 'H' text.reverse
  obtain ⟨small, second⟩ := exists_eq_units_append 'h' (dropUnits 'H' text.reverse)
  refine ⟨small, capital, ?_⟩
  rw [second, List.reverse_eq_iff] at first
  simpa [dropUnit] using first

/-- From a numeral with units behind it the units are dropped, the capital ones first. -/
theorem dropUnit_units (numeral : Numeral text n) (small capital : Nat) :
    dropUnit (text ++ (units 'h' small ++ units 'H' capital)) = text := by
  -- A numeral does not end with a unit, and one of the small units is none of the capital ones.
  have bare (letter : Char) (rest : List Char) : text.reverse ≠ 'z' :: letter :: rest := by
    intro same
    have member : 'z' ∈ text := List.mem_reverse.mp (same ▸ List.mem_cons_self)
    exact numeral.ne_of_mem (by decide) (by decide) 'z' member rfl
  have small_kept : dropUnits 'H' ((units 'h' small).reverse ++ text.reverse) =
      (units 'h' small).reverse ++ text.reverse := by
    refine dropUnits_eq_self fun rest => ?_
    cases small with
    | zero => exact bare 'H' rest
    | succ small => simp [units_succ]
  calc dropUnit (text ++ (units 'h' small ++ units 'H' capital))
    _ = (dropUnits 'h' ((units 'h' small).reverse ++ text.reverse)).reverse := by
      simp only [dropUnit, List.reverse_append, List.append_assoc, dropUnits_reverse_units,
        small_kept]
    _ = text := by
      rw [dropUnits_reverse_units, dropUnits_eq_self (bare 'h'), List.reverse_reverse]

end Unit

/-- A length is read from the numerals that spell it. -/
theorem parseLength_eq_ok_iff {wrong : String → ParseError} {length : UInt16} :
    parseLength wrong text = .ok length ↔ Numeral text length.toNat := by
  rw [← exists_unsigned?_iff (fun _ small => UInt16.toNat_ofNat_of_lt' (Nat.lt_succ_of_le small))
    (fun word => UInt16.ofNat_toNat) (fun word => Nat.le_sub_one_of_lt word.toNat_lt_size)]
  unfold parseLength
  cases unsigned? (UInt16.size - 1) text <;> simp

/-- A rate is read from the numerals that spell it, whatever units follow them. -/
theorem parseRefresh_eq_ok_iff {hz : UInt32} :
    parseRefresh text = .ok hz ↔
      ∃ rate small capital, text = rate ++ (units 'h' small ++ units 'H' capital) ∧
        Numeral rate hz.toNat := by
  have read : parseRefresh text = .ok hz ↔ Numeral (dropUnit text) hz.toNat := by
    rw [← exists_unsigned?_iff (fun _ small => UInt32.toNat_ofNat_of_lt' (Nat.lt_succ_of_le small))
      (fun word => UInt32.ofNat_toNat) (fun word => Nat.le_sub_one_of_lt word.toNat_lt_size)]
    unfold parseRefresh
    cases unsigned? (UInt32.size - 1) (dropUnit text) <;> simp
  rw [read]
  constructor
  · intro numeral
    obtain ⟨small, capital, same⟩ := exists_eq_dropUnit_append text
    exact ⟨dropUnit text, small, capital, same, numeral⟩
  · rintro ⟨rate, small, capital, rfl, numeral⟩
    rw [dropUnit_units numeral]
    exact numeral

/-- No text of a size holds an `@`. -/
theorem SpellsSize.ne_of_mem {width height : UInt16} (size : SpellsSize text width height) :
    ∀ c ∈ text, c ≠ '@' := by
  obtain ⟨widthSpelled, separates, heightSpelled⟩ := size
  intro c member
  rcases List.mem_append.mp member with member | member
  · exact widthSpelled.ne_of_mem (by decide) (by decide) c member
  rcases List.mem_cons.mp member with rfl | member
  · rcases separates with rfl | rfl <;> decide
  · exact heightSpelled.ne_of_mem (by decide) (by decide) c member

/-- A width and a height are read from the texts that spell their size: these are cut at the `x`,
and nowhere before it, as a numeral has none. -/
theorem spellsSize_iff {width height : UInt16} (wrong wrong' : String → ParseError) :
    SpellsSize text width height ↔
      ∃ first second, cut? (fun c => c = 'x' ∨ c = 'X') text = some (first, second) ∧
        parseLength wrong first = .ok width ∧ parseLength wrong' second = .ok height := by
  simp only [parseLength_eq_ok_iff, cut?_eq_some_iff]
  constructor
  · rintro ⟨widthSpelled, separates, heightSpelled⟩
    refine ⟨_, _, ⟨_, rfl, by simpa using separates, fun c member => ?_⟩, widthSpelled,
      heightSpelled⟩
    have small : c ≠ 'x' := widthSpelled.ne_of_mem (by decide) (by decide) c member
    have capital : c ≠ 'X' := widthSpelled.ne_of_mem (by decide) (by decide) c member
    simp [small, capital]
  · rintro ⟨first, second, ⟨separator, rfl, separates, -⟩, widthSpelled, heightSpelled⟩
    exact .intro widthSpelled (by simpa using separates) heightSpelled

/-- A step and then another give a result if the first gives something from which the second
gives it. -/
theorem bind_eq_ok_iff {α β : Type} {first : Except ParseError α}
    {second : α → Except ParseError β} {result : β} :
    first >>= second = .ok result ↔ ∃ value, first = .ok value ∧ second value = .ok result := by
  cases first <;> simp [bind, Except.bind]

/-- A size is read from the texts that spell it, and the rate is handed through. -/
theorem parseSize_eq_ok_iff {whole : String} {refresh : Option UInt32} {request : ModeRequest} :
    parseSize whole text refresh = .ok request ↔
      SpellsSize text request.width request.height ∧ request.refresh = refresh := by
  rw [spellsSize_iff .width .height, parseSize]
  cases cut? (fun c => c = 'x' ∨ c = 'X') text with
  | none => simp
  | some parts =>
    obtain ⟨first, second⟩ := parts
    cases request
    simp [bind_eq_ok_iff, pure, Except.pure, and_assoc, eq_comm (a := refresh)]

/-- A request is read from a text that holds its size and no rate, or its size and behind an `@`
its rate. -/
theorem parse_eq_ok_iff {text : String} {request : ModeRequest} :
    parse text = .ok request ↔
      ∃ size, SpellsSize size request.width request.height ∧
        (cut? (· = '@') text.toList = none ∧ size = text.toList ∧ request.refresh = none ∨
          ∃ rate hz, cut? (· = '@') text.toList = some (size, rate) ∧
            parseRefresh rate = .ok hz ∧ request.refresh = some hz) := by
  unfold parse
  cases cut? (· = '@') text.toList with
  | none => simp [parseSize_eq_ok_iff]
  | some parts =>
    obtain ⟨size, rate⟩ := parts
    simp [bind_eq_ok_iff, parseSize_eq_ok_iff, and_left_comm]

/-- A text spells a request if what is cut off behind its first `@`, if anything, is a rate with any
units behind it, and the rest is a size. -/
theorem spells_iff {request : ModeRequest} :
    Spells text request ↔
      ∃ size, SpellsSize size request.width request.height ∧
        (cut? (· = '@') text = none ∧ size = text ∧ request.refresh = none ∨
          ∃ rate hz, cut? (· = '@') text = some (size, rate) ∧
            parseRefresh rate = .ok hz ∧ request.refresh = some hz) := by
  simp only [cut?_eq_none_iff, cut?_eq_some_iff, decide_eq_true_iff, decide_eq_false_iff_not,
    parseRefresh_eq_ok_iff]
  constructor
  · intro spelled
    cases spelled with
    | size size => exact ⟨_, size, .inl ⟨size.ne_of_mem, rfl, rfl⟩⟩
    | rated size rateSpelled small capital =>
      exact ⟨_, size, .inr ⟨_, _, ⟨'@', rfl, rfl, size.ne_of_mem⟩,
        ⟨_, small, capital, rfl, rateSpelled⟩, rfl⟩⟩
  · obtain ⟨width, height, refresh⟩ := request
    rintro ⟨size, sized, ⟨-, rfl, rfl⟩ | ⟨rest, hz, ⟨_, rfl, rfl, -⟩, rated, rfl⟩⟩
    · exact .size sized
    · obtain ⟨rate, small, capital, rfl, rateSpelled⟩ := rated
      exact .rated sized rateSpelled small capital

/-- A request is read from the texts that spell it, and no two are spelled by one text. Every text
that spells none is an error. -/
theorem parse_accepts (text : String) :
    (∀ request, parse text = .ok request ↔ Spells text.toList request) ∧
      ((∃ error, parse text = .error error) ↔ ∀ request, ¬ Spells text.toList request) := by
  have accepted (request : ModeRequest) : parse text = .ok request ↔ Spells text.toList request :=
    parse_eq_ok_iff.trans spells_iff.symm
  refine ⟨accepted, ?_⟩
  simp only [← accepted]
  cases parse text <;> simp

/-- Zeros may lead, and the units come in their order. -/
example : parse "+0640x480@60hzHz" = .ok ⟨640, 480, some 60⟩ := by decide

example : parse "640x480@60Hzhz" = .error (.refresh "60Hzhz") := by decide

end ModeRequest

end Modeset
