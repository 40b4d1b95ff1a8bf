/-!
# Decimal numbers

Unsigned numbers as they are typed: one optional plus sign, then digits, at least one, in any number
and with any leading zeros, up to a bound. Real numbers have either sign or none, a point anywhere
among their digits and a power of ten behind them, or they are named.

## Main definitions

* `Decimal.digits?` — the value of a non-empty run of digits
* `Decimal.unsigned?` — the same behind an optional plus sign and under a bound
* `Decimal.isReal` — whether a text is a real number

## Main results

* `Decimal.digits?_repr` — the digits that are printed for a number read back as that number
-/

namespace Modeset.Decimal

/-- The value of a non-empty run of ASCII digits. -/
def digits? (text : List Char) : Option Nat :=
  if text ≠ [] ∧ text.all Char.isDigit then some (Nat.ofDigitChars 10 text 0) else none

/-- The text behind one optional plus sign. -/
def dropPlus : List Char → List Char
  | '+' :: rest => rest
  | text => text

/-- An unsigned number that is at most `bound`. -/
def unsigned? (bound : Nat) (text : List Char) : Option Nat :=
  (digits? (dropPlus text)).filter (· ≤ bound)

/-- The text behind one optional sign. -/
def dropSign : List Char → List Char
  | '+' :: rest | '-' :: rest => rest
  | text => text

/-- The names of what is no finite number, in small letters. -/
def nonFinite : List String := ["inf", "infinity", "nan"]

/-- The text behind one optional point and the digits that follow it, and whether there are any. -/
def dropFraction : List Char → Bool × List Char
  | '.' :: rest => (rest.head?.any Char.isDigit, rest.dropWhile Char.isDigit)
  | text => (false, text)

/-- Whether a text is nothing or the letter E and a whole number with or without a sign. -/
def isExponent : List Char → Bool
  | [] => true
  | 'e' :: rest | 'E' :: rest => (digits? (dropSign rest)).isSome
  | _ => false

/-- Whether a text is a real number. There is a digit before or behind the point. -/
def isReal (text : List Char) : Bool :=
  let unsigned := dropSign text
  let (fraction, rest) := dropFraction (unsigned.dropWhile Char.isDigit)
  nonFinite.contains (String.ofList (unsigned.map Char.toLower)) ||
    ((unsigned.head?.any Char.isDigit || fraction) && isExponent rest)

theorem digits?_repr (n : Nat) : digits? n.repr.toList = some n := by
  have digits : ∀ c ∈ Nat.toDigits 10 n, c.isDigit = true := fun c hc =>
    Nat.isDigit_of_mem_toDigits (by decide) (by decide) hc
  have all : (Nat.toDigits 10 n).all Char.isDigit = true := List.all_eq_true.2 digits
  rw [Nat.toList_repr, digits?, if_pos ⟨Nat.toDigits_ne_nil, all⟩,
    Nat.ofDigitChars_toDigits (by decide) (by decide)]

end Modeset.Decimal
