import Modeset.Datum
import Modeset.Toml.Quoted

/-!
# Numbers, dates and truth values in TOML

Every value but a text, a list and a table is one word: a run of letters, digits and the signs
`+ - _ . :`, or two such words where a blank separates a date from a time. The word as a whole must
have one of the forms below.

## Main definitions

* `Scalar.integer?`, `Scalar.isReal`, `Scalar.isMoment` — the forms of numbers and dates
* `Scalar.ofWord?` — the value of a word
* `Scalar.read?` — a value at the start of the input, and what follows it
-/

namespace Modeset.Toml.Scalar

/-- A character of a word. -/
def isWordChar (c : Char) : Bool := c.isAlphanum || c ∈ ['+', '-', '_', '.', ':']

/-- Digits with single underscores between them. -/
def isGrouped (isDigit : Char → Bool) : List Char → Bool
  | [] => false
  | [c] => isDigit c
  | c :: '_' :: rest => isDigit c && isGrouped isDigit rest
  | c :: rest => isDigit c && isGrouped isDigit rest

/-- A word without its sign, and whether that is a minus. -/
def sign : List Char → Bool × List Char
  | '-' :: rest => (true, rest)
  | '+' :: rest => (false, rest)
  | word => (false, word)

/-- Grouped digits that do not start with an idle zero. -/
def isWhole (word : List Char) : Bool :=
  word = ['0'] || (word.head? ≠ some '0' && isGrouped Char.isDigit word)

/-- The largest signed number of 64 bits. -/
def maxInteger : Nat := 0x7fffffffffffffff

/-- The value of digits in a base, underscores aside, each digit read in hexadecimal. -/
def valueIn (base : Nat) (digits : List Char) : Nat :=
  digits.foldl (fun n c => ((Quoted.hexDigit? c).map (n * base + ·)).getD n) 0

/-- A number in a base other than ten. -/
def based? (base : Nat) (isDigit : Char → Bool) (digits : List Char) : Option Int :=
  if isGrouped isDigit digits ∧ valueIn base digits ≤ maxInteger then
    some (valueIn base digits)
  else
    none

/-- The signed number of 64 bits that a word spells, in base ten or, without a sign, in base
sixteen, eight or two. -/
def integer? (word : List Char) : Option Int :=
  match word with
  | '0' :: 'x' :: digits => based? 16 (fun c => (Quoted.hexDigit? c).isSome) digits
  | '0' :: 'o' :: digits => based? 8 (fun c => '0' ≤ c && c ≤ '7') digits
  | '0' :: 'b' :: digits => based? 2 (fun c => c = '0' || c = '1') digits
  | word =>
    let (negative, digits) := sign word
    let n := valueIn 10 digits
    if isWhole digits then
      if negative then
        if n ≤ maxInteger + 1 then some (-(n : Int)) else none
      else if n ≤ maxInteger then some n else none
    else
      none

/-- A power of ten with a sign, behind an `e`: its value, if the word is one. -/
def exponent? (word : List Char) : Option Int :=
  match word with
  | c :: rest =>
    let (negative, digits) := sign rest
    if (c = 'e' ∨ c = 'E') ∧ isGrouped Char.isDigit digits then
      let n := valueIn 10 digits
      some (if negative then -(n : Int) else n)
    else
      none
  | [] => none

/-- The least number that is too large for a floating-point number of 64 bits: half a step above the
largest one. -/
def overflowBound : Nat := (Nat.pow 2 54 - 1) * Nat.pow 2 970

/-- Whether `mantissa` times ten to the power `exponent` is too large for a floating-point number.
The number of digits decides all but a few powers. -/
def overflows (mantissa : Nat) (exponent : Int) : Bool :=
  let places := (Nat.toDigits 10 mantissa).length + exponent
  if mantissa = 0 ∨ places < 300 then false
  else if places > 320 then true
  else match exponent with
    | .ofNat e => overflowBound ≤ mantissa * Nat.pow 10 e
    | .negSucc e => overflowBound * Nat.pow 10 (e + 1) ≤ mantissa

/-- Whether a word is a number with a fraction or an exponent, or one of the special ones. -/
def isReal (word : List Char) : Bool :=
  let (negative, body) := sign word
  if body = "inf".toList ∨ body = "nan".toList then true
  else
    let isPlace := fun c : Char => c.isDigit || c = '_'
    let whole := body.takeWhile isPlace
    let rest := body.dropWhile isPlace
    let fits := fun (fraction : List Char) (exponent : Int) =>
      let places := (fraction.filter Char.isDigit).length
      negative || !overflows (valueIn 10 (whole ++ fraction)) (exponent - places)
    isWhole whole &&
      match rest with
      | '.' :: rest =>
        let fraction := rest.takeWhile isPlace
        let rest := rest.dropWhile isPlace
        isGrouped Char.isDigit fraction &&
          (if rest = [] then fits fraction 0 else (exponent? rest).any (fits fraction))
      | rest => (exponent? rest).any (fits [])

/-- The number of exactly two digits. -/
def twoDigits? : List Char → Option Nat
  | [a, b] => Decimal.digits? [a, b]
  | _ => none

/-- How many days a month has. -/
def daysIn (year month : Nat) : Nat :=
  if month = 2 then
    if year % 4 = 0 ∧ (year % 100 ≠ 0 ∨ year % 400 = 0) then 29 else 28
  else if month = 4 ∨ month = 6 ∨ month = 9 ∨ month = 11 then 30
  else 31

/-- Whether ten characters are a date. -/
def isDate : List Char → Bool
  | [a, b, c, d, '-', e, f, '-', g, h] =>
    match Decimal.digits? [a, b, c, d], twoDigits? [e, f], twoDigits? [g, h] with
    | some year, some month, some day =>
      1 ≤ month && month ≤ 12 && 1 ≤ day && day ≤ daysIn year month
    | _, _, _ => false
  | _ => false

/-- Whether two digits are a number up to `bound`. -/
def isUpTo (bound : Nat) (a b : Char) : Bool := (twoDigits? [a, b]).any (· ≤ bound)

/-- What stands behind a time of day: nothing, `Z`, or a distance in hours and minutes. -/
def isOffset : List Char → Bool
  | [] => true
  | [c] => c = 'Z' || c = 'z'
  | [s, a, b, ':', c, d] => (s = '+' || s = '-') && isUpTo 23 a b && isUpTo 59 c d
  | _ => false

/-- Whether a word is a time of day, with an offset behind it if `zoned`. -/
def isTime (zoned : Bool) : List Char → Bool
  | a :: b :: ':' :: c :: d :: ':' :: e :: f :: rest =>
    isUpTo 23 a b && isUpTo 59 c d && isUpTo 60 e f &&
      let behind := fun rest : List Char => if zoned then isOffset rest else rest.isEmpty
      match rest with
      | '.' :: rest =>
        rest.head?.any Char.isDigit && behind (rest.dropWhile Char.isDigit)
      | rest => behind rest
  | _ => false

/-- Whether a word is a date, a time of day, or both with a `T` between them. -/
def isMoment (word : List Char) : Bool :=
  isDate word || isTime false word ||
    (isDate (word.take 10) &&
      match word.drop 10 with
      | c :: time => (c = 'T' || c = 't') && isTime true time
      | [] => false)

/-- The value of a word. -/
def ofWord? (word : List Char) : Option Datum :=
  if word = "true".toList then some (.boolean true)
  else if word = "false".toList then some (.boolean false)
  else match integer? word with
    | some n => some (.integer n)
    | none =>
      if isReal word then some (.real (String.ofList word))
      else if isMoment word then some (.moment (String.ofList word))
      else none

/-- A value of one word, or a date and a time with a blank between them, at the start of the input,
and what follows it. -/
def read? (input : List Char) : Option (Datum × List Char) :=
  let word := input.takeWhile isWordChar
  let rest := input.dropWhile isWordChar
  match rest with
  | ' ' :: d :: more =>
    if isDate word ∧ d.isDigit then
      let time := (d :: more).takeWhile isWordChar
      if isTime true time then
        some (.moment (String.ofList (word ++ ' ' :: time)), (d :: more).dropWhile isWordChar)
      else
        none
    else
      (ofWord? word).map (·, rest)
  | rest => (ofWord? word).map (·, rest)

end Modeset.Toml.Scalar
