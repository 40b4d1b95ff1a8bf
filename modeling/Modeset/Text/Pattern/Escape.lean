import Modeset.Text.Pattern.Style

/-!
# Escapes in patterns

What a backslash and the characters behind it stand for.

## Main definitions

* `Text.Pattern.Sign` — what an escape stands for
* `Text.Pattern.readEscape` — read one behind its backslash
-/

namespace Modeset.Text.Pattern

/-- What an escape stands for. -/
inductive Sign
  | char (c : Char)
  /-- One of a class of bytes. -/
  | shorthand
  /-- A place between characters. -/
  | edge
  /-- An edge of a word of characters. -/
  | wordEdge
  deriving DecidableEq, Repr

/-- The value of a hexadecimal digit. -/
def hexValue? (c : Char) : Option Nat :=
  if c.isDigit then some (c.toNat - '0'.toNat)
  else if 'a' ≤ c && c ≤ 'f' then some (c.toNat - 'a'.toNat + 10)
  else if 'A' ≤ c && c ≤ 'F' then some (c.toNat - 'A'.toNat + 10)
  else none

/-- Read so many hexadecimal digits behind a number. -/
def readHex (style : Style) : Nat → Nat → List Char → Option (Nat × List Char)
  | 0, value, text => some (value, text)
  | count + 1, value, text =>
    match style.skip text with
    | [] => none
    | c :: rest => do readHex style count (value * 16 + (← hexValue? c)) rest

/-- The number of hexadecimal digits behind a letter that announces them. -/
def hexDigits? : Char → Option Nat
  | 'x' => some 2
  | 'u' => some 4
  | 'U' => some 8
  | _ => none

/-- The control characters that have a letter. -/
def controls : List (Char × Char) :=
  [('a', '\x07'), ('f', '\x0c'), ('n', '\n'), ('r', '\r'), ('t', '\t'), ('v', '\x0b')]

/-- What a letter behind a backslash stands for, if it needs nothing more. Classes are known only
for bytes, and of them those that hold no broken characters. -/
def letterSign? (style : Style) (c : Char) : Option Sign :=
  if ['A', 'z'].contains c then some .edge
  else if ['b', 'B', '<', '>'].contains c then some (if style.characters then .wordEdge else .edge)
  else if ['d', 's', 'w'].contains c then if style.characters then none else some .shorthand
  else (controls.lookup c).map .char

/-- Read what follows a backslash. Every ASCII character that is no letter or digit stands for
itself, but for the angle brackets. -/
def readEscape (style : Style) : List Char → Option (Sign × List Char)
  | [] => none
  | c :: rest =>
    match hexDigits? c with
    | some count => do
      let (value, rest) ← readHex style count 0 rest
      if !value.isValidChar || (count = 2 && !style.characters && 0x80 ≤ value) then none
      else some (.char (.ofNat value), style.skip rest)
    | none =>
      if c.toNat < 0x80 && !c.isAlphanum && c ≠ '<' && c ≠ '>' then some (.char c, rest)
      else (letterSign? style c).map (·, rest)

end Modeset.Text.Pattern
