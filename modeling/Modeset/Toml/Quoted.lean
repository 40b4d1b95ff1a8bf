import Modeset.Text.Decimal
import Modeset.Text.Layout

/-!
# Quoted text in TOML

TOML has four forms of text: between double quotes with escapes or between single quotes as it is,
each on one line or, between three quotes, over several. This file reads all four and writes a text
in the plainest form that holds it.

## Main definitions

* `Quoted.read?` — a quoted text at the start of the input, and what follows it
* `Form` — the four forms, with `Form.ofText`, the one in which a text is written
* `Quoted.write` — a text in that form
-/

namespace Modeset.Toml

/-- A blank inside a line. -/
def isBlank (c : Char) : Bool := c = ' ' ∨ c = '\t'

/-- The input without the blanks it starts with. -/
def skipBlanks (input : List Char) : List Char := input.dropWhile isBlank

/-- A character that a file may hold besides line ends: no control character but the tab. -/
def isPlain (c : Char) : Bool := c = '\t' ∨ (' ' ≤ c ∧ c ≠ '\x7f')

/-- Whether the input starts with a line end. -/
def startsLine : List Char → Bool
  | '\n' :: _ => true
  | '\r' :: '\n' :: _ => true
  | _ => false

namespace Quoted

/-- The character that a backslash and a letter stand for. -/
def shortEscape? (c : Char) : Option Char :=
  match c with
  | 'b' => some '\x08'
  | 't' => some '\t'
  | 'n' => some '\n'
  | 'f' => some '\x0c'
  | 'r' => some '\r'
  | '"' => some '"'
  | '\\' => some '\\'
  | _ => none

/-- The value of a hexadecimal digit. -/
def hexDigit? (c : Char) : Option Nat :=
  if c.isDigit then some (c.toNat - '0'.toNat)
  else if 'a' ≤ c ∧ c ≤ 'f' then some (c.toNat - 'a'.toNat + 10)
  else if 'A' ≤ c ∧ c ≤ 'F' then some (c.toNat - 'A'.toNat + 10)
  else none

/-- The character whose number is given in hexadecimal, if there is such a character. -/
def scalar? (digits : List Char) : Option Char := do
  let values ← digits.mapM hexDigit?
  let n := values.foldl (fun n d => n * 16 + d) 0
  if n.isValidChar then some (Char.ofNat n) else none

/-- A text with `c` in front, and what follows it in the input. -/
def push (c : Char) (read : Option (List Char × List Char)) : Option (List Char × List Char) :=
  read.map fun (text, rest) => (c :: text, rest)

/-- What ends at a quote: the quotes that still belong to the text, and what follows the closing
ones. Over several lines three quotes close a text, and up to two may stand directly before them. -/
def closed? (lines : Bool) (quote : Char) (rest : List Char) : Option (List Char × List Char) :=
  if lines then
    match (rest.takeWhile (· = quote)).length with
    | 0 | 1 => none
    | 2 => some ([], rest.drop 2)
    | 3 => some ([quote], rest.drop 3)
    | _ => some ([quote, quote], rest.drop 4)
  else
    some ([], rest)

/-- The text up to the closing double quotes, and what follows them. Over several lines a backslash
at the end of a line hides the line end and all blanks and line ends after it; `folding` says that
these are being passed over. -/
def escaped (lines folding : Bool) : List Char → Option (List Char × List Char)
  | [] => none
  | '"' :: rest =>
    match closed? lines '"' rest with
    | some closed => some closed
    | none => push '"' (escaped lines false rest)
  | '\\' :: rest =>
    if lines ∧ startsLine (skipBlanks rest) then escaped lines true rest
    else match rest with
      | 'u' :: a :: b :: c :: d :: rest =>
        (scalar? [a, b, c, d]).bind fun ch => push ch (escaped lines false rest)
      | 'U' :: a :: b :: c :: d :: e :: f :: g :: h :: rest =>
        (scalar? [a, b, c, d, e, f, g, h]).bind fun ch => push ch (escaped lines false rest)
      | c :: rest => (shortEscape? c).bind fun ch => push ch (escaped lines false rest)
      | [] => none
  | '\r' :: '\n' :: rest =>
    if folding then escaped lines true rest
    else if lines then push '\n' (escaped lines false rest) else none
  | '\n' :: rest =>
    if folding then escaped lines true rest
    else if lines then push '\n' (escaped lines false rest) else none
  | c :: rest =>
    if folding ∧ isBlank c then escaped lines true rest
    else if isPlain c then push c (escaped lines false rest) else none

/-- The text up to the closing single quotes, taken as it is, and what follows them. -/
def verbatim (lines : Bool) : List Char → Option (List Char × List Char)
  | [] => none
  | '\'' :: rest =>
    match closed? lines '\'' rest with
    | some closed => some closed
    | none => push '\'' (verbatim lines rest)
  | '\r' :: '\n' :: rest => if lines then push '\n' (verbatim lines rest) else none
  | '\n' :: rest => if lines then push '\n' (verbatim lines rest) else none
  | c :: rest => if isPlain c then push c (verbatim lines rest) else none

/-- The input without a line end directly behind three opening quotes. -/
def dropLineEnd : List Char → List Char
  | '\n' :: rest => rest
  | '\r' :: '\n' :: rest => rest
  | input => input

/-- A quoted text of one line, as it may also stand for a key. -/
def readLine? : List Char → Option (List Char × List Char)
  | '"' :: rest => escaped false false rest
  | '\'' :: rest => verbatim false rest
  | _ => none

/-- A quoted text in any of the four forms. -/
def read? : List Char → Option (List Char × List Char)
  | '"' :: '"' :: '"' :: rest => escaped true false (dropLineEnd rest)
  | '\'' :: '\'' :: '\'' :: rest => verbatim true (dropLineEnd rest)
  | input => readLine? input

end Quoted

/-- The four forms of text. -/
inductive Form | basic | literal | linesBasic | linesLiteral
  deriving DecidableEq, Repr

/-- The length of the longest run of a character in a text; `run` is how long the present one is. -/
def longestRun (c : Char) (run : Nat) : List Char → Nat
  | [] => run
  | d :: rest => if d = c then longestRun c (run + 1) rest else max run (longestRun c 0 rest)

/-- A character that only an escape can give. -/
def needsEscape (c : Char) : Bool := ¬ isPlain c ∧ c ≠ '\n'

namespace Form

/-- The form in which a text is written: the first one that needs no escape, of plain double quotes,
plain single quotes, three double quotes and three single quotes, or else double quotes with
escapes. -/
def ofText (text : List Char) : Form :=
  let escape := text.any needsEscape
  let backslash := text.any (· = '\\')
  let newline := text.any (· = '\n')
  let doubles := longestRun '"' 0 text
  let singles := longestRun '\'' 0 text
  if ¬ escape ∧ ¬ backslash ∧ doubles = 0 ∧ ¬ newline then basic
  else if ¬ escape ∧ singles = 0 ∧ ¬ newline then literal
  else if ¬ escape ∧ ¬ backslash ∧ doubles ≤ 2 then linesBasic
  else if ¬ escape ∧ singles ≤ 2 then linesLiteral
  else if newline then linesBasic else basic

/-- Whether a form runs over several lines. -/
def hasLines : Form → Bool
  | basic | literal => false
  | linesBasic | linesLiteral => true

/-- Whether a form has escapes. -/
def hasEscapes : Form → Bool
  | basic | linesBasic => true
  | literal | linesLiteral => false

/-- The quotes around a form. -/
def delimiter : Form → List Char
  | basic => ['"']
  | literal => ['\'']
  | linesBasic => ['"', '"', '"']
  | linesLiteral => ['\'', '\'', '\'']

end Form

namespace Quoted

/-- A text with escapes. Over several lines two double quotes in a row may stand as they are, else
none; `run` counts those that have since the last escape. -/
def escape (lines : Bool) (run : Nat) : List Char → List Char
  | [] => []
  | c :: rest =>
    if c = '"' then
      if run < (if lines then 2 else 0) then '"' :: escape lines (run + 1) rest
      else '\\' :: '"' :: escape lines 0 rest
    else if c = '\\' then '\\' :: '\\' :: escape lines 0 rest
    else if c = '\n' then
      if lines then '\n' :: escape lines 0 rest else '\\' :: 'n' :: escape lines 0 rest
    else if c = '\x08' then '\\' :: 'b' :: escape lines 0 rest
    else if c = '\t' then '\\' :: 't' :: escape lines 0 rest
    else if c = '\x0c' then '\\' :: 'f' :: escape lines 0 rest
    else if c = '\r' then '\\' :: 'r' :: escape lines 0 rest
    else if c < ' ' ∨ c = '\x7f' then
      '\\' :: 'u' :: ((Layout.hexUpper 4 c.toNat).toList ++ escape lines 0 rest)
    else c :: escape lines 0 rest

/-- A text in quotes. One of several lines starts on a line of its own if it has a line end. -/
def write (text : List Char) : List Char :=
  let form := Form.ofText text
  let start := if form.hasLines ∧ '\n' ∈ text then ['\n'] else []
  let body := if form.hasEscapes then escape form.hasLines 0 text else text
  form.delimiter ++ start ++ body ++ form.delimiter

end Quoted

end Modeset.Toml
