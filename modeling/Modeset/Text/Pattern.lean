import Modeset.Text.Pattern.Group
import Modeset.Text.Pattern.Set

/-!
# Patterns

Which texts are patterns, that is regular expressions: alternatives of sequences of characters, sets
in square brackets, edges and groups in round brackets, each of which but an empty place can be
repeated. They may be only so deep. Classes that need tables of all characters are not known here:
there are no word characters, decimal digits or blanks, no properties and no letters in both cases,
unless a group is read by bytes. A group that is read by bytes may not stand for broken characters.
Nothing is known in braces either, so an opening brace is refused outside of a set. Edges of words
are read, but they are found only in bytes: a pattern with one that looks at characters is well
formed and of no use.

## Main definitions

* `Text.Pattern.Reading` — where the reading of a pattern stands
* `Text.Pattern.readRest` — read the rest of a pattern
* `Text.Pattern.Verdict`, `Text.Pattern.verdict` — whether a text is a pattern, and one of use
-/

namespace Modeset.Text.Pattern

/-- What has been read of a group, or of the pattern outside of all groups. -/
structure Level where
  style : Style := {}
  /-- The alternatives before the one that is being read. -/
  choices : Row := {}
  /-- The parts of the alternative that is being read. -/
  parts : Row := {}
  deriving DecidableEq, Repr

/-- How deep a level is that ends here. -/
def Level.depth (level : Level) : Nat := (level.choices.add level.parts.depth).depth

/-- Where the reading of a pattern stands. -/
structure Reading extends Level where
  /-- The levels around this one, nearest first. -/
  outer : List Level := []
  /-- How deep that is which can be repeated, if the last part can. -/
  operand : Option Nat := none
  /-- The names of groups so far. -/
  names : List (List Char) := []
  /-- Whether an edge of a word of characters has been read. -/
  wordEdge : Bool := false
  deriving DecidableEq, Repr

namespace Reading

/-- The reading behind a part of the given depth. -/
def past (reading : Reading) (depth : Nat) : Reading :=
  { reading with parts := reading.parts.add depth, operand := some depth }

/-- The reading behind a sign that repeats the last part. -/
def again (reading : Reading) : Option Reading :=
  reading.operand.map fun depth =>
    { reading with parts := reading.parts.deepen (depth + 1), operand := some (depth + 1) }

/-- The reading behind the end of an alternative. -/
def next (reading : Reading) : Reading :=
  { reading with
    choices := reading.choices.add reading.parts.depth, parts := {}, operand := none }

/-- The reading behind an opening bracket, unless its name is taken. -/
def enter (reading : Reading) : Opening → Option Reading
  | .flags style => some { reading with style, parts := reading.parts.add 0, operand := none }
  | .group style name =>
    if name.any reading.names.contains then none
    else
      some {
        style
        outer := reading.toLevel :: reading.outer
        names := name.toList ++ reading.names
        wordEdge := reading.wordEdge }

/-- The reading behind a closing bracket, if there is a group to close. -/
def leave (reading : Reading) : Option Reading :=
  match reading.outer with
  | [] => none
  | level :: outer =>
    some ({ reading with toLevel := level, outer }.past (reading.depth + 1))

/-- Whether a pattern may end here. -/
def canEnd (reading : Reading) : Bool := reading.outer.isEmpty && reading.depth ≤ maxDepth

end Reading

/-- Read the rest of a pattern, if it is well formed. -/
def readRest : Nat → Reading → List Char → Option Reading
  | 0, _, _ => none
  | fuel + 1, reading, text =>
    let style := reading.style
    match style.skip text with
    | [] => if reading.canEnd then some reading else none
    | '(' :: rest => do
      let (opening, rest) ← readGroup style rest
      readRest fuel (← reading.enter opening) rest
    | ')' :: rest => do readRest fuel (← reading.leave) rest
    | '|' :: rest => readRest fuel reading.next rest
    | '[' :: rest => do
      let (set, rest) := openSet style rest
      let (depth, rest) ← readSets style fuel set [] rest
      readRest fuel (reading.past depth) rest
    | '?' :: rest | '*' :: rest | '+' :: rest => do
      readRest fuel (← reading.again) (if rest.head? = some '?' then rest.drop 1 else rest)
    | '\x7b' :: _ => none
    | '\\' :: rest =>
      match readEscape style rest with
      | none => none
      | some (.char _, rest) =>
        if style.allowsChar then readRest fuel (reading.past 0) rest else none
      | some (.wordEdge, rest) => readRest fuel { reading.past 0 with wordEdge := true } rest
      | some (_, rest) => readRest fuel (reading.past 0) rest
    | '^' :: rest | '$' :: rest => readRest fuel (reading.past 0) rest
    | '.' :: rest => if style.characters then readRest fuel (reading.past 0) rest else none
    | _ :: rest => if style.allowsChar then readRest fuel (reading.past 0) rest else none

/-- What can be said about a text as a pattern. -/
inductive Verdict
  /-- It is a pattern that can be looked for. -/
  | sound
  /-- It is a pattern, but it has an edge of a word of characters. -/
  | wordEdge
  /-- It is no pattern. -/
  | malformed
  deriving DecidableEq, Repr

/-- Whether a text is a pattern, and one of use. -/
def verdict (text : List Char) : Verdict :=
  match readRest (text.length + 1) {} text with
  | none => .malformed
  | some reading => if reading.wordEdge then .wordEdge else .sound

end Modeset.Text.Pattern
