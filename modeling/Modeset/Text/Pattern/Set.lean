import Modeset.Text.Pattern.Escape
import Modeset.Text.Pattern.Row

/-!
# Sets in patterns

A set in square brackets holds characters, ranges, classes and other sets. Two sets are combined by
the operators `&&`, `--` and `~~`, all of which bind to the left.

## Main definitions

* `Text.Pattern.OpenSet` — a set that is being read
* `Text.Pattern.readSets` — read a set, and the sets in it
-/

namespace Modeset.Text.Pattern

/-- A set that is being read. -/
structure OpenSet where
  negated : Bool
  /-- What has been read since the last operator. -/
  row : Row := {}
  /-- How deep that is which stands before the last operator. -/
  before : Option Nat := none
  /-- Whether nothing but hyphens has been read. -/
  fresh : Bool := true
  deriving DecidableEq, Repr

namespace OpenSet

/-- The set with one more member of the given depth. -/
def add (set : OpenSet) (depth : Nat) : OpenSet :=
  { set with row := set.row.add depth, fresh := false }

/-- The set behind one of the hyphens that it begins with. -/
def addHyphen (set : OpenSet) : OpenSet := { set with row := set.row.add 0 }

/-- How deep the set is without its brackets. -/
def depth (set : OpenSet) : Nat :=
  match set.before with
  | none => set.row.depth
  | some before => max before set.row.depth + 1

/-- The set behind an operator. -/
def operate (set : OpenSet) : OpenSet :=
  { set with row := {}, before := some set.depth, fresh := false }

end OpenSet

/-- Whether a set, or a class of it, may be made of all characters but some. Read by bytes it would
hold broken characters. -/
def allowsNegation (style : Style) (negated : Bool) : Bool := style.characters || !negated

/-- Read what follows an opening bracket: perhaps a sign of negation. -/
def openSet (style : Style) (text : List Char) : OpenSet × List Char :=
  match style.skip text with
  | '^' :: rest => ({ negated := true }, rest)
  | rest => ({ negated := false }, rest)

/-- The names of the classes of ASCII characters. -/
def asciiClasses : List String :=
  ["alnum", "alpha", "ascii", "blank", "cntrl", "digit", "graph", "lower", "print",
   "punct", "space", "upper", "word", "xdigit"]

/-- Read what follows an opening bracket as a named class, if it is one: whether it is negated, and
the rest. -/
def readNamed? : List Char → Option (Bool × List Char)
  | ':' :: text =>
    let (negated, text) :=
      match text with
      | '^' :: rest => (true, rest)
      | rest => (false, rest)
    let name := text.takeWhile (· ≠ ':')
    match text.drop name.length with
    | ':' :: ']' :: rest =>
      if asciiClasses.contains (String.ofList name) then some (negated, rest) else none
    | _ => none
  | _ => none

/-- Read one character or class of a set. -/
def readMember (style : Style) : List Char → Option (Sign × List Char)
  | [] => none
  | '\\' :: rest => readEscape style rest
  | c :: rest => some (.char c, rest)

/-- Whether a character may be in a set. -/
def isMember (style : Style) (c : Char) : Bool := style.characters || c.toNat < 0x80

/-- Read one character, range or class of a set. A hyphen before a bracket or another hyphen makes
no range. -/
def readItem (style : Style) (text : List Char) : Option (List Char) := do
  let (first, rest) ← readMember style text
  let rest := style.skip rest
  let single : Option (List Char) :=
    match first with
    | .char c => if isMember style c then some rest else none
    | .shorthand => some rest
    | .edge | .wordEdge => none
  match rest with
  | [] => none
  | '-' :: behind =>
    if style.ahead? behind = some ']' ∨ style.ahead? behind = some '-' then single
    else
      match first, ← readMember style (style.skip behind) with
      | .char low, (.char high, rest) =>
        if low ≤ high ∧ isMember style high then some rest else none
      | _, _ => none
  | _ => single

/-- Read the rest of a set that lies in others, up to the bracket that closes the outermost one. The
hyphens that a set begins with, and a bracket as its first character, stand for themselves. The
result is how deep the outermost set is, and the rest. -/
def readSets (style : Style) : Nat → OpenSet → List OpenSet → List Char → Option (Nat × List Char)
  | 0, _, _, _ => none
  | fuel + 1, set, outer, text =>
    match style.skip text, set.fresh with
    | [], _ => none
    | '-' :: rest, true => readSets style fuel set.addHyphen outer rest
    | '[' :: rest, _ =>
      match readNamed? rest with
      | some (negated, rest) =>
        if allowsNegation style negated then readSets style fuel (set.add 0) outer rest else none
      | none =>
        let (inner, rest) := openSet style rest
        readSets style fuel inner (set :: outer) rest
    | ']' :: rest, fresh =>
      if fresh && set.row.count = 0 then readSets style fuel (set.add 0) outer rest
      else if style.allowsChar && allowsNegation style set.negated then
        match outer with
        | [] => some (set.depth + 1, rest)
        | next :: outer => readSets style fuel (next.add (set.depth + 1)) outer rest
      else none
    | '&' :: '&' :: rest, _ | '-' :: '-' :: rest, _ | '~' :: '~' :: rest, _ =>
      readSets style fuel set.operate outer rest
    | text, _ => do readSets style fuel (set.add 0) outer (← readItem style text)

end Modeset.Text.Pattern
