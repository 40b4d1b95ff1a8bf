/-!
# Depth of patterns

How deep a pattern is: every repetition, group and set in brackets lies one level above what it
holds, and so do parts that stand side by side, if there are two or more.

## Main definitions

* `Text.Pattern.Row` — parts side by side, as far as their depth needs them
* `Text.Pattern.Row.depth` — how deep they are together
* `Text.Pattern.maxDepth` — how deep a pattern may be
-/

namespace Modeset.Text.Pattern

/-- How deep a pattern may be. -/
def maxDepth : Nat := 250

/-- Parts of a pattern that stand side by side. -/
structure Row where
  /-- How many there are. -/
  count : Nat := 0
  /-- The depth of the deepest. -/
  deepest : Nat := 0
  deriving DecidableEq, Repr

namespace Row

/-- The row with one more part of the given depth. -/
def add (row : Row) (depth : Nat) : Row :=
  { count := row.count + 1, deepest := max row.deepest depth }

/-- The row when its last part has got the given depth, which is not less than before. -/
def deepen (row : Row) (depth : Nat) : Row := { row with deepest := max row.deepest depth }

/-- How deep the parts are together. One part alone makes no level. -/
def depth (row : Row) : Nat := if row.count < 2 then row.deepest else row.deepest + 1

end Row

end Modeset.Text.Pattern
