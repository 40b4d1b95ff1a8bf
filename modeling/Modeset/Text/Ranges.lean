/-!
# Ranges of characters

A class of characters is given as a list of closed ranges of code points, in ascending order.

## Main definitions

* `Text.Ranges` — such a list
* `Text.Ranges.contains` — whether a character lies in one of them
-/

namespace Modeset.Text

/-- Closed ranges of code points. -/
abbrev Ranges := List (Nat × Nat)

/-- Whether a character lies in one of the ranges. -/
def Ranges.contains (ranges : Ranges) (c : Char) : Bool :=
  ranges.any fun (first, last) => first ≤ c.toNat && c.toNat ≤ last

end Modeset.Text
