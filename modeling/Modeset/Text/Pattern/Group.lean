import Modeset.Text.Letter
import Modeset.Text.Pattern.Style

/-!
# Groups in patterns

What an opening round bracket begins: a group, which may have a name or flags of its own, or no
group at all but flags for the rest of the one that it stands in.

## Main definitions

* `Text.Pattern.Opening` — what an opening bracket begins
* `Text.Pattern.readGroup` — read that much of a group
-/

namespace Modeset.Text.Pattern

/-- What an opening bracket begins. -/
inductive Opening
  /-- A group, perhaps with a name, that is read in a style of its own. -/
  | group (style : Style) (name : Option (List Char))
  /-- No group, but another style for the rest of the group. -/
  | flags (style : Style)
  deriving DecidableEq, Repr

/-- Read flags and what ends them. The flags behind a hyphen are cleared. The latest comes first in
`seen`. -/
def readFlags (style : Style) (value : Bool) (seen : List Char) :
    List Char → Option (Opening × List Char)
  | [] => none
  | ':' :: rest => if seen.head? = some '-' then none else some (.group style none, rest)
  | ')' :: rest =>
    if seen = [] ∨ seen.head? = some '-' then none else some (.flags style, rest)
  | '-' :: rest => if '-' ∈ seen then none else readFlags style false ('-' :: seen) rest
  | flag :: rest =>
    if flag ∈ seen then none
    else
      match style.set? value flag with
      | none => none
      | some style => readFlags style value (flag :: seen) rest

/-- Whether characters make the name of a group. -/
def isName : List Char → Bool
  | [] => false
  | first :: rest =>
    (first = '_' || isLetter first) &&
      rest.all fun c => isLetterOrDigit c || ['_', '.', '[', ']'].contains c

/-- Read the name of a group up to the angle bracket behind it. -/
def readName (style : Style) (text : List Char) : Option (Opening × List Char) :=
  let name := text.takeWhile (· ≠ '>')
  match text.drop name.length with
  | [] => none
  | _ :: rest => if isName name then some (.group style name, rest) else none

/-- Read what follows an opening round bracket as far as it says what is opened. -/
def readGroup (style : Style) (text : List Char) : Option (Opening × List Char) :=
  match style.skip text with
  | '?' :: 'P' :: '<' :: rest | '?' :: '<' :: rest => readName style rest
  | '?' :: rest => readFlags style true [] rest
  | rest => some (.group style none, rest)

end Modeset.Text.Pattern
