import Modeset.Text.Blank

/-!
# Styles of patterns

Flags in a pattern change how what follows them is read: whether letters stand for both cases,
whether characters or bytes are matched, and whether blanks and comments are passed over.

## Main definitions

* `Text.Pattern.Style` — how a stretch of a pattern is read
* `Text.Pattern.Style.skip` — the text behind blanks and comments, where they are passed over
* `Text.Pattern.Style.set?` — what a flag does
-/

namespace Modeset.Text.Pattern

/-- How a stretch of a pattern is read. -/
structure Style where
  /-- Letters stand for both cases. -/
  folds : Bool := false
  /-- What is matched are characters, and not bytes. -/
  characters : Bool := true
  /-- Blanks and comments are passed over. -/
  spaced : Bool := false
  deriving DecidableEq, Repr

/-- The text behind blanks and comments. A comment runs from a number sign to the end of the
line. -/
def dropSpace (inComment : Bool) : List Char → List Char
  | [] => []
  | c :: rest =>
    if inComment then dropSpace (c ≠ '\n') rest
    else if isBlank c then dropSpace false rest
    else if c = '#' then dropSpace true rest
    else c :: rest

namespace Style

/-- The text behind what is passed over. -/
def skip (style : Style) (text : List Char) : List Char :=
  if style.spaced then dropSpace false text else text

/-- The character behind a hyphen that tells whether the hyphen makes a range. Where comments are
passed over, it is the first one of a comment that is no blank, and not the one behind it. -/
def ahead? (style : Style) (text : List Char) : Option Char :=
  if style.spaced then
    match text.dropWhile isBlank with
    | '#' :: rest => (rest.dropWhile isBlank).head?
    | rest => rest.head?
  else text.head?

/-- The style with a flag set or cleared, if there is such a flag. -/
def set? (style : Style) (value : Bool) : Char → Option Style
  | 'i' => some { style with folds := value }
  | 'u' => some { style with characters := value }
  | 'x' => some { style with spaced := value }
  | 'm' | 's' | 'U' | 'R' => some style
  | _ => none

/-- Whether a plain character can be matched. -/
def allowsChar (style : Style) : Bool := !(style.folds && style.characters)

end Style

end Modeset.Text.Pattern
