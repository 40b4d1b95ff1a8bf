import Modeset.Text.Ranges

/-!
# Blanks

The characters that separate words: the blank, the control characters that move on in or behind a
line, and the spaces and separators beyond ASCII.

## Main definitions

* `Text.isBlank` — whether a character is one of them
* `Text.trim` — a text without the blanks at its ends
-/

namespace Modeset.Text

/-- Code points of blanks, as closed ranges. -/
def blankRanges : Ranges :=
  [(0x9, 0xd), (0x20, 0x20), (0x85, 0x85), (0xa0, 0xa0), (0x1680, 0x1680),
   (0x2000, 0x200a), (0x2028, 0x2029), (0x202f, 0x202f), (0x205f, 0x205f), (0x3000, 0x3000)]

/-- Whether a character is a blank. -/
def isBlank (c : Char) : Bool := blankRanges.contains c

/-- The text without the blanks at its ends. -/
def trim (text : List Char) : List Char :=
  ((text.dropWhile isBlank).reverse.dropWhile isBlank).reverse

end Modeset.Text
