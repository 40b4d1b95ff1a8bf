import Modeset.Text.Layout
import Modeset.Text.Unshown
import Modeset.Text.Utf8

/-!
# Quoted bytes

In the log a file name stands in double quotes and on one line, whatever bytes it is made of: double
quotes, backslashes and control characters are written with a backslash, characters without a glyph
by their number, and bytes that are no text in hexadecimal. A single quote stands for itself.

## Main definitions

* `Quoted.char` — how one character is written
* `Quoted.quote` — a byte string in quotes
-/

namespace Modeset.Quoted

/-- How a character is written between quotes. -/
def char (c : Char) : String :=
  match c with
  | '\x00' => "\\0"
  | '\t' => "\\t"
  | '\n' => "\\n"
  | '\r' => "\\r"
  | '"' => "\\\""
  | '\\' => "\\\\"
  | c =>
    if c.toNat < 0x20 ∨ c.toNat = 0x7F ∨ Text.isUnshown c then
      "\\u\x7b" ++ Layout.hex 1 c.toNat ++ "\x7d"
    else
      c.toString

/-- How a piece of a byte string is written between quotes. -/
def piece : Utf8.Piece → String
  | .char c => char c
  | .broken run => String.join (run.map fun b => "\\x" ++ Layout.hexUpper 2 b.toNat)

/-- A byte string in double quotes, on one line. -/
def quote (bytes : List UInt8) : String :=
  "\"" ++ String.join ((Utf8.pieces bytes).map piece) ++ "\""

end Modeset.Quoted
