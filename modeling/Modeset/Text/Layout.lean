/-!
# Layout

Fixed forms in which numbers and table cells are shown: padded to a width, in hexadecimal, in
binary, and byte strings as pairs of hexadecimal digits.
-/

namespace Modeset.Layout

/-- A text with blanks behind it until it is `width` characters long. -/
def padRight (width : Nat) (text : String) : String :=
  text ++ String.ofList (List.replicate (width - text.length) ' ')

/-- A text with `fill` in front of it until it is `width` characters long. -/
def padLeft (width : Nat) (fill : Char) (text : String) : String :=
  String.ofList (List.replicate (width - text.length) fill) ++ text

/-- A number in lower-case hexadecimal, with zeros in front up to `width` digits. -/
def hex (width : Nat) (n : Nat) : String :=
  padLeft width '0' (String.ofList (Nat.toDigits 16 n))

/-- A number in upper-case hexadecimal, with zeros in front up to `width` digits. -/
def hexUpper (width : Nat) (n : Nat) : String :=
  String.ofList ((hex width n).toList.map Char.toUpper)

/-- A number in binary, with zeros in front up to `width` digits. -/
def binary (width : Nat) (n : Nat) : String :=
  padLeft width '0' (String.ofList (Nat.toDigits 2 n))

/-- Bytes as pairs of lower-case hexadecimal digits. -/
def hexBytes (bytes : List UInt8) : String :=
  String.join (bytes.map fun b => hex 2 b.toNat)

/-- How many bytes of a payload are shown. -/
def shownBytes : Nat := 16

/-- The start of a payload in hexadecimal, and how many bytes follow it. -/
def payload (bytes : List UInt8) : String :=
  let rest := bytes.length - shownBytes
  hexBytes (bytes.take shownBytes) ++ if rest = 0 then "" else s!"+{rest}"

end Modeset.Layout
