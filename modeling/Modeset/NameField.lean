import Modeset.Text.Utf8

/-!
# Name fields

The kernel names modes and properties in fields of 32 bytes. The name ends at the first zero byte,
or with the field.

## Main definitions

* `NameField` — such a field
* `NameField.ofBytes`, `NameField.ofText` — the field of a name
* `NameField.text` — the name in a field

## Main results

* `NameField.text_zero` — the empty field is the empty text
-/

namespace Modeset

/-- How many bytes a name field has. -/
def nameFieldLength : Nat := 32

/-- A field for a name: a text, closed by a zero byte unless it fills the field. -/
structure NameField where
  bytes : List UInt8
  length_bytes : bytes.length = nameFieldLength
  deriving DecidableEq

namespace NameField

/-- The field that starts with these bytes, cut or filled with zeros to its length. -/
def ofBytes (bytes : List UInt8) : NameField where
  bytes := (bytes ++ List.replicate nameFieldLength 0).take nameFieldLength
  length_bytes := by simp

/-- The field with no name in it. -/
def zero : NameField := ofBytes []

instance : Inhabited NameField := ⟨zero⟩

/-- The field that begins with these bytes and ends with a zero byte. -/
def closed (bytes : List UInt8) : NameField := ofBytes (bytes.take (nameFieldLength - 1))

/-- The field that holds a name. The last byte stays zero, so a long name is cut, possibly inside a
character. -/
def ofText (name : String) : NameField := closed (Utf8.bytes name)

/-- The bytes before the first zero byte. -/
def stem (field : NameField) : List UInt8 := field.bytes.takeWhile (· ≠ 0)

/-- The name as text. -/
def text (field : NameField) : String := Utf8.lossy field.stem

@[simp] theorem text_zero : zero.text = "" := rfl

end NameField

end Modeset
