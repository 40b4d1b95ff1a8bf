/-!
# Bytes and text

File names, kernel names and files are sequences of bytes; what is shown is text. This file goes
from one to the other by UTF-8. Bytes that are no text are split into *pieces*: characters, and
maximal runs that begin as a character does and then break off. Shown leniently, each broken run
becomes one replacement character.

## Main definitions

* `Utf8.encode`, `Utf8.encodeChar` — the bytes of a text
* `Utf8.size`, `Utf8.splitAt` — lengths and places in a text, counted in bytes
* `Utf8.pieces` — characters and broken runs, in order
* `Utf8.decode?` — the text, if every piece is a character
* `Utf8.lossy` — the text with `U+FFFD` for each broken run

## Main results

* `Utf8.encode_append` — a text is encoded character by character
* `Utf8.splitAt_append`, `Utf8.splitAt_size` — a split loses nothing, and it comes back to the place
  where a text was put before another one
-/

namespace Modeset.Utf8

/-- The bytes of one character: a lead byte, then six bits in each following byte. -/
def encodeChar (c : Char) : List UInt8 :=
  let n := c.toNat
  if n < 0x80 then
    [n.toUInt8]
  else if n < 0x800 then
    [(0xC0 + n / 0x40).toUInt8, (0x80 + n % 0x40).toUInt8]
  else if n < 0x10000 then
    [(0xE0 + n / 0x1000).toUInt8, (0x80 + n / 0x40 % 0x40).toUInt8, (0x80 + n % 0x40).toUInt8]
  else
    [(0xF0 + n / 0x40000).toUInt8, (0x80 + n / 0x1000 % 0x40).toUInt8,
      (0x80 + n / 0x40 % 0x40).toUInt8, (0x80 + n % 0x40).toUInt8]

/-- The bytes of a text. -/
def encode (text : List Char) : List UInt8 := text.flatMap encodeChar

@[simp] theorem encode_nil : encode [] = [] := rfl

@[simp] theorem encode_cons (c : Char) (text : List Char) :
    encode (c :: text) = encodeChar c ++ encode text := rfl

@[simp] theorem encode_append (s t : List Char) : encode (s ++ t) = encode s ++ encode t :=
  List.flatMap_append

/-- The bytes of a string. -/
def bytes (s : String) : List UInt8 := encode s.toList

/-- The number of bytes of a text. -/
def size (text : List Char) : Nat := (encode text).length

/-- The text up to a number of bytes, and the rest. A character across the place belongs to the
first part. -/
def splitAt : Nat → List Char → List Char × List Char
  | 0, text => ([], text)
  | _, [] => ([], [])
  | place + 1, c :: text =>
    let (front, back) := splitAt (place + 1 - (encodeChar c).length) text
    (c :: front, back)

theorem splitAt_append (place : Nat) (text : List Char) :
    (splitAt place text).1 ++ (splitAt place text).2 = text := by
  fun_induction splitAt place text with
  | case1 => rfl
  | case2 => rfl
  | case3 place c text front back h ih => simpa [h] using ih

theorem encodeChar_length_pos (c : Char) : 0 < (encodeChar c).length := by
  grind [encodeChar]

theorem splitAt_size (front back : List Char) :
    splitAt (size front) (front ++ back) = (front, back) := by
  induction front with
  | nil => cases back <;> rfl
  | cons c front ih =>
    obtain ⟨n, h⟩ : ∃ n, (encodeChar c).length = n + 1 :=
      ⟨_, (Nat.succ_pred_eq_of_pos (encodeChar_length_pos c)).symm⟩
    have place : size (c :: front) = n + size front + 1 := by simp [size, h]; omega
    have rest : n + size front + 1 - (n + 1) = size front := by omega
    rw [place, List.cons_append, splitAt, h, rest, ih]

/-- What a byte sequence falls into: a character, or a run of bytes that is none. -/
inductive Piece
  | char (c : Char)
  | broken (run : List UInt8)
  deriving DecidableEq, Repr

/-- How many bytes follow a lead byte, and between which bounds the first of them lies. The bounds
keep out encodings that are longer than needed, surrogates, and numbers past the last character. -/
def continuation? (lead : UInt8) : Option (Nat × UInt8 × UInt8) :=
  if lead < 0xC2 then none
  else if lead < 0xE0 then some (1, 0x80, 0xBF)
  else if lead = 0xE0 then some (2, 0xA0, 0xBF)
  else if lead = 0xED then some (2, 0x80, 0x9F)
  else if lead < 0xF0 then some (2, 0x80, 0xBF)
  else if lead = 0xF0 then some (3, 0x90, 0xBF)
  else if lead < 0xF4 then some (3, 0x80, 0xBF)
  else if lead = 0xF4 then some (3, 0x80, 0x8F)
  else none

/-- A byte that may follow another in a character. -/
def isContinuation (b : UInt8) : Bool := 0x80 ≤ b && b ≤ 0xBF

/-- The character whose lead byte carries `high` and whose following bytes carry six bits each. -/
def assemble (high : Nat) (following : List UInt8) : Char :=
  Char.ofNat (following.foldl (fun n b => n * 0x40 + b.toNat % 0x40) high)

/-- The characters and the broken runs of a byte sequence, in order. -/
def pieces : List UInt8 → List Piece
  | [] => []
  | lead :: rest =>
    if lead < 0x80 then .char (Char.ofNat lead.toNat) :: pieces rest
    else match continuation? lead with
      | none => .broken [lead] :: pieces rest
      | some (count, low, high) =>
        match rest with
        | [] => [.broken [lead]]
        | a :: rest₁ =>
          if !(low ≤ a && a ≤ high) then .broken [lead] :: pieces (a :: rest₁)
          else if count = 1 then .char (assemble (lead.toNat % 0x20) [a]) :: pieces rest₁
          else match rest₁ with
            | [] => [.broken [lead, a]]
            | b :: rest₂ =>
              if !isContinuation b then .broken [lead, a] :: pieces (b :: rest₂)
              else if count = 2 then
                .char (assemble (lead.toNat % 0x10) [a, b]) :: pieces rest₂
              else match rest₂ with
                | [] => [.broken [lead, a, b]]
                | c :: rest₃ =>
                  if !isContinuation c then .broken [lead, a, b] :: pieces (c :: rest₃)
                  else .char (assemble (lead.toNat % 0x08) [a, b, c]) :: pieces rest₃

/-- The character of a piece that is one. -/
def Piece.char? : Piece → Option Char
  | .char c => some c
  | .broken _ => none

/-- The text of a byte sequence, if all of it is text. -/
def decode? (bytes : List UInt8) : Option (List Char) := (pieces bytes).mapM Piece.char?

/-- What stands for a run of bytes that is no character. -/
def replacement : Char := '\uFFFD'

/-- The text of a byte sequence, each broken run shown as one replacement character. -/
def lossy (bytes : List UInt8) : String :=
  String.ofList ((pieces bytes).map fun piece => piece.char?.getD replacement)

end Modeset.Utf8
