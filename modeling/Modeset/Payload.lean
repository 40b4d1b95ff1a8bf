/-!
# Payloads of driver commands

A driver command carries a payload of bytes. A number is passed with its least significant byte
first.

## Main definitions

* `Plain` — values that are passed as a fixed number of bytes
* `Payload.littleEndian`, `Payload.ofLittleEndian` — a number as bytes and back

## Main results

* `Payload.length_littleEndian` — a number takes as many bytes as its width says
* `Payload.ofLittleEndian_littleEndian` — bytes read back as the part of the number that fits
-/

namespace Modeset

namespace Payload

/-- The `count` least significant bytes of a number, least significant first. -/
def littleEndian : Nat → Nat → List UInt8
  | 0, _ => []
  | count + 1, n => (n % 0x100).toUInt8 :: littleEndian count (n / 0x100)

/-- The number that bytes stand for, least significant first. -/
def ofLittleEndian : List UInt8 → Nat
  | [] => 0
  | b :: rest => b.toNat + 0x100 * ofLittleEndian rest

@[simp] theorem length_littleEndian (count n : Nat) : (littleEndian count n).length = count := by
  induction count generalizing n with
  | zero => rfl
  | succ count ih => simp [littleEndian, ih]

theorem ofLittleEndian_littleEndian (count n : Nat) :
    ofLittleEndian (littleEndian count n) = n % Nat.pow 0x100 count := by
  induction count generalizing n with
  | zero => simp [littleEndian, ofLittleEndian, Nat.mod_one]
  | succ count ih =>
    have low : (n % 0x100).toUInt8.toNat = n % 0x100 := by simp
    have split : Nat.pow 0x100 (count + 1) = 0x100 * Nat.pow 0x100 count := Nat.mul_comm _ _
    rw [littleEndian, ofLittleEndian, ih, low, split, Nat.mod_mul]

end Payload

/-- Values that are passed to a driver as they lie in memory. -/
class Plain (α : Type) where
  /-- The bytes of a value. -/
  toBytes : α → List UInt8
  /-- The value of bytes. -/
  ofBytes : List UInt8 → α

instance : Plain Unit where
  toBytes _ := []
  ofBytes _ := ()

instance : Plain UInt8 where
  toBytes value := Payload.littleEndian 1 value.toNat
  ofBytes bytes := (Payload.ofLittleEndian bytes).toUInt8

instance : Plain UInt32 where
  toBytes value := Payload.littleEndian 4 value.toNat
  ofBytes bytes := (Payload.ofLittleEndian bytes).toUInt32

instance : Plain UInt64 where
  toBytes value := Payload.littleEndian 8 value.toNat
  ofBytes bytes := (Payload.ofLittleEndian bytes).toUInt64

end Modeset
