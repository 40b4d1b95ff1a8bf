import Mathlib.Data.Nat.Bitwise
import Modeset.Node.Request

/-!
# Reading request words

A request word is put together from four fields by shifts, and the kernel takes it apart again. The
fields lie side by side: as a number, the word is their sum, each one times the place where it
begins. So nothing is cut off, and no field reaches into the next one, as long as the size and the
number fit their fields. They do for every command that a driver can be sent, and since the number
of such a command is never one of the common commands, neither is what the kernel reads.

## Main definitions

* `Request.numberOf`, `Request.letterOf`, `Request.payloadSize`, `Request.directionOf?` — the fields
  of a word, as they are read
* `Request.Carries` — what a word says of a driver's own command

## Main results

* `Request.toNat_word` — the fields lie side by side
* `Request.command?_eq_ok_iff` — which commands have a word, and which one
* `Request.carries_word` — what is read is what was written
* `Request.command?_faithful` — a word stands for one command only, which is a driver's own
-/

namespace Modeset.Request

/-- The number of a command: the lowest eight bits of its word. -/
def numberOf (request : UInt32) : UInt32 := request &&& 0xFF

/-- The letter of a command: the eight bits above its number. -/
def letterOf (request : UInt32) : UInt32 := (request >>> 8) &&& 0xFF

/-- The size of the payload of a command: the fourteen bits above its letter. -/
def payloadSize (request : UInt32) : UInt32 := (request >>> 16) &&& 0x3FFF

/-- The direction of a command: the two bits above the size of its payload. -/
def directionOf? (request : UInt32) : Option Direction :=
  [Direction.write, Direction.writeRead].find? (·.bits = request >>> 30)

/-- The word says that a driver's own command, counted from 0, has a payload of this size that goes
in this direction. -/
structure Carries (request index : UInt32) (size : Nat) (direction : Direction) : Prop where
  letter : letterOf request = letter
  number : (numberOf request).toNat = firstNumber + index.toNat
  size : (payloadSize request).toNat = size
  direction : directionOf? request = some direction

variable {request index number : UInt32} {size : Nat} {direction : Direction}

theorem Direction.bits_lt (direction : Direction) : direction.bits.toNat < 4 := by
  cases direction <;> decide

/-- A field and all that is below it are added up, since they have no bit in common. -/
private theorem or_eq_add (field place : Nat) {low : Nat} (below : low < 2 ^ place) :
    field <<< place ||| low = field * 2 ^ place + low := by
  rw [← Nat.shiftLeft_add_eq_or_of_lt below, Nat.shiftLeft_eq]

/-- As a number, a word is the sum of its fields, each one times the place where it begins. -/
theorem toNat_word (number_lt : number.toNat < 0x100) {field : UInt32}
    (field_le : field.toNat ≤ maxSize) :
    (word number field direction).toNat =
      direction.bits.toNat * 2 ^ 30 + (field.toNat * 2 ^ 16 + (0x64 * 2 ^ 8 + number.toNat)) := by
  have direction_lt := direction.bits_lt
  have size_lt : field.toNat < 2 ^ 14 := Nat.lt_succ_of_le field_le
  have letter_field : (letter <<< 8).toNat = 0x64 <<< 8 := by decide
  -- The mask of the size takes nothing away, and no field is shifted out of the word.
  have size_field : ((field &&& 0x3FFF) <<< 16).toNat = field.toNat <<< 16 := by
    have masked : (field &&& 0x3FFF).toNat = field.toNat := by
      rw [UInt32.toNat_and]
      exact (Nat.and_two_pow_sub_one_eq_mod field.toNat 14).trans (Nat.mod_eq_of_lt size_lt)
    rw [UInt32.toNat_shiftLeft, masked]
    apply Nat.mod_eq_of_lt
    change field.toNat <<< 16 < 2 ^ 32
    rw [Nat.shiftLeft_eq]
    omega
  have direction_field : (direction.bits <<< 30).toNat = direction.bits.toNat <<< 30 := by
    rw [UInt32.toNat_shiftLeft]
    apply Nat.mod_eq_of_lt
    change direction.bits.toNat <<< 30 < 2 ^ 32
    rw [Nat.shiftLeft_eq]
    omega
  -- From the lowest field up, all that has been added is below the place of the next field.
  rw [word, UInt32.toNat_or, UInt32.toNat_or, UInt32.toNat_or, direction_field, size_field,
    letter_field, Nat.or_assoc, Nat.or_assoc, or_eq_add 0x64 8 (by omega),
    or_eq_add field.toNat 16 (by omega), or_eq_add direction.bits.toNat 30 (by omega)]

/-- What a mask of the lowest bits leaves of a number is what a division leaves of it. -/
private theorem toNat_and_mask {mask : UInt32} (width : Nat) (all : mask.toNat = 2 ^ width - 1)
    (value : UInt32) : (value &&& mask).toNat = value.toNat % 2 ^ width := by
  rw [UInt32.toNat_and, all, Nat.and_two_pow_sub_one_eq_mod]

theorem toNat_numberOf (request : UInt32) : (numberOf request).toNat = request.toNat % 2 ^ 8 :=
  toNat_and_mask 8 rfl request

theorem toNat_letterOf (request : UInt32) :
    (letterOf request).toNat = request.toNat / 2 ^ 8 % 2 ^ 8 := by
  rw [letterOf, toNat_and_mask 8 rfl, UInt32.toNat_shiftRight, ← Nat.shiftRight_eq_div_pow]
  rfl

theorem toNat_payloadSize (request : UInt32) :
    (payloadSize request).toNat = request.toNat / 2 ^ 16 % 2 ^ 14 := by
  rw [payloadSize, toNat_and_mask 14 rfl, UInt32.toNat_shiftRight, ← Nat.shiftRight_eq_div_pow]
  rfl

theorem directionOf?_eq_some (same : direction.bits.toNat = request.toNat / 2 ^ 30) :
    directionOf? request = some direction := by
  have bits : direction.bits = request >>> 30 := by
    apply UInt32.toNat_inj.mp
    rw [same, UInt32.toNat_shiftRight, ← Nat.shiftRight_eq_div_pow]
    rfl
  unfold directionOf?
  rw [← bits]
  cases direction <;> decide

/-- What is read from the word of a driver's own command is what was written. -/
theorem carries_word (index_lt : index < 0x60) (size_le : size ≤ maxSize) :
    Carries (word (firstNumber.toUInt32 + index) size.toUInt32 direction) index size direction := by
  have index_bound : index.toNat < 0x60 := UInt32.lt_iff_toNat_lt.mp index_lt
  have size_bound : size ≤ 0x3FFF := size_le
  have direction_lt := direction.bits_lt
  have number_eq : (firstNumber.toUInt32 + index).toNat = 0x40 + index.toNat := by
    rw [UInt32.toNat_add]
    apply Nat.mod_eq_of_lt
    change 0x40 + index.toNat < 2 ^ 32
    omega
  have size_eq : size.toUInt32.toNat = size := by
    apply Nat.mod_eq_of_lt
    omega
  have whole : (word (firstNumber.toUInt32 + index) size.toUInt32 direction).toNat =
      direction.bits.toNat * 2 ^ 30 + (size * 2 ^ 16 + (0x64 * 2 ^ 8 + (0x40 + index.toNat))) := by
    rw [toNat_word (by omega) (size_eq.trans_le size_le), number_eq, size_eq]
  constructor
  · apply UInt32.toNat_inj.mp
    rw [toNat_letterOf, whole]
    change _ = 0x64
    omega
  · rw [toNat_numberOf, whole]
    change _ = 0x40 + index.toNat
    omega
  · rw [toNat_payloadSize, whole]
    omega
  · apply directionOf?_eq_some
    rw [whole]
    omega

/-- A word that says something of one command says nothing of another one. -/
theorem Carries.unique {otherIndex : UInt32} {otherSize : Nat} {otherDirection : Direction}
    (carries : Carries request index size direction)
    (other : Carries request otherIndex otherSize otherDirection) :
    otherIndex = index ∧ otherSize = size ∧ otherDirection = direction := by
  refine ⟨?_, other.size.symm.trans carries.size, ?_⟩
  · apply UInt32.toNat_inj.mp
    exact Nat.add_left_cancel (other.number.symm.trans carries.number)
  · exact Option.some.inj (other.direction.symm.trans carries.direction)

/-- A number counted from 0 is past the last command of a driver's own from 0x60 on. -/
theorem endNumber_le_iff : endNumber ≤ firstNumber + index.toNat ↔ 0x60 ≤ index := by
  rw [UInt32.le_iff_toNat_le]
  change 0xA0 ≤ 0x40 + index.toNat ↔ 0x60 ≤ index.toNat
  omega

/-- Which commands have a word, and which one. -/
theorem command?_eq_ok_iff : command? index size direction = .ok request ↔
    (1 ≤ size ∧ size ≤ maxSize ∧ index < 0x60) ∧
      request = word (firstNumber.toUInt32 + index) size.toUInt32 direction := by
  unfold command?
  by_cases unfit : size = 0 ∨ maxSize < size
  · rw [if_pos unfit]
    constructor
    · intro accepted
      cases accepted
    · rintro ⟨⟨positive, bounded, -⟩, -⟩
      omega
  by_cases far : endNumber ≤ firstNumber + index.toNat
  · rw [if_neg unfit, if_pos far]
    constructor
    · intro accepted
      cases accepted
    · rintro ⟨⟨-, -, near⟩, -⟩
      exact absurd near (UInt32.not_lt.mpr (endNumber_le_iff.mp far))
  · have near : index < 0x60 := UInt32.not_le.mp (mt endNumber_le_iff.mpr far)
    rw [if_neg unfit, if_neg far, Except.ok.injEq, eq_comm]
    exact (and_iff_right ⟨by omega, by omega, near⟩).symm

/-- A command has a word just if its payload is neither empty nor too large and its number, counted
from 0, is below 0x60. Then the word says of the letter, the number, the size and the direction what
they are; the number is one of a driver's own commands; and no other command has the same word. -/
theorem command?_faithful (index : UInt32) (size : Nat) (direction : Direction) :
    ((∃ request, command? index size direction = .ok request) ↔
        1 ≤ size ∧ size ≤ 16383 ∧ index < 0x60) ∧
      ∀ request, command? index size direction = .ok request →
        Carries request index size direction ∧
          0x40 ≤ numberOf request ∧ numberOf request < 0xA0 ∧
          ∀ otherIndex otherSize otherDirection,
            command? otherIndex otherSize otherDirection = .ok request →
              otherIndex = index ∧ otherSize = size ∧ otherDirection = direction := by
  constructor
  · constructor
    · rintro ⟨request, accepted⟩
      exact (command?_eq_ok_iff.mp accepted).1
    · intro bounds
      exact ⟨_, command?_eq_ok_iff.mpr ⟨bounds, rfl⟩⟩
  · intro request accepted
    obtain ⟨⟨-, size_le, index_lt⟩, rfl⟩ := command?_eq_ok_iff.mp accepted
    have carries : Carries _ index size direction := carries_word index_lt size_le
    have number : (numberOf _).toNat = 0x40 + index.toNat := carries.number
    refine ⟨carries, ?_, ?_, ?_⟩
    · rw [UInt32.le_iff_toNat_le, number]
      exact Nat.le_add_right ..
    · rw [UInt32.lt_iff_toNat_lt, number]
      exact Nat.add_lt_add_left (UInt32.lt_iff_toNat_lt.mp index_lt) 0x40
    · intro otherIndex otherSize otherDirection other_accepted
      obtain ⟨⟨-, other_le, other_lt⟩, same⟩ := command?_eq_ok_iff.mp other_accepted
      have other : Carries _ otherIndex otherSize otherDirection := carries_word other_lt other_le
      rw [← same] at other
      exact carries.unique other

end Modeset.Request
