import Modeset.Fault

/-!
# Request words

A driver command travels as a 32-bit request word: two bits for the direction of the payload,
fourteen for its size, eight for the letter of the graphics drivers, and eight for the number of the
command. Commands of a driver's own have the numbers from 0x40 up to 0x9f.

## Main definitions

* `Request.Direction` — whether a payload only goes in, or also comes back
* `Request.word` — the word of a number, a size and a direction
* `Request.command?` — the word of a driver's own command, if there is one
-/

namespace Modeset.Request

/-- The letter of the graphics drivers, `d`. -/
def letter : UInt32 := 0x64

/-- The number of the first command of a driver's own. -/
def firstNumber : Nat := 0x40

/-- One past the number of the last command of a driver's own. -/
def endNumber : Nat := 0xA0

/-- How large a payload can be. -/
def maxSize : Nat := 0x3FFF

/-- Where a payload goes. -/
inductive Direction
  /-- To the driver only. -/
  | write
  /-- To the driver and back. -/
  | writeRead
  deriving DecidableEq, Repr

/-- The bits of a direction. -/
def Direction.bits : Direction → UInt32
  | write => 1
  | writeRead => 3

/-- The request word of a command number, a payload size and a direction. -/
def word (number size : UInt32) (direction : Direction) : UInt32 :=
  direction.bits <<< 30 ||| (size &&& 0x3FFF) <<< 16 ||| letter <<< 8 ||| number

/-- The request word of a driver's own command, counted from 0. The size is looked at first. -/
def command? (index : UInt32) (size : Nat) (direction : Direction) : Except Fault UInt32 :=
  if size = 0 ∨ maxSize < size then
    .error (.invalidInput s!"payload size {size} out of range")
  else if endNumber ≤ firstNumber + index.toNat then
    .error (.invalidInput s!"driver command index {index} out of range")
  else
    .ok (word (firstNumber.toUInt32 + index) size.toUInt32 direction)

end Modeset.Request
