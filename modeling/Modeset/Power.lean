/-!
# Power states

A display is switched on or off through its connector's DPMS property.

## Main definitions

* `Power` — the two states
* `Power.dpms` — the property value for a state
* `Power.parse?` — a state from a typed name
-/

namespace Modeset

/-- Whether a display is on. -/
inductive Power | on | off
  deriving DecidableEq, Repr

namespace Power

/-- The value of the DPMS property that puts a display into the state. -/
def dpms : Power → UInt64
  | on => 0
  | off => 3

/-- The name of a state. -/
def text : Power → String
  | on => "on"
  | off => "off"

/-- The name of a state as it is reported. -/
def title : Power → String
  | on => "On"
  | off => "Off"

/-- A state from a typed name, in any case of its ASCII letters. No accepted name has the `k` that
is the one ASCII lower case of a letter beyond ASCII. -/
def parse? (text : String) : Option Power :=
  let name := text.toLower
  if name = "on" ∨ name = "1" then some on
  else if name = "off" ∨ name = "0" then some off
  else none

/-- What is shown for a text that names no state. -/
def unknown (text : String) : String := s!"Unknown power mode: {text}"

end Power

end Modeset
