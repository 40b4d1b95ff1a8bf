import Modeset.NameField

/-!
# Display modes

A mode is a resolution, a refresh rate and the timing that produces them. Connectors list the modes
they support; a CRTC drives one. The kernel names each mode in a field of 32 bytes.

## Main definitions

* `Mode` — a mode with all its timing
* `Mode.ofSize` — a mode with only size and rate filled in
* `Mode.satisfiedBy` — whether an active mode already is what a mode asks for
* `Mode.text` — a mode as `WIDTHxHEIGHT@RATEHz`

## Main results

* `Mode.satisfiedBy_self` — every mode satisfies itself
-/

namespace Modeset

/-- A display mode: resolution, refresh rate and timing. -/
structure Mode where
  clock : UInt32 := 0
  hdisplay : UInt16 := 0
  hsyncStart : UInt16 := 0
  hsyncEnd : UInt16 := 0
  htotal : UInt16 := 0
  hskew : UInt16 := 0
  vdisplay : UInt16 := 0
  vsyncStart : UInt16 := 0
  vsyncEnd : UInt16 := 0
  vtotal : UInt16 := 0
  vscan : UInt16 := 0
  vrefresh : UInt32 := 0
  flags : UInt32 := 0
  kind : UInt32 := 0
  name : NameField := .zero
  deriving DecidableEq, Inhabited

namespace Mode

/-- The mode in which nothing is set: no display is driven. -/
def zero : Mode := {}

/-- The bit of `Mode.kind` that marks the mode the display itself prefers. -/
def preferredBit : UInt32 := 8

/-- A mode of a size and rate and nothing else, named after its size. -/
def ofSize (width height : UInt16) (refresh : UInt32) : Mode where
  hdisplay := width
  vdisplay := height
  vrefresh := refresh
  name := .ofText s!"{width}x{height}"

/-- The mode, marked as the one the display prefers. -/
def preferred (mode : Mode) : Mode := { mode with kind := mode.kind ||| preferredBit }

/-- The mode with other timing flags. -/
def withFlags (mode : Mode) (flags : UInt32) : Mode := { mode with flags }

/-- The mode under another name. -/
def withName (mode : Mode) (name : String) : Mode := { mode with name := .ofText name }

/-- Pixels in a row. -/
def width (mode : Mode) : UInt32 := mode.hdisplay.toUInt32

/-- Rows in a picture. -/
def height (mode : Mode) : UInt32 := mode.vdisplay.toUInt32

/-- Whether the display prefers this mode. -/
def isPreferred (mode : Mode) : Bool := mode.kind &&& preferredBit ≠ 0

/-- Whether the mode has no area. -/
def isEmpty (mode : Mode) : Bool := mode.hdisplay = 0 ∨ mode.vdisplay = 0

/-- Whether `base` already is what `wanted` asks for: the same size and rate, and every flag that is
asked for. -/
def satisfiedBy (wanted base : Mode) : Bool :=
  base.hdisplay = wanted.hdisplay ∧ base.vdisplay = wanted.vdisplay ∧
    base.vrefresh = wanted.vrefresh ∧ base.flags &&& wanted.flags = wanted.flags

theorem satisfiedBy_self (mode : Mode) : mode.satisfiedBy mode = true := by simp [satisfiedBy]

/-- Size and rate of a mode as text. -/
def text (mode : Mode) : String := s!"{mode.hdisplay}x{mode.vdisplay}@{mode.vrefresh}Hz"

end Mode

end Modeset
