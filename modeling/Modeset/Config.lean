import Modeset.Kind
import Modeset.Path
import Modeset.Slot

/-!
# Configuration

A configuration names the device node to open, the format of framebuffers, and for each output slot
the kinds of connector and encoder that the board has there.

## Main definitions

* `OutputConfig` — the hardware expected for one slot
* `Config` — a configuration; its defaults are those of the board
* `Config.output` — the hardware expected for a slot
* `Config.same` — equality, with device paths compared by their steps
-/

namespace Modeset

/-- The hardware expected for one output slot. -/
structure OutputConfig where
  connector : ConnectorKind
  encoder : EncoderKind
  deriving DecidableEq, Repr

/-- Which device to use and what hardware its outputs have. -/
structure Config where
  devicePath : Path := .ofString "/dev/dri/card0"
  framebufferDepth : UInt32 := 24
  framebufferBpp : UInt32 := 32
  powerControl : Bool := false
  primary : OutputConfig := ⟨.edp, .tmds⟩
  external : OutputConfig := ⟨.hdmiA, .tmds⟩
  deriving DecidableEq, Repr

namespace Config

/-- The configuration in which every setting is the default. -/
def default : Config := {}

instance : Inhabited Config := ⟨default⟩

/-- The hardware expected for a slot. -/
def output (config : Config) : Slot → OutputConfig
  | .primary => config.primary
  | .external => config.external

/-- Whether two configurations mean the same. -/
def same (a b : Config) : Bool :=
  a.devicePath.same b.devicePath && { a with devicePath := b.devicePath } = b

end Config

end Modeset
