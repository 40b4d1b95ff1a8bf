import Modeset.Config
import Modeset.Datum
import Modeset.PhysicalSize
import Modeset.Power

/-!
# Settings as data

How kinds, slots, sizes and configurations are read from data and given as data. A configuration is
an overlay on the defaults: a setting that is not given keeps its default, one that is given must be
well formed, and of an output either both kinds are given or neither.

## Main definitions

* `Config.ofDatum?`, `Config.toDatum` — configurations
* `OutputConfig.ofDatum?`, `PhysicalSize.ofDatum?`, `Slot.ofDatum?`, … — their parts

## Main results

* `Config.ofDatum?_table_nil` — the empty table gives the defaults
-/

namespace Modeset

namespace Datum

/-- A setting that need not be given. -/
def optional {α : Type} (default : α) (read : Datum → Option α) : Option Datum → Option α
  | none => some default
  | some datum => read datum

/-- A setting that must be given. -/
def required {α : Type} (read : Datum → Option α) : Option Datum → Option α
  | none => none
  | some datum => read datum

end Datum

namespace ConnectorKind

/-- The kind that a datum names. -/
def ofDatum? (dialect : Dialect) (datum : Datum) : Option ConnectorKind :=
  (datum.keyword? dialect).bind ofKey?

/-- The datum that names a kind. -/
def toDatum (kind : ConnectorKind) : Datum := .text kind.key

end ConnectorKind

namespace EncoderKind

/-- The kind that a datum names. -/
def ofDatum? (dialect : Dialect) (datum : Datum) : Option EncoderKind :=
  (datum.keyword? dialect).bind ofKey?

/-- The datum that names a kind. -/
def toDatum (kind : EncoderKind) : Datum := .text kind.key

end EncoderKind

namespace Slot

/-- The slot that a datum names, in lower case. -/
def ofDatum? (dialect : Dialect) (datum : Datum) : Option Slot :=
  (datum.keyword? dialect).bind fun name => all.find? (·.text = name)

/-- The datum that names a slot. -/
def toDatum (slot : Slot) : Datum := .text slot.text

end Slot

namespace Power

/-- The state that a datum names, in lower case. -/
def ofDatum? (dialect : Dialect) (datum : Datum) : Option Power :=
  (datum.keyword? dialect).bind fun name => [on, off].find? (·.text = name)

/-- The datum that names a state. -/
def toDatum (power : Power) : Datum := .text power.text

end Power

namespace PhysicalSize

/-- The names of the two lengths. -/
def names : List String := ["width_mm", "height_mm"]

/-- The size that a datum describes. -/
def ofDatum? (dialect : Dialect) (datum : Datum) : Option PhysicalSize := do
  let [width, height] ← datum.fields? dialect names | none
  return { widthMm := ← Datum.required Datum.word? width
           heightMm := ← Datum.required Datum.word? height }

/-- The datum that describes a size. -/
def toDatum (size : PhysicalSize) : Datum :=
  .table [("width_mm", .ofNat size.widthMm.toNat), ("height_mm", .ofNat size.heightMm.toNat)]

end PhysicalSize

namespace OutputConfig

/-- The names of the two kinds. -/
def names : List String := ["connector", "encoder"]

/-- The hardware that a datum describes. -/
def ofDatum? (dialect : Dialect) (datum : Datum) : Option OutputConfig := do
  let [connector, encoder] ← datum.fields? dialect names | none
  return { connector := ← Datum.required (ConnectorKind.ofDatum? dialect) connector
           encoder := ← Datum.required (EncoderKind.ofDatum? dialect) encoder }

/-- The datum that describes the hardware. -/
def toDatum (output : OutputConfig) : Datum :=
  .table [("connector", output.connector.toDatum), ("encoder", output.encoder.toDatum)]

end OutputConfig

namespace Config

/-- The names of the settings. -/
def names : List String :=
  ["device_path", "framebuffer_depth", "framebuffer_bpp", "power_control", "primary", "external"]

/-- The configuration that a datum describes, on top of the defaults. -/
def ofDatum? (dialect : Dialect) (datum : Datum) : Option Config := do
  let [path, depth, bpp, power, primary, external] ← datum.fields? dialect names | none
  return {
    devicePath := ← Datum.optional default.devicePath (·.text?.map Path.ofString) path
    framebufferDepth := ← Datum.optional default.framebufferDepth Datum.word? depth
    framebufferBpp := ← Datum.optional default.framebufferBpp Datum.word? bpp
    powerControl := ← Datum.optional default.powerControl Datum.boolean? power
    primary := ← Datum.optional default.primary (OutputConfig.ofDatum? dialect) primary
    external := ← Datum.optional default.external (OutputConfig.ofDatum? dialect) external }

@[simp] theorem ofDatum?_table_nil (dialect : Dialect) :
    ofDatum? dialect (.table []) = some default := rfl

/-- The datum that describes a configuration, unless the bytes of its device path are no text. -/
def toDatum? (config : Config) : Option Datum :=
  config.devicePath.text?.map fun path =>
    .table [("device_path", .text (String.ofList path)),
      ("framebuffer_depth", .ofNat config.framebufferDepth.toNat),
      ("framebuffer_bpp", .ofNat config.framebufferBpp.toNat),
      ("power_control", .boolean config.powerControl),
      ("primary", config.primary.toDatum),
      ("external", config.external.toDatum)]

end Config

end Modeset
