import Modeset.Config
import Modeset.Datum.Json
import Modeset.Manager
import Modeset.Output.Record
import Modeset.Topology

/-!
# Reports

What the commands print. Tables have columns of fixed width; names of kinds, slots and states are
not filled up with blanks.

## Main definitions

* `topologyReport`, `detectTable`, `detectJson`, `modesReport`, `settingsReport` — the texts
-/

namespace Modeset.Cli

/-- A text of lines. -/
def lines (texts : List String) : String := String.join (texts.map (· ++ "\n"))

/-- A line of dashes. -/
def rule (width : Nat) : String := String.ofList (List.replicate width '-')

/-- A cell of a table, filled up with blanks. -/
def cell (width : Nat) (text : String) : String := Layout.padRight width text ++ " "

/-- A cell with a number. -/
def numberCell (width : Nat) (n : UInt32) : String := cell width (toString n)

/-- A cell with a number that may be missing. -/
def idCell (width : Nat) (id : Option UInt32) : String :=
  cell width ((id.map toString).getD "-")

/-- The row of a connector. -/
def connectorRow (connector : Connector) : String :=
  let size := connector.size
  let area := if size.widthMm = 0 then "-" else s!"{size.widthMm}x{size.heightMm}mm"
  numberCell 6 connector.id ++ cell 14 connector.name ++ connector.connection.text ++ " " ++
    numberCell 8 connector.encoderId ++ cell 10 area ++ toString connector.modes.length

/-- The row of an encoder. -/
def encoderRow (encoder : Encoder) : String :=
  numberCell 6 encoder.id ++ encoder.kind.title ++ " " ++ numberCell 6 encoder.crtcId ++ "0b" ++
    Layout.binary 4 encoder.possibleCrtcs.toNat

/-- The row of a CRTC. -/
def crtcRow (crtc : Crtc) : String :=
  numberCell 6 crtc.id ++ numberCell 8 crtc.bufferId ++
    if crtc.modeValid then crtc.mode.text else "off"

/-- Everything that a device describes. -/
def topologyReport (topology : Topology) : String :=
  let resources := topology.resources
  lines
    (["Krypton - Device Topology", "",
      s!"Framebuffer limits: {resources.minWidth}x{resources.minHeight} .. " ++
        s!"{resources.maxWidth}x{resources.maxHeight}",
      "",
      cell 6 "ID" ++ cell 14 "Connector" ++ cell 14 "Status" ++ cell 8 "Encoder" ++
        cell 10 "Size" ++ "Modes",
      rule 64] ++ topology.connectors.map connectorRow ++
    ["",
      cell 6 "ID" ++ cell 8 "Encoder" ++ cell 6 "CRTC" ++ "Possible CRTCs",
      rule 40] ++ topology.encoders.map encoderRow ++
    ["", cell 6 "ID" ++ cell 8 "FB" ++ "Mode", rule 32] ++ topology.crtcs.map crtcRow)

/-- What has been found for a slot. -/
structure Finding where
  slot : Slot
  outcome : Outcome
  status : OutputStatus
  size : Option PhysicalSize

/-- The row of a slot. -/
def findingRow (finding : Finding) : String :=
  let status := finding.status
  finding.slot.text ++ " " ++ cell 14 finding.outcome.text ++
    cell 18 ((status.mode.map Mode.text).getD "-") ++ idCell 10 status.connectorId ++
    idCell 8 status.encoderId ++ idCell 6 status.crtcId ++ toString status.framebufferId

/-- The lines about the panel of a slot. -/
def panelLines (finding : Finding) : List String :=
  match finding.size with
  | none => []
  | some size =>
    ["", s!"{finding.slot.text} panel: {size.widthMm}x{size.heightMm} mm"]

/-- What has been found, as a table. -/
def detectTable (findings : List Finding) : String :=
  lines
    (["Krypton - Output Detection", "",
      cell 10 "Output" ++ cell 14 "State" ++ cell 18 "Mode" ++ cell 10 "Connector" ++
        cell 8 "Encoder" ++ cell 6 "CRTC" ++ "FB",
      rule 76] ++ findings.map findingRow ++ findings.flatMap panelLines)

/-- What has been found for a slot, as data. -/
def Finding.toDatum (finding : Finding) : Datum :=
  .table
    [("output", .text finding.slot.text), ("outcome", .text finding.outcome.text),
      ("status", finding.status.toDatum)]

/-- What has been found, as JSON. -/
def detectJson (findings : List Finding) : String :=
  lines [Json.render (.list (findings.map Finding.toDatum))]

/-- The row of a mode. The active one is starred, the preferred one has a plus sign. -/
def modeRow (active : Option Mode) (mode : Mode) : String :=
  let mark := if some mode = active then "*" else if mode.isPreferred then "+" else ""
  cell 3 mark ++ cell 18 mode.text ++ cell 10 s!"{mode.clock}kHz" ++ mode.name.text

/-- The modes of a display. -/
def modesReport (slot : Slot) (active : Option Mode) (modes : List Mode) : String :=
  lines
    ([s!"Krypton - {slot.text} Output Modes", "",
      cell 3 "" ++ cell 18 "Mode" ++ cell 10 "Clock" ++ "Name", rule 44] ++
      modes.map (modeRow active) ++ ["", "* active, + preferred"])

/-- The kinds of hardware of an output. -/
def hardwareText (output : OutputConfig) : String :=
  s!"{output.connector.title} via {output.encoder.title}"

/-- The settings of a configuration. -/
def settingsReport (config : Config) : String :=
  lines
    [s!"device_path       = {config.devicePath.display}",
      s!"framebuffer_depth = {config.framebufferDepth}",
      s!"framebuffer_bpp   = {config.framebufferBpp}",
      s!"power_control     = {config.powerControl}",
      s!"primary           = {hardwareText config.primary}",
      s!"external          = {hardwareText config.external}"]

end Modeset.Cli
