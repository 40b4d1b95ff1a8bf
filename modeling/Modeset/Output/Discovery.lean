import Modeset.Mode.Choice
import Modeset.Output.Commit
import Modeset.Topology

/-!
# Discovery

How the display of a slot is found. The first connector of the configured kind is the slot's. If a
display is plugged in, the encoder attached to the connector is taken, or else the first one of the
configured kind; then the CRTC attached to the encoder, or else the first one that reads nothing
out. A mode that is already running is kept; otherwise the one that the display prefers is set.

## Main definitions

* `Outcome` — what has been found for a slot
* `Output.resolveEncoder`, `Output.resolveCrtc` — the objects that serve a connector
* `Output.discover` — find the display of a slot
-/

namespace Modeset

/-- What has been found for a slot. -/
inductive Outcome
  /-- A display is there and this mode is active. -/
  | connected (mode : Mode)
  /-- The connector is there but no display is in it. -/
  | disconnected
  /-- The external output cannot be used on this device. -/
  | disabled
  deriving DecidableEq

namespace Outcome

/-- The name of an outcome. -/
def text : Outcome → String
  | connected _ => "connected"
  | disconnected => "disconnected"
  | disabled => "disabled"

/-- The mode of a display that is there. -/
def mode? : Outcome → Option Mode
  | connected mode => some mode
  | disconnected | disabled => none

/-- Whether a display is there. -/
def isConnected (outcome : Outcome) : Bool := outcome.mode?.isSome

end Outcome

namespace Output

/-- The encoder that serves a connector. -/
def resolveEncoder (resources : ResourceList) (connector : Connector) (wanted : EncoderKind) :
    Proc Platform (Option Encoder) :=
  Topology.attachedOr Topology.encoder connector.encoderId
    s!"Connector {connector.name} has encoder {connector.encoderId} attached"
    (fun fault =>
      s!"Failed to get attached encoder {connector.encoderId}: {fault.message}, scanning for one")
    do
      Proc.debug .discovery s!"Scanning for a {wanted.title} encoder for {connector.name}"
      Topology.findDescribed "encoder" Topology.encoder (·.kind = wanted) resources.encoders

/-- The CRTC that feeds an encoder. -/
def resolveCrtc (resources : ResourceList) (encoder : Encoder) : Proc Platform (Option Crtc) :=
  Topology.attachedOr Topology.crtc encoder.crtcId
    s!"Encoder {encoder.id} has CRTC {encoder.crtcId} attached"
    (fun fault =>
      s!"Failed to get attached CRTC {encoder.crtcId}: {fault.message}, " ++
        "scanning for a spare one")
    do
      Proc.debug .discovery s!"Scanning for a spare CRTC for encoder {encoder.id}"
      Topology.findDescribed "crtc" Topology.crtc Crtc.isSpare resources.crtcs

/-- Make the mode that the display prefers the active one. -/
def setPreferred (config : Config) (output : Output) : Proc Platform (Except Error Unit × Output) :=
  match Mode.choose? (fun _ => false) ((output.connector.map (·.modes)).getD []) with
  | none => return (.error .noModes, output)
  | some mode => output.commit config mode

/-- Give an output that has just been found a mode: the one that its CRTC is running, or the
preferred one. -/
def bringUp (config : Config) (slot : Slot) (crtc : Crtc) (output : Output) :
    Proc Platform (Except Error Outcome × Output) := do
  if crtc.modeValid then
    Proc.info .discovery
      s!"{slot.text} output already has mode {crtc.mode.text} programmed, keeping it"
    return (.ok (.connected crtc.mode), { output with mode := crtc.mode })
  else
    Proc.info .discovery s!"{slot.text} output has no valid mode, setting preferred mode"
    let (outcome, output) ← output.setPreferred config
    return (outcome.map fun () => .connected output.mode, output)

/-- The output with a display and the objects that serve it. -/
def withDisplay (output : Output) (connector : Connector) (encoder : Encoder) (crtc : Crtc) :
    Output :=
  { output with
    connected := true
    connector := some connector
    encoder := some encoder
    crtc := some crtc }

/-- Find the display of a slot and fill in its output. If that fails the output may be filled in
partly, and is to be reset. -/
def discover (config : Config) (slot : Slot) (output : Output) :
    Proc Platform (Except Error Outcome × Output) := do
  match ← Topology.listResources with
  | .error error => return (.error error, output)
  | .ok resources =>
    let wanted := config.output slot
    match ← Topology.findDescribed "connector" Topology.connector (·.kind = wanted.connector)
        resources.connectors with
    | none => return (.error (.connectorNotFound slot.device wanted.connector.title), output)
    | some connector =>
      if connector.isConnected then
        match ← resolveEncoder resources connector wanted.encoder with
        | none =>
          return (.error (.encoderResolution s!"no usable encoder for {connector.name}"), output)
        | some encoder =>
          match ← resolveCrtc resources encoder with
          | none =>
            return (.error (.crtcResolution s!"no usable CRTC for encoder {encoder.id}"), output)
          | some crtc =>
            bringUp config slot crtc (output.withDisplay connector encoder crtc)
      else
        Proc.info .discovery s!"{slot.text} output ({connector.name}) is not connected"
        return (.ok .disconnected, output)

end Output

end Modeset
