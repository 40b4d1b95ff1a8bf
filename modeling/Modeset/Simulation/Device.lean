import Modeset.Simulation.Machine

/-!
# A simulated device

The calls to a device, answered by the scripted kernel without anything in between: objects are
handed over as the script has them. All calls are traced.

## Main definitions

* `device`, `pool`, `platform` — the answers to the calls of those signatures
-/

namespace Modeset.Simulation

open Machine

/-- A connector as the script has it. -/
def describeConnector (object : ConnectorObject) : Connector where
  id := object.id
  encoderId := object.record.encoderId
  kind := .ofNumber object.record.kind
  kindId := object.record.kindId
  connection := .ofNumber object.record.connection
  size := object.record.size
  modes := object.record.modes
  props := object.props
  propValues := object.propValues
  encoders := object.record.encoders

/-- An encoder as the script has it. -/
def describeEncoder (object : EncoderObject) : Encoder where
  id := object.id
  kind := .ofNumber object.record.kind
  crtcId := object.record.crtcId
  possibleCrtcs := object.record.possibleCrtcs

/-- Answer a call to the open device. -/
def kms : (call : Kms.Call) → Run (Kms.Answer call)
  | .resources =>
    perform "resources" showDone "resources" none (look fun kernel => .ok kernel.listResources)
  | .connector id =>
    perform s!"connector {id}" showDone "connector" (some id)
      (look fun kernel => (kernel.findConnector id).map describeConnector)
  | .encoder id =>
    perform s!"encoder {id}" showDone "encoder" (some id)
      (look fun kernel => (kernel.findEncoder id).map describeEncoder)
  | .crtc id => perform s!"crtc {id}" showDone "crtc" (some id) (look (·.findCrtc id))
  | .property id =>
    perform s!"property {id}" showDone "property" (some id)
      (look fun kernel =>
        (kernel.findProperty id).map fun name => { id, name := Utf8.lossy name })
  | .addFramebuffer spec =>
    perform (framebufferLine spec) toString "add_fb" none fun kernel => .ok kernel.addFramebuffer
  | .removeFramebuffer id =>
    perform s!"rm_fb {id}" showDone "rm_fb" (some id) (change (·.removeFramebuffer id))
  | .setCrtc id framebuffer x y connectors mode =>
    perform (crtcLine id framebuffer x y connectors mode) showDone "set_crtc" (some id)
      (change (·.setCrtc id framebuffer x y mode))
  | .setConnectorProperty connector property value =>
    perform (propertyLine connector property value) showDone "set_property" (some connector)
      (change (·.setProperty connector property value))
  | .createDumb width height bpp =>
    perform (dumbLine width height bpp) (fun dumb => toString dumb.handle) "create_dumb" none
      fun kernel => .ok (kernel.createDumb width height bpp)
  | .destroyDumb handle =>
    perform s!"destroy_dumb {handle}" showDone "destroy_dumb" (some handle)
      (change (·.destroyDumb handle))
  | .commandWrite index payload =>
    perform s!"command_write {index} data={Layout.payload payload}" showDone "command" none
      (look fun _ => .ok ())
  | .commandWriteRead index payload =>
    perform s!"command_write_read {index} data={Layout.payload payload}" showDone "command" none
      (look fun _ => .ok (Kernel.echo payload))

/-- Answer a call that concerns the device. -/
def device : (call : Device.Call) → Run (Device.Answer call)
  | .openNode path => do
    let outcome ← perform s!"open {path.display}" showDone "open" none (look fun _ => .ok ())
    if outcome.isOk then
      modify fun machine => { machine with opens := machine.opens + 1 }
    return outcome
  | .closeNode => do
    addLine "close"
    modify fun machine => { machine with closes := machine.closes + 1 }
  | .kms call => kms call

/-- Take the next memory handle. -/
def allocate (width height : UInt32) : Run (Except Fault Buffer) := do
  let outcome ←
    match ← nextFault "alloc" none with
    | some fault => pure (.error fault)
    | none => do
      let handle := (← get).nextBuffer
      modify fun machine =>
        { machine with
          buffers := Kernel.bear handle machine.buffers
          nextBuffer := handle + 1 }
      pure (.ok { handle, stride := width * 4 : Buffer })
  addLine (s!"alloc {width}x{height} -> " ++
    showOutcome (fun buffer : Buffer => toString buffer.handle) outcome)
  return outcome

/-- Take a memory handle back. -/
def release (handle : UInt32) : Run Unit := do
  let outcome := if handle ∈ (← get).buffers then "ok" else "not live"
  modify fun machine => { machine with buffers := machine.buffers.filter (· ≠ handle) }
  addLine s!"release {handle} -> {outcome}"

/-- Answer a call to the pool. -/
def pool : (call : Pool.Call) → Run (Pool.Answer call)
  | .allocate width height => allocate width height
  | .release handle => release handle

/-- Answer a call to a platform. -/
def platform : (call : Platform.Call) → Run (Platform.Answer call)
  | .inl call => device call
  | .inr call => pool call

end Modeset.Simulation
