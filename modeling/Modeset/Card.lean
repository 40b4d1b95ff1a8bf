import Modeset.Kms
import Modeset.Node.Request
import Modeset.Node
import Modeset.Text.Layout

/-!
# Cards

A card answers the calls to a device by requests to its node. Object number 0 never reaches the
kernel. Modes are reported in a reduced form, and when one is set, the kernel's own mode that
reduces to it is looked up again among those of the connectors. The card keeps the handles of the
dumb buffers that it made, and destroys no others. A driver command that is interrupted is put
again.

## Main definitions

* `Card` — what a card remembers
* `Card.reduce` — the reported form of a mode
* `Card.kernelMode` — the kernel's mode for a reported one
* `Card.command` — put a driver command until it is not interrupted
* `Card.kms`, `Card.carryOut` — a call to the device, carried out on the node

## Main results

* `Card.mem_insert`, `Card.mem_erase` — the handles that a card keeps
* `Card.objectId_eq_ok` — no other object is refused
-/

namespace Modeset

/-- What a card remembers: where its node is, and the handles of the dumb buffers that it made and
that have not been destroyed. -/
structure Card where
  path : Path := ⟨[]⟩
  dumbs : List UInt32 := []
  deriving DecidableEq, Repr

namespace Card

/-- Put a request to the node. -/
def ask (call : Node.Call) : Proc Node (Node.Answer call) := Proc.ask (S := Node) call

/-- The card with one more dumb buffer. -/
def insert (card : Card) (handle : UInt32) : Card :=
  { card with dumbs := handle :: card.dumbs.filter (· ≠ handle) }

/-- The card without a dumb buffer. -/
def erase (card : Card) (handle : UInt32) : Card :=
  { card with dumbs := card.dumbs.filter (· ≠ handle) }

@[simp] theorem mem_insert (card : Card) (handle other : UInt32) :
    other ∈ (card.insert handle).dumbs ↔ other = handle ∨ other ∈ card.dumbs := by
  simp only [insert, List.mem_cons, List.mem_filter, decide_not, Bool.not_eq_true',
    decide_eq_false_iff_not]
  by_cases h : other = handle <;> simp [h]

@[simp] theorem mem_erase (card : Card) (handle other : UInt32) :
    other ∈ (card.erase handle).dumbs ↔ other ∈ card.dumbs ∧ other ≠ handle := by
  simp [erase]

/-- The timing flags that are reported. -/
def flagMask : UInt32 := 0x3FFFF

/-- The bits of a mode's kind that are reported. -/
def kindMask : UInt32 := 0x7F

/-- A mode as it is reported: without the flags and kinds that have no name, and with the text of
its name only. -/
def reduce (mode : Mode) : Mode :=
  { mode with
    flags := mode.flags &&& flagMask
    kind := mode.kind &&& kindMask
    name := .ofText mode.name.text }

/-- Refuse object number 0. -/
def objectId (id : UInt32) : Except Fault UInt32 :=
  if id = 0 then .error (.invalidInput "object id 0 is not a valid handle") else .ok id

theorem objectId_eq_ok {id : UInt32} (nonzero : id ≠ 0) : objectId id = .ok id := if_neg nonzero

/-- The kernel's own mode that is reported as `mode`: the first one in the connectors' lists. -/
def kernelMode (mode : Mode) : List UInt32 → Proc Node (Except Fault Mode)
  | [] =>
    return .error (.invalidInput s!"mode {mode.text} is not offered by the target connectors")
  | id :: rest => do
    match ← ask (.connector id false) with
    | .error fault => return .error fault
    | .ok record =>
      match record.modes.find? (reduce · = mode) with
      | some found => return .ok found
      | none => kernelMode mode rest

/-- Describe a connector: the kernel gives its record and its properties apart. -/
def connector (id : UInt32) : Proc Node (Except Fault Connector) := do
  match objectId id with
  | .error fault => return .error fault
  | .ok id =>
    match ← ask (.connector id true) with
    | .error fault => return .error fault
    | .ok record =>
      match ← ask (.properties id) with
      | .error fault => return .error fault
      | .ok properties =>
        return .ok
          { id
            encoderId := record.encoderId
            kind := .ofNumber record.kind
            kindId := record.kindId
            connection := .ofNumber record.connection
            size := record.size
            modes := record.modes.map reduce
            props := properties.map (·.1)
            propValues := properties.map (·.2)
            encoders := record.encoders }

/-- The entries of a list whose places are the set bits of a mask. -/
def selected (mask : UInt32) (ids : List UInt32) : List UInt32 :=
  (ids.zipIdx.filter fun (_, place) => mask.toNat.testBit place).map (·.1)

/-- The mask of the places at which a list has one of the chosen entries. Places past the last bit
are not in it. -/
def maskOf (chosen ids : List UInt32) : UInt32 :=
  ids.zipIdx.foldl
    (fun mask (id, place) =>
      if id ∈ chosen ∧ place < 32 then mask ||| (1 : UInt32) <<< place.toUInt32 else mask)
    0

/-- Describe an encoder. Which CRTCs could feed it is said by number, so that a CRTC that is listed
twice counts at both places. -/
def encoder (id : UInt32) : Proc Node (Except Fault Encoder) := do
  match objectId id with
  | .error fault => return .error fault
  | .ok id =>
    match ← ask (.encoder id) with
    | .error fault => return .error fault
    | .ok record =>
      match ← ask .resources with
      | .error fault => return .error fault
      | .ok resources =>
        return .ok
          { id
            kind := .ofNumber record.kind
            crtcId := record.crtcId
            possibleCrtcs :=
              maskOf (selected record.possibleCrtcs resources.crtcs) resources.crtcs }

/-- Describe a CRTC. Where no mode is running, none is reported. -/
def crtc (id : UInt32) : Proc Node (Except Fault Crtc) := do
  match objectId id with
  | .error fault => return .error fault
  | .ok id =>
    match ← ask (.crtc id) with
    | .error fault => return .error fault
    | .ok crtc =>
      let mode := if crtc.modeValid then reduce crtc.mode else .zero
      return .ok { crtc with id, mode }

/-- Describe a property. -/
def property (id : UInt32) : Proc Node (Except Fault Property) := do
  match objectId id with
  | .error fault => return .error fault
  | .ok id =>
    match ← ask (.property id) with
    | .error fault => return .error fault
    | .ok name => return .ok { id, name := name.text }

/-- Make a framebuffer of a buffer. -/
def addFramebuffer (spec : FramebufferSpec) : Proc Node (Except Fault UInt32) := do
  match objectId spec.handle with
  | .error fault => return .error fault
  | .ok _ => ask (.addFramebuffer spec)

/-- Take a framebuffer away. -/
def removeFramebuffer (id : UInt32) : Proc Node (Except Fault Unit) := do
  match objectId id with
  | .error fault => return .error fault
  | .ok id => ask (.removeFramebuffer id)

/-- The kernel's own mode for a reported one, if any is to be set. -/
def kernelMode? (connectors : List UInt32) :
    Option Mode → Proc Node (Except Fault (Option Mode))
  | none => return .ok none
  | some mode => return (← kernelMode mode connectors).map some

/-- Let a CRTC read out a framebuffer. -/
def setCrtc (id framebuffer x y : UInt32) (connectors : List UInt32) (mode : Option Mode) :
    Proc Node (Except Fault Unit) := do
  match objectId id, connectors.mapM objectId with
  | .error fault, _ | .ok _, .error fault => return .error fault
  | .ok id, .ok connectors =>
    match ← kernelMode? connectors mode with
    | .error fault => return .error fault
    | .ok mode => ask (.setCrtc id framebuffer x y connectors mode)

/-- Give a property of a connector a value. -/
def setConnectorProperty (connector property : UInt32) (value : UInt64) :
    Proc Node (Except Fault Unit) := do
  match objectId connector, objectId property with
  | .error fault, _ | .ok _, .error fault => return .error fault
  | .ok connector, .ok property => ask (.setProperty connector property value)

/-- Make a dumb buffer and keep its handle. -/
def createDumb (width height bpp : UInt32) : StateT Card (Proc Node) (Except Fault DumbBuffer) :=
  fun card => do
    match ← ask (.createDumb width height bpp) with
    | .error fault => return (.error fault, card)
    | .ok dumb =>
      return (.ok { dumb with size := dumb.pitch.toUInt64 * height.toUInt64 },
        card.insert dumb.handle)

/-- Destroy a dumb buffer of this card. Its handle is not kept, whatever the kernel says. -/
def destroyDumb (handle : UInt32) : StateT Card (Proc Node) (Except Fault Unit) :=
  fun card => do
    if handle ∈ card.dumbs then
      return (← ask (.destroyDumb handle), card.erase handle)
    else
      return (.error (.described .notFound s!"no dumb buffer with handle {handle}"), card)

/-- Note that a command has failed. -/
def giveUp (request : UInt32) (fault : Fault) : Proc Node (Except Fault (List UInt8)) := do
  Proc.trace .card s!"ioctl 0x{Layout.hex 8 request.toNat} failed: {fault.message}"
  return .error fault

/-- Put a driver command, and put it again as often as `retries` says when it is interrupted. -/
def command (request : UInt32) (payload : List UInt8) (retries : Nat) :
    Proc Node (Except Fault (List UInt8)) := do
  match ← ask (.command request payload) with
  | .ok reply => return .ok reply
  | .error fault =>
    if fault.isInterruption then
      match retries with
      | 0 => giveUp request fault
      | retries + 1 => command request payload retries
    else
      giveUp request fault

/-- Put a driver's own command. -/
def driverCommand (retries : Nat) (index : UInt32) (payload : List UInt8)
    (direction : Request.Direction) : Proc Node (Except Fault (List UInt8)) := do
  match Request.command? index payload.length direction with
  | .error fault => return .error fault
  | .ok request => command request payload retries

/-- Carry out a call to the device. -/
def kms (retries : Nat) :
    (call : Kms.Call) → StateT Card (Proc Node) (Kms.Answer call)
  | .resources => ask .resources
  | .connector id => connector id
  | .encoder id => encoder id
  | .crtc id => crtc id
  | .property id => property id
  | .addFramebuffer spec => addFramebuffer spec
  | .removeFramebuffer id => removeFramebuffer id
  | .setCrtc id framebuffer x y connectors mode => setCrtc id framebuffer x y connectors mode
  | .setConnectorProperty id property value => setConnectorProperty id property value
  | .createDumb width height bpp => createDumb width height bpp
  | .destroyDumb handle => destroyDumb handle
  | .commandWrite index payload => do
    return (← driverCommand retries index payload .write).map fun _ => ()
  | .commandWriteRead index payload => driverCommand retries index payload .writeRead

/-- Open the node at a path. -/
def openNode (path : Path) : StateT Card (Proc Node) (Except Fault Unit) :=
  fun card => do
    match ← ask (.openFile path) with
    | .error fault => return (.error fault, card)
    | .ok descriptor =>
      Proc.debug .card s!"Opened DRM device {path.quoted} (fd {descriptor})"
      return (.ok (), { path })

/-- How often an interrupted command is put again. -/
def patience : Nat := 1000000

/-- Carry out a call that concerns a device on its node. -/
def carryOut (retries : Nat) :
    (call : Device.Call) → StateT Card (Proc Node) (Device.Answer call)
  | .openNode path => openNode path
  | .closeNode => ask .closeFile
  | .kms call => kms retries call

end Card

end Modeset
