import Modeset.Node

/-!
# A scripted kernel

A kernel whose display objects are given beforehand. Setting a CRTC stores what it was given;
removing a framebuffer stops every CRTC that reads it out; numbers for new objects are handed out in
order. A call that fails changes nothing.

## Main definitions

* `Kernel` — the objects, and what is handed out next
* `Kernel.describeConnector`, `Kernel.listResources`, … — the descriptions that the kernel gives
* `Kernel.addFramebuffer`, `Kernel.removeFramebuffer`, `Kernel.setCrtc`, … — the changes

## Main results

* `Kernel.mem_framebuffers_remove` — which framebuffers are left after a removal
-/

namespace Modeset.Simulation

/-- A connector of a scripted kernel. -/
structure ConnectorObject where
  id : UInt32
  record : Node.ConnectorRecord
  props : List UInt32
  propValues : List UInt64
  deriving DecidableEq

/-- An encoder of a scripted kernel. -/
structure EncoderObject where
  id : UInt32
  record : Node.EncoderRecord
  deriving DecidableEq, Repr

/-- A scripted kernel. -/
structure Kernel where
  connectors : List ConnectorObject := []
  encoders : List EncoderObject := []
  crtcs : List Crtc := []
  /-- The properties with their names. -/
  properties : List (UInt32 × List UInt8) := []
  /-- Lists that are given out in the place of the true ones. -/
  listedConnectors : Option (List UInt32) := none
  listedEncoders : Option (List UInt32) := none
  listedCrtcs : Option (List UInt32) := none
  listedFramebuffers : Option (List UInt32) := none
  minWidth : UInt32 := 0
  maxWidth : UInt32 := 8192
  minHeight : UInt32 := 0
  maxHeight : UInt32 := 8192
  /-- The framebuffers that are alive. -/
  framebuffers : List UInt32 := []
  /-- The plain buffers that are alive. -/
  dumbs : List UInt32 := []
  /-- The number of the next framebuffer. -/
  nextFramebuffer : UInt32 := 100
  /-- The handle of the next plain buffer. -/
  nextDumb : UInt32 := 1
  /-- The bytes in a row of a plain buffer are a multiple of this. -/
  pitchAlign : UInt32 := 1

namespace Kernel

/-- A set of live numbers with one more. The number 0 is never alive. -/
def bear (id : UInt32) (alive : List UInt32) : List UInt32 :=
  if id = 0 ∨ id ∈ alive then alive else alive ++ [id]

/-- Numbers in ascending order. -/
def ascending (ids : List UInt32) : List UInt32 := ids.mergeSort (· ≤ ·)

/-- A thing that is there, or the fault that it is not. -/
def orMissing {α : Type} : Option α → Except Fault α
  | some a => .ok a
  | none => .error .noEntry

/-- The lists of objects and the bounds of sizes. -/
def listResources (kernel : Kernel) : ResourceList where
  framebuffers := kernel.listedFramebuffers.getD (ascending kernel.framebuffers)
  crtcs := kernel.listedCrtcs.getD (kernel.crtcs.map (·.id))
  connectors := kernel.listedConnectors.getD (kernel.connectors.map (·.id))
  encoders := kernel.listedEncoders.getD (kernel.encoders.map (·.id))
  minWidth := kernel.minWidth
  maxWidth := kernel.maxWidth
  minHeight := kernel.minHeight
  maxHeight := kernel.maxHeight

/-- The first connector with a number. -/
def findConnector (kernel : Kernel) (id : UInt32) : Except Fault ConnectorObject :=
  orMissing (kernel.connectors.find? (·.id = id))

/-- The first encoder with a number. -/
def findEncoder (kernel : Kernel) (id : UInt32) : Except Fault EncoderObject :=
  orMissing (kernel.encoders.find? (·.id = id))

/-- The first CRTC with a number. -/
def findCrtc (kernel : Kernel) (id : UInt32) : Except Fault Crtc :=
  orMissing (kernel.crtcs.find? (·.id = id))

/-- The name of the first property with a number. -/
def findProperty (kernel : Kernel) (id : UInt32) : Except Fault (List UInt8) :=
  orMissing ((kernel.properties.find? (·.1 = id)).map (·.2))

/-- Change the first thing that `is` selects. -/
def changeFirst {α : Type} (is : α → Bool) (change : α → α) : List α → List α
  | [] => []
  | a :: rest => if is a then change a :: rest else a :: changeFirst is change rest

/-- Change the first thing that `is` selects, or else add a blank one, changed. -/
def upsert {α : Type} (is : α → Bool) (change : α → α) (blank : α) (as : List α) : List α :=
  if as.any is then changeFirst is change as else as ++ [change blank]

/-- Make a framebuffer and give out its number. -/
def addFramebuffer (kernel : Kernel) : UInt32 × Kernel :=
  (kernel.nextFramebuffer,
    { kernel with
      framebuffers := bear kernel.nextFramebuffer kernel.framebuffers
      nextFramebuffer := kernel.nextFramebuffer + 1 })

/-- A CRTC after a framebuffer is gone. -/
def blankCrtc (framebuffer : UInt32) (crtc : Crtc) : Crtc :=
  if crtc.bufferId = framebuffer then
    { crtc with bufferId := 0, modeValid := false, mode := .zero }
  else
    crtc

/-- Take a framebuffer away. Every CRTC that reads it out stops. -/
def removeFramebuffer (kernel : Kernel) (id : UInt32) : Except Fault Kernel :=
  if id ∈ kernel.framebuffers then
    .ok { kernel with
      framebuffers := kernel.framebuffers.filter (· ≠ id)
      crtcs := kernel.crtcs.map (blankCrtc id) }
  else
    .error .noEntry

theorem mem_framebuffers_remove {kernel after : Kernel} {id : UInt32}
    (h : kernel.removeFramebuffer id = .ok after) (other : UInt32) :
    other ∈ after.framebuffers ↔ other ∈ kernel.framebuffers ∧ other ≠ id := by
  unfold removeFramebuffer at h
  split at h
  · cases h; simp
  · cases h

/-- Let a CRTC read out a framebuffer from some place of it, in a mode. -/
def setCrtc (kernel : Kernel) (id framebuffer x y : UInt32) (mode : Option Mode) :
    Except Fault Kernel := do
  let _ ← kernel.findCrtc id
  let change (crtc : Crtc) : Crtc :=
    { crtc with
      bufferId := framebuffer, x, y, modeValid := mode.isSome, mode := mode.getD .zero }
  return { kernel with crtcs := changeFirst (·.id = id) change kernel.crtcs }

/-- Give a property of a connector a value. Of a property that the connector does not have, nothing
is kept. -/
def setProperty (kernel : Kernel) (connector property : UInt32) (value : UInt64) :
    Except Fault Kernel := do
  let object ← kernel.findConnector connector
  let place := object.props.idxOf property
  let change (object : ConnectorObject) : ConnectorObject :=
    { object with
      propValues :=
        if place < object.props.length then object.propValues.set place value
        else object.propValues }
  return { kernel with connectors := changeFirst (·.id = connector) change kernel.connectors }

/-- The bytes in a row of a plain buffer. -/
def pitch (kernel : Kernel) (width bpp : UInt32) : UInt32 :=
  let plain := width.toNat * bpp.toNat / 8
  let align := max kernel.pitchAlign.toNat 1
  ((plain + align - 1) / align * align).toUInt32

/-- Make a plain buffer. -/
def createDumb (kernel : Kernel) (width height bpp : UInt32) : DumbBuffer × Kernel :=
  let pitch := kernel.pitch width bpp
  ({ handle := kernel.nextDumb, pitch, size := pitch.toUInt64 * height.toUInt64 },
    { kernel with
      dumbs := bear kernel.nextDumb kernel.dumbs
      nextDumb := kernel.nextDumb + 1 })

/-- Give a plain buffer back. -/
def destroyDumb (kernel : Kernel) (handle : UInt32) : Except Fault Kernel :=
  if handle ∈ kernel.dumbs then
    .ok { kernel with dumbs := kernel.dumbs.filter (· ≠ handle) }
  else
    .error .noEntry

/-- What a driver hands back for a payload. -/
def echo (payload : List UInt8) : List UInt8 := payload.map (· + 1)

end Kernel

end Modeset.Simulation
