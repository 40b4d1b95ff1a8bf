import Modeset.Error
import Modeset.Platform

/-!
# Topology

The objects of a device, described one by one. An object that the device lists but cannot describe
is passed over with a warning, and so is an empty entry of a list.

## Main definitions

* `Topology` — everything a device describes
* `Topology.read` — ask the device for it
* `Topology.describeAll`, `Topology.findDescribed` — the objects of a list, or the first that is
  wanted
* `Topology.attachedOr` — an object that is attached to another one, or else one that a scan finds
-/

namespace Modeset

/-- Everything a device describes. -/
structure Topology where
  resources : ResourceList
  connectors : List Connector
  encoders : List Encoder
  crtcs : List Crtc
  deriving DecidableEq

namespace Topology

/-- Ask the device what objects it has. -/
def listResources : Proc Platform (Except Error ResourceList) := do
  match ← Platform.kms .resources with
  | .ok resources => return .ok resources
  | .error fault =>
    Proc.error .discovery s!"Failed to get DRM resources: {fault.message}"
    return .error (.resourceQuery fault.message)

section Description

variable {α : Type} (what : String) (describe : UInt32 → Proc Platform (Except Fault α))

/-- Describe one entry of a list, if it is an object and the device can. -/
def describeEntry (id : UInt32) : Proc Platform (Option α) := do
  if id = 0 then
    Proc.warn .discovery s!"Kernel resource list has an empty {what} entry"
    return none
  match ← describe id with
  | .ok object => return some object
  | .error fault =>
    Proc.warn .discovery s!"Failed to get {what} {id}: {fault.message}"
    return none

/-- Describe every object of a list. -/
def describeAll : List UInt32 → Proc Platform (List α)
  | [] => return []
  | id :: rest => do
    match ← describeEntry what describe id with
    | none => describeAll rest
    | some object => return object :: (← describeAll rest)

/-- Describe the objects of a list up to the first one that is wanted. -/
def findDescribed (wanted : α → Bool) : List UInt32 → Proc Platform (Option α)
  | [] => return none
  | id :: rest => do
    match ← describeEntry what describe id with
    | none => findDescribed wanted rest
    | some object => if wanted object then return some object else findDescribed wanted rest

/-- The object that is attached to another one by its number, if the device can describe it, and
otherwise what a scan finds. -/
def attachedOr (id : UInt32) (attached : String) (undescribed : Fault → String)
    (scan : Proc Platform (Option α)) : Proc Platform (Option α) := do
  if id = 0 then
    scan
  else
    Proc.info .discovery attached
    match ← describe id with
    | .ok object => return some object
    | .error fault =>
      Proc.warn .discovery (undescribed fault)
      scan

end Description

/-- Ask the device for a connector. -/
def connector (id : UInt32) : Proc Platform (Except Fault Connector) :=
  Platform.kms (.connector id)

/-- Ask the device for an encoder. -/
def encoder (id : UInt32) : Proc Platform (Except Fault Encoder) :=
  Platform.kms (.encoder id)

/-- Ask the device for a CRTC. -/
def crtc (id : UInt32) : Proc Platform (Except Fault Crtc) :=
  Platform.kms (.crtc id)

/-- Ask the device for everything it can describe. -/
def read : Proc Platform (Except Error Topology) := do
  match ← listResources with
  | .error error => return .error error
  | .ok resources =>
    let connectors ← describeAll "connector" connector resources.connectors
    let encoders ← describeAll "encoder" encoder resources.encoders
    let crtcs ← describeAll "crtc" crtc resources.crtcs
    return .ok { resources, connectors, encoders, crtcs }

end Topology

end Modeset
