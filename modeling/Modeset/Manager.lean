import Modeset.Output.Discovery

/-!
# The display manager

The manager opens the device node, finds the displays of the two slots, sets their modes, and gives
everything back when it closes the node. It is a value: an operation is a procedure that returns its
result and the manager after it.

## Main definitions

* `Manager` — a configuration, whether the device node is open, and the outputs
* `Manager.start`, `Manager.stop`, `Manager.drop` — open and close the node
* `Manager.detect` — find the display of a slot
* `Manager.setMode`, `Manager.setRefreshRate` — change the mode of the external output
* `Manager.mode`, `Manager.modes`, `Manager.physicalSize`, `Manager.isConnected`, `Manager.status`
  — what is known of a slot

## Main results

* `Manager.output_new` — a new manager holds nothing
* `Manager.output_hold_same`, `Manager.output_hold_of_ne` — what is held for a slot after a change
-/

namespace Modeset

/-- A display manager. -/
structure Manager where
  config : Config
  /-- Whether the device node is open. -/
  isOpen : Bool := false
  outputs : Outputs := {}
  deriving DecidableEq

namespace Manager

/-- A manager that has not opened its device node. -/
def new (config : Config) : Manager := { config }

/-- Whether the device node is open. -/
def isInitialized (manager : Manager) : Bool := manager.isOpen

/-- What is held for a slot. -/
def output (manager : Manager) (slot : Slot) : Output := manager.outputs.get slot

@[simp] theorem output_new (config : Config) (slot : Slot) : (new config).output slot = .idle := by
  cases slot <;> rfl

/-- The manager with something else held for a slot. -/
def hold (manager : Manager) (slot : Slot) (output : Output) : Manager :=
  { manager with outputs := manager.outputs.set output slot }

@[simp] theorem output_hold_same (manager : Manager) (slot : Slot) (output : Output) :
    (manager.hold slot output).output slot = output :=
  manager.outputs.get_set_same output slot

/-- Holding what is held changes nothing. -/
@[simp] theorem hold_output (manager : Manager) (slot : Slot) :
    manager.hold slot (manager.output slot) = manager := by
  cases slot <;> rfl

theorem output_hold_of_ne (manager : Manager) {slot other : Slot} (output : Output)
    (h : other ≠ slot) : (manager.hold slot output).output other = manager.output other :=
  manager.outputs.get_set_of_ne output h

/-- Open the device node, unless it is open already. -/
def start (manager : Manager) : Proc Platform (Except Error Unit × Manager) := do
  if manager.isOpen then
    Proc.warn .manager "DRM device is already initialized"
    return (.ok (), manager)
  let path := manager.config.devicePath
  match ← Platform.openNode path with
  | .error fault =>
    Proc.error .manager s!"Failed to open DRM device {path.quoted}: {fault.message}"
    return (.error (.deviceOpen path fault), manager)
  | .ok () =>
    Proc.info .manager s!"Opened DRM device {path.quoted}"
    return (.ok (), { manager with isOpen := true, outputs := {} })

/-- Give everything back and close the device node, if it is open. -/
def stop (manager : Manager) : Proc Platform Manager := do
  let outputs ← manager.outputs.reset manager.isOpen
  if manager.isOpen then
    Platform.closeNode
    Proc.info .manager s!"Closed DRM device {manager.config.devicePath.quoted}"
  return { manager with isOpen := false, outputs }

/-- Leave the manager. A node that is still open is closed, after everything has been given back. -/
def drop (manager : Manager) : Proc Platform Unit := do
  if manager.isOpen then
    Proc.warn .manager "DisplayManager dropped without deinitialize(), releasing outputs"
    let _ ← manager.outputs.reset true
    Platform.closeNode

/-- Find the display of a slot and bring it up. What the slot held is given up first. That the
external output cannot be used on this device is no error. -/
def detectSlot (manager : Manager) (slot : Slot) :
    Proc Platform (Except Error Outcome × Manager) := do
  let output ← (manager.output slot).reset true
  match ← Output.discover manager.config slot output with
  | (.ok outcome, output) =>
    if let .connected mode := outcome then
      Proc.info .manager s!"{slot.text} output mode is {mode.text}"
    return (.ok outcome, manager.hold slot output)
  | (.error error, output) =>
    let output ← output.reset true
    if slot = .external ∧ error.isUnresolved then
      Proc.warn .manager s!"External output is disabled: {error.message}"
      return (.ok .disabled, manager.hold slot output)
    else
      Proc.error .manager s!"Failed to detect {slot.text} output: {error.message}"
      return (.error error, manager.hold slot output)

/-- Find the display of a device number's slot and bring it up. -/
def detect (manager : Manager) (device : UInt32) :
    Proc Platform (Except Error Outcome × Manager) :=
  if manager.isOpen then
    match Slot.ofDevice? device with
    | none => return (.error (.invalidDevice device), manager)
    | some slot => manager.detectSlot slot
  else
    return (.error .notInitialized, manager)

/-- Set the mode that is chosen from the list of the external output's connector. Whether a mode of
the list is exactly what is wanted may depend on the active mode, the second argument of `exact`. -/
def changeMode (manager : Manager) (device : UInt32) (exact : Mode → Mode → Bool) :
    Proc Platform (Except Error Unit × Manager) := do
  if !manager.isOpen then
    return (.error .notInitialized, manager)
  if Slot.ofDevice? device ≠ some .external then
    Proc.warn .manager s!"Setting mode on invalid device {device}"
    return (.error (.invalidDevice device), manager)
  let output := manager.output .external
  match output.display? with
  | none => return (.error (.notConnected device), manager)
  | some connector =>
    match Mode.choose? (exact · output.mode) connector.modes with
    | none => return (.error .noModes, manager)
    | some mode =>
      let (outcome, output) ← output.commit manager.config mode
      return (outcome, manager.hold .external output)

/-- Switch the external output to a mode: the listed one that satisfies the wish, or else the one
that the display prefers. -/
def setMode (manager : Manager) (device : UInt32) (mode : Mode) :
    Proc Platform (Except Error Unit × Manager) :=
  manager.changeMode device fun candidate _ => mode.satisfiedBy candidate

/-- Switch the external output to another rate at its size. -/
def setRefreshRate (manager : Manager) (device : UInt32) (hz : UInt32) :
    Proc Platform (Except Error Unit × Manager) :=
  manager.changeMode device fun candidate active =>
    candidate.hdisplay = active.hdisplay ∧ candidate.vdisplay = active.vdisplay ∧
      candidate.vrefresh = hz

/-- The slot of a device number. A number without a slot is noted. -/
def slot? (device : UInt32) : Proc Platform (Option Slot) := do
  match Slot.ofDevice? device with
  | some slot => return some slot
  | none => do
    Proc.debug .manager s!"Invalid display device {device}"
    return none

/-- What is held for the slot of a device number, if there is such a slot. -/
def output? (manager : Manager) (device : UInt32) : Proc Platform (Option Output) :=
  return (← slot? device).map manager.output

/-- The active mode of a display. -/
def mode (manager : Manager) (device : UInt32) : Proc Platform (Option Mode) :=
  return (← manager.output? device).bind (·.activeMode?)

/-- The modes that a display supports. -/
def modes (manager : Manager) (device : UInt32) : Proc Platform (Option (List Mode)) :=
  return ((← manager.output? device).bind (·.display?)).map (·.modes)

/-- The area of a display. -/
def physicalSize (manager : Manager) (device : UInt32) : Proc Platform (Option PhysicalSize) :=
  return ((← manager.output? device).bind (·.display?)).map (·.size)

/-- Whether a display has been found. -/
def isConnected (manager : Manager) (device : UInt32) : Proc Platform Bool :=
  return ((← manager.output? device).map (·.connected)).getD false

/-- The status of the slot of a device number. -/
def status (manager : Manager) (device : UInt32) : Proc Platform (Option OutputStatus) :=
  return (← manager.output? device).map (·.status)

/-- Everything that the device describes. -/
def topology (manager : Manager) : Proc Platform (Except Error Topology) :=
  if manager.isOpen then Topology.read else return .error .notInitialized

end Manager

end Modeset
