import Modeset.Manager
import Modeset.Power

/-!
# Switching displays on and off

A display is switched through the DPMS property of its connector. This is off in the configuration
unless asked for, since not all hardware bears it.

## Main definitions

* `Manager.setPower` — switch the display of a slot on or off
-/

namespace Modeset.Manager

/-- The name of the property that switches a display. -/
def powerProperty : String := "DPMS"

/-- Put the first property of the list that has the right name to the value of a state. -/
def setPowerProperty (connector : Connector) (power : Power) :
    List UInt32 → Proc Platform (Except Error Unit)
  | [] => return .error (.unsupported s!"{connector.name} has no DPMS property")
  | id :: rest => do
    match ← Platform.kms (.property id) with
    | .error _ => setPowerProperty connector power rest
    | .ok property =>
      if property.name ≠ powerProperty then
        setPowerProperty connector power rest
      else
        match ← Platform.kms (.setConnectorProperty connector.id id power.dpms) with
        | .ok () => return .ok ()
        | .error fault =>
          Proc.error .manager
            s!"Unable to set DPMS {power.title} on {connector.name}: {fault.message}"
          return .error (.inContext s!"setting DPMS on {connector.name}" (.io fault))

/-- Switch the display of a device number's slot on or off. -/
def setPower (manager : Manager) (device : UInt32) (power : Power) :
    Proc Platform (Except Error Unit) := do
  if !manager.config.powerControl then
    Proc.warn .manager "DPMS ignored, power_control is disabled"
    return .error (.unsupported "power control is disabled")
  if !manager.isOpen then
    return .error .notInitialized
  match Slot.ofDevice? device with
  | none => return .error (.invalidDevice device)
  | some slot =>
    match (manager.output slot).display? with
    | none => return .error (.notConnected device)
    | some connector => setPowerProperty connector power connector.props

end Modeset.Manager
