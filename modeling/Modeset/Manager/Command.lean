import Modeset.Manager
import Modeset.Payload

/-!
# Driver commands

A driver has commands of its own, which the manager passes on without knowing them. A command may
hand its payload back changed.

## Main definitions

* `Manager.write`, `Manager.writeRead` — pass a command on, with bytes
* `Manager.writeValue`, `Manager.writeReadValue` — the same with a plain value
-/

namespace Modeset.Manager

/-- The error for a command that failed. What carries no error number never reached the driver. -/
def commandError (command : UInt32) (fault : Fault) : Proc Platform Error := do
  match fault.errno? with
  | some errno =>
    Proc.warn .manager s!"Failed to call ioctl 0x{Layout.hex 2 command.toNat}: {fault.message}"
    return .command command errno
  | none => return .invalidArgument fault.message

/-- Pass a command with a payload on, by a call of which only the kind of reply is known here. -/
def passOn {α : Type} (manager : Manager) (command : UInt32) (payload : List UInt8)
    (call : Proc Platform (Except Fault α)) : Proc Platform (Except Error α) := do
  if !manager.isOpen then
    return .error .notInitialized
  if payload.isEmpty then
    Proc.error .manager s!"Empty payload for ioctl 0x{Layout.hex 2 command.toNat}"
    return .error (.invalidArgument "empty ioctl payload")
  match ← call with
  | .ok reply => return .ok reply
  | .error fault => return .error (← commandError command fault)

/-- Send a command. -/
def write (manager : Manager) (command : UInt32) (payload : List UInt8) :
    Proc Platform (Except Error Unit) :=
  manager.passOn command payload (Platform.kms (.commandWrite command payload))

/-- Send a command and get its payload back. -/
def writeRead (manager : Manager) (command : UInt32) (payload : List UInt8) :
    Proc Platform (Except Error (List UInt8)) :=
  manager.passOn command payload (Platform.kms (.commandWriteRead command payload))

/-- Send a command with a plain value. -/
def writeValue {α : Type} [Plain α] (manager : Manager) (command : UInt32) (value : α) :
    Proc Platform (Except Error Unit) :=
  manager.write command (Plain.toBytes value)

/-- Send a command with a plain value and get the value back. -/
def writeReadValue {α : Type} [Plain α] (manager : Manager) (command : UInt32) (value : α) :
    Proc Platform (Except Error α) :=
  return (← manager.writeRead command (Plain.toBytes value)).map Plain.ofBytes

end Modeset.Manager
