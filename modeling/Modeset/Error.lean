import Modeset.Fault
import Modeset.Path
import Modeset.Text.Layout

/-!
# Errors

Why an operation on the display outputs failed. Errors are causes; the words for them are in one
function. An error may be wrapped in context, which adds to its text and to nothing else.

## Main definitions

* `Error` — the causes
* `Error.message` — the text of an error
* `Error.root` — the error inside all context
* `Error.errno?`, `Error.hint?`, `Error.isRecoverable` — what is known of an error, by its root
* `Error.sources` — the errors and faults that an error was made from
* `Error.source?`, `Error.Source.next?` — the nearest of them
* `Error.addContext` — an outcome with context, if it is an error

## Main results

* `Error.root_inContext`, `Error.errno?_inContext`, `Error.hint?_inContext`,
  `Error.isRecoverable_inContext`, `Error.isUnresolved_inContext` — context changes none of them
-/

namespace Modeset

/-- Why an operation failed. -/
inductive Error
  /-- The device node is not open. -/
  | notInitialized
  /-- No slot has this number. -/
  | invalidDevice (device : UInt32)
  /-- The kernel gave no list of its objects. -/
  | resourceQuery (reason : String)
  /-- The device has no connector of the configured kind. -/
  | connectorNotFound (device : UInt32) (connector : String)
  /-- No encoder goes with the connector. -/
  | encoderResolution (reason : String)
  /-- No CRTC goes with the encoder. -/
  | crtcResolution (reason : String)
  /-- There was no memory for the picture. -/
  | allocation (reason : String)
  /-- The kernel refused the framebuffer. -/
  | framebufferRegistration (reason : String)
  /-- The kernel refused to scan out. -/
  | modeCommit (reason : String)
  /-- A driver command failed. -/
  | command (index : UInt32) (errno : Int)
  /-- The device node could not be opened. -/
  | deviceOpen (path : Path) (fault : Fault)
  /-- The caller passed something unusable. -/
  | invalidArgument (reason : String)
  /-- No display is attached to the slot. -/
  | notConnected (device : UInt32)
  /-- The connector lists no modes. -/
  | noModes
  /-- The operation is switched off, or the display cannot do it. -/
  | unsupported (reason : String)
  /-- The configuration is unusable. -/
  | config (reason : String)
  /-- A call to the system failed. -/
  | io (fault : Fault)
  /-- An error, and what was being done when it arose. -/
  | inContext (context : String) (cause : Error)
  deriving DecidableEq, Repr

namespace Error

/-- The text of an error. -/
def message : Error → String
  | notInitialized => "DRM device is not initialized"
  | invalidDevice device => s!"Invalid display device: {device}"
  | resourceQuery reason => s!"Failed to query DRM resources: {reason}"
  | connectorNotFound device connector => s!"No {connector} connector found for device {device}"
  | encoderResolution reason => s!"Failed to resolve an encoder: {reason}"
  | crtcResolution reason => s!"Failed to resolve a CRTC: {reason}"
  | allocation reason => s!"Framebuffer allocation failed: {reason}"
  | framebufferRegistration reason => s!"Framebuffer registration failed: {reason}"
  | modeCommit reason => s!"Mode commit failed: {reason}"
  | command index errno => s!"ioctl 0x{Layout.hex 2 index.toNat} failed with errno {errno}"
  | deviceOpen path fault => s!"Failed to open {path.display}: {fault.message}"
  | invalidArgument reason => s!"Invalid argument: {reason}"
  | notConnected device => s!"Device {device} is not connected"
  | noModes => "Connector reports no modes"
  | unsupported reason => s!"Unsupported: {reason}"
  | config reason => s!"Configuration error: {reason}"
  | io fault => s!"I/O error: {fault.message}"
  | inContext context cause => s!"{context}: {cause.message}"

/-- The error inside all context. -/
def root : Error → Error
  | inContext _ cause => cause.root
  | error => error

/-- The kernel's error number, if the root carries one. -/
def errno? (error : Error) : Option Int :=
  match error.root with
  | command _ errno => some errno
  | deviceOpen _ fault | io fault => fault.errno?
  | _ => none

/-- What the user may do about an error, if anything is known to help. -/
def hint? (error : Error) : Option String :=
  match error.root with
  | notInitialized => some "Call initialize() before querying outputs"
  | deviceOpen _ _ =>
    some "Check the device_path in config.toml and that your user is in the 'video' group"
  | connectorNotFound _ _ =>
    some "Run 'krypton topology' to see which connector types the device exposes"
  | notConnected _ => some "Attach a display and run 'krypton detect' again"
  | modeCommit _ | framebufferRegistration _ =>
    some "Mode-setting requires DRM master; stop the running compositor first"
  | config _ => some "Check your config.toml; 'krypton config sample' prints a valid one"
  | unsupported _ => some "Set power_control = true in config.toml to enable DPMS"
  | _ => none

/-- Whether the user can do something about an error. -/
def isRecoverable (error : Error) : Bool :=
  match error.root with
  | notInitialized | invalidDevice _ | connectorNotFound _ _ | notConnected _ | deviceOpen _ _
  | config _ | invalidArgument _ => true
  | _ => false

/-- Whether an object that a display needs could not be found. -/
def isUnresolved (error : Error) : Bool :=
  match error.root with
  | connectorNotFound _ _ | encoderResolution _ | crtcResolution _ => true
  | _ => false

/-- Something that an error was made from. -/
inductive Source
  | error (cause : Error)
  | fault (cause : Fault)
  deriving DecidableEq, Repr

/-- The text of something that an error was made from. -/
def Source.message : Source → String
  | error cause => cause.message
  | fault cause => cause.message

/-- What an error was made from, nearest first. -/
def sources : Error → List Source
  | inContext _ cause => .error cause :: cause.sources
  | deviceOpen _ fault | io fault => [.fault fault]
  | _ => []

/-- What an error was made from directly. -/
def source? : Error → Option Source
  | inContext _ cause => some (.error cause)
  | deviceOpen _ fault | io fault => some (.fault fault)
  | _ => none

/-- What something was made from directly. Behind a fault there is nothing. -/
def Source.next? : Source → Option Source
  | error cause => cause.source?
  | fault _ => none

/-- An outcome and, if it is an error, what was being done when that arose. -/
def addContext {α : Type} (context : String) (outcome : Except Error α) : Except Error α :=
  outcome.mapError (inContext context)

@[simp] theorem root_inContext (context : String) (cause : Error) :
    (inContext context cause).root = cause.root := rfl

@[simp] theorem errno?_inContext (context : String) (cause : Error) :
    (inContext context cause).errno? = cause.errno? := rfl

@[simp] theorem hint?_inContext (context : String) (cause : Error) :
    (inContext context cause).hint? = cause.hint? := rfl

@[simp] theorem isRecoverable_inContext (context : String) (cause : Error) :
    (inContext context cause).isRecoverable = cause.isRecoverable := rfl

@[simp] theorem isUnresolved_inContext (context : String) (cause : Error) :
    (inContext context cause).isUnresolved = cause.isUnresolved := rfl

end Error

end Modeset
