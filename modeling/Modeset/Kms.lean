import Modeset.Fault
import Modeset.Kind
import Modeset.Mode
import Modeset.PhysicalSize
import Modeset.Proc

/-!
# Mode-setting devices

What a display device has and what it can be asked. A picture travels from a framebuffer through a
CRTC and an encoder to a connector; the device describes each of these objects by number. The number
0 is no object.

## Main definitions

* `ResourceList`, `Connector`, `Encoder`, `Crtc`, `Property` — what the device describes
* `FramebufferSpec`, `DumbBuffer` — what framebuffers are made from
* `Kms.Call`, `Kms.Reply` — the calls to an open device and their results
* `Kms.Answer` — a result, or the fault that stood in its way
-/

namespace Modeset

/-- The numbers of the objects of a device, and the sizes its framebuffers may have. -/
structure ResourceList where
  framebuffers : List UInt32
  crtcs : List UInt32
  connectors : List UInt32
  encoders : List UInt32
  minWidth : UInt32
  maxWidth : UInt32
  minHeight : UInt32
  maxHeight : UInt32
  deriving DecidableEq, Repr

/-- A socket, and the display in it. -/
structure Connector where
  id : UInt32
  /-- The encoder that drives it now, or 0. -/
  encoderId : UInt32
  kind : ConnectorKind
  /-- Its number among the connectors of its kind. -/
  kindId : UInt32
  connection : Connection
  size : PhysicalSize
  modes : List Mode
  props : List UInt32
  propValues : List UInt64
  /-- The encoders that could drive it. -/
  encoders : List UInt32
  deriving DecidableEq

namespace Connector

/-- What a connector is called, as in `HDMI-A-1`. -/
def name (connector : Connector) : String := s!"{connector.kind.title}-{connector.kindId}"

/-- Whether a display is plugged in. -/
def isConnected (connector : Connector) : Bool := connector.connection = .connected

end Connector

/-- What turns a picture into a signal. -/
structure Encoder where
  id : UInt32
  kind : EncoderKind
  /-- The CRTC that feeds it now, or 0. -/
  crtcId : UInt32
  /-- Bit `n` says whether the CRTC at place `n` of the resource list could feed it. -/
  possibleCrtcs : UInt32
  deriving DecidableEq, Repr

/-- What reads a framebuffer out. -/
structure Crtc where
  id : UInt32
  /-- The framebuffer that is read out now, or 0. -/
  bufferId : UInt32
  x : UInt32
  y : UInt32
  gammaSize : UInt32
  /-- Whether `mode` is set and running. -/
  modeValid : Bool
  mode : Mode
  deriving DecidableEq

namespace Crtc

/-- Whether no framebuffer is read out. -/
def isSpare (crtc : Crtc) : Bool := crtc.bufferId = 0

end Crtc

/-- A setting that a connector has. -/
structure Property where
  id : UInt32
  name : String
  deriving DecidableEq, Repr

/-- From what a framebuffer is to be made. -/
structure FramebufferSpec where
  width : UInt32
  height : UInt32
  /-- Bytes in a row. -/
  pitch : UInt32
  bpp : UInt32
  depth : UInt32
  /-- The buffer that holds the pixels. -/
  handle : UInt32
  deriving DecidableEq, Repr

/-- A plain buffer that the device itself made. -/
structure DumbBuffer where
  handle : UInt32
  /-- Bytes in a row. -/
  pitch : UInt32
  /-- Bytes in all. -/
  size : UInt64
  deriving DecidableEq, Repr

namespace Kms

/-- The calls to an open device. -/
inductive Call
  /-- What objects are there? -/
  | resources
  /-- Describe a connector. -/
  | connector (id : UInt32)
  /-- Describe an encoder. -/
  | encoder (id : UInt32)
  /-- Describe a CRTC. -/
  | crtc (id : UInt32)
  /-- Describe a property. -/
  | property (id : UInt32)
  /-- Make a framebuffer of a buffer. -/
  | addFramebuffer (spec : FramebufferSpec)
  /-- Take a framebuffer away. -/
  | removeFramebuffer (id : UInt32)
  /-- Let a CRTC read out a framebuffer from some place of it, in a mode, for these connectors. -/
  | setCrtc (id framebuffer x y : UInt32) (connectors : List UInt32) (mode : Option Mode)
  /-- Give a property of a connector a value. -/
  | setConnectorProperty (connector property : UInt32) (value : UInt64)
  /-- Make a plain buffer. -/
  | createDumb (width height bpp : UInt32)
  /-- Give a plain buffer back. -/
  | destroyDumb (handle : UInt32)
  /-- Send a command of the driver's own. -/
  | commandWrite (index : UInt32) (payload : List UInt8)
  /-- Send a command of the driver's own and get its payload back. -/
  | commandWriteRead (index : UInt32) (payload : List UInt8)
  deriving DecidableEq

/-- What a call returns if it succeeds. -/
abbrev Reply : Call → Type
  | .resources => ResourceList
  | .connector _ => Connector
  | .encoder _ => Encoder
  | .crtc _ => Crtc
  | .property _ => Property
  | .addFramebuffer _ => UInt32
  | .removeFramebuffer _ => Unit
  | .setCrtc .. => Unit
  | .setConnectorProperty .. => Unit
  | .createDumb .. => DumbBuffer
  | .destroyDumb _ => Unit
  | .commandWrite .. => Unit
  | .commandWriteRead .. => List UInt8

/-- What comes back from a call. -/
abbrev Answer (call : Call) : Type := Except Fault (Reply call)

end Kms

end Modeset
