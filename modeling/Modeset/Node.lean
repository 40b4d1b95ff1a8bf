import Modeset.Platform

/-!
# Device nodes

A device node is a file. Once it is open, requests can be put to the kernel through it. The kernel's
answers are records of numbers: it numbers kinds and states, keeps names in fields, and knows
nothing of what this library calls a connector or a property.

## Main definitions

* `Node.ConnectorRecord`, `Node.EncoderRecord` — descriptions as the kernel gives them
* `Node.Call` — opening, closing, and the requests
* `Node` — their signature
-/

namespace Modeset

namespace Node

/-- A connector as the kernel describes it. -/
structure ConnectorRecord where
  encoderId : UInt32
  kind : UInt32
  kindId : UInt32
  connection : UInt32
  size : PhysicalSize
  modes : List Mode
  encoders : List UInt32
  deriving DecidableEq

/-- An encoder as the kernel describes it. -/
structure EncoderRecord where
  kind : UInt32
  crtcId : UInt32
  /-- Bit `n` says whether the CRTC at place `n` of the resource list could feed it. -/
  possibleCrtcs : UInt32
  deriving DecidableEq, Repr

/-- What can be done with a device node. -/
inductive Call
  /-- Open the file at a path for reading and writing. -/
  | openFile (path : Path)
  /-- Close the file. -/
  | closeFile
  /-- What objects are there? -/
  | resources
  /-- Describe a connector, after a look at what is plugged in if `probe` says so. -/
  | connector (id : UInt32) (probe : Bool)
  /-- Which properties does a connector have, and what are their values? -/
  | properties (connector : UInt32)
  /-- Describe an encoder. -/
  | encoder (id : UInt32)
  /-- Describe a CRTC. -/
  | crtc (id : UInt32)
  /-- What is a property called? -/
  | property (id : UInt32)
  /-- Make a framebuffer of a buffer. -/
  | addFramebuffer (spec : FramebufferSpec)
  /-- Take a framebuffer away. -/
  | removeFramebuffer (id : UInt32)
  /-- Let a CRTC read out a framebuffer from some place of it, in a mode, for these connectors. -/
  | setCrtc (id framebuffer x y : UInt32) (connectors : List UInt32) (mode : Option Mode)
  /-- Give a property of a connector a value. -/
  | setProperty (connector property : UInt32) (value : UInt64)
  /-- Make a plain buffer. -/
  | createDumb (width height bpp : UInt32)
  /-- Give a plain buffer back. -/
  | destroyDumb (handle : UInt32)
  /-- Put a request word and its payload to the driver, and get the payload back. -/
  | command (request : UInt32) (payload : List UInt8)
  deriving DecidableEq

/-- What comes back. -/
abbrev Answer : Call → Type
  | .openFile _ => Except Fault Nat
  | .closeFile => Unit
  | .resources => Except Fault ResourceList
  | .connector .. => Except Fault ConnectorRecord
  | .properties _ => Except Fault (List (UInt32 × UInt64))
  | .encoder _ => Except Fault EncoderRecord
  | .crtc _ => Except Fault Crtc
  | .property _ => Except Fault NameField
  | .addFramebuffer _ => Except Fault UInt32
  | .removeFramebuffer _ => Except Fault Unit
  | .setCrtc .. => Except Fault Unit
  | .setProperty .. => Except Fault Unit
  | .createDumb .. => Except Fault DumbBuffer
  | .destroyDumb _ => Except Fault Unit
  | .command .. => Except Fault (List UInt8)

end Node

/-- A device node. -/
abbrev Node : Signature := ⟨Node.Call, Node.Answer⟩

end Modeset
