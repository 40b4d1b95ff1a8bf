import Modeset.Kms
import Modeset.Path

/-!
# The platform

What the display manager stands on: a device node that it opens and closes, the calls to the device
while it is open, and a pool from which the memory for pictures is taken.

## Main definitions

* `Device` — opening, calling and closing a device
* `Pool` — taking and giving back picture memory
* `Platform` — both
* `Platform.openNode`, `Platform.closeNode`, `Platform.kms`, `Platform.allocate`,
  `Platform.release` — one procedure for each call
-/

namespace Modeset

/-- Memory for one picture. -/
structure Buffer where
  handle : UInt32
  /-- Bytes in a row. -/
  stride : UInt32
  deriving DecidableEq, Repr

/-- The calls that concern a device and its node. -/
inductive Device.Call
  /-- Open the device node at a path. -/
  | openNode (path : Path)
  /-- Close the device node. -/
  | closeNode
  /-- Call the open device. -/
  | kms (call : Kms.Call)
  deriving DecidableEq

/-- What comes back from a call that concerns a device. -/
abbrev Device.Answer : Device.Call → Type
  | .openNode _ => Except Fault Unit
  | .closeNode => Unit
  | .kms call => Kms.Answer call

/-- A device and its node. -/
abbrev Device : Signature := ⟨Device.Call, Device.Answer⟩

/-- The calls that concern picture memory. -/
inductive Pool.Call
  /-- Take memory for a picture of this size. -/
  | allocate (width height : UInt32)
  /-- Give memory back. -/
  | release (handle : UInt32)
  deriving DecidableEq

/-- What comes back from a call that concerns picture memory. -/
abbrev Pool.Answer : Pool.Call → Type
  | .allocate .. => Except Fault Buffer
  | .release _ => Unit

/-- A pool of picture memory. -/
abbrev Pool : Signature := ⟨Pool.Call, Pool.Answer⟩

/-- A device and a pool of picture memory. -/
abbrev Platform : Signature := Device.sum Pool

namespace Platform

/-- Open the device node at a path. -/
def openNode (path : Path) : Proc Platform (Except Fault Unit) :=
  Proc.ask (S := Platform) (.inl (.openNode path))

/-- Close the device node. -/
def closeNode : Proc Platform Unit := Proc.ask (S := Platform) (.inl .closeNode)

/-- Call the open device. -/
def kms (call : Kms.Call) : Proc Platform (Kms.Answer call) :=
  Proc.ask (S := Platform) (.inl (.kms call))

/-- Take memory for a picture of this size. -/
def allocate (width height : UInt32) : Proc Platform (Except Fault Buffer) :=
  Proc.ask (S := Platform) (.inr (.allocate width height))

/-- Give memory back. -/
def release (handle : UInt32) : Proc Platform Unit :=
  Proc.ask (S := Platform) (.inr (.release handle))

end Platform

end Modeset
