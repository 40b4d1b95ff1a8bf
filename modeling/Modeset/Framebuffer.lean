import Modeset.Platform

/-!
# Framebuffers

A framebuffer is made in two steps: memory is taken from the pool, then the device makes a
framebuffer of it. The two are given up together, the framebuffer before the memory under it. While
the steps are under way a *pending* framebuffer holds what has been obtained, and whoever has one
must in the end either bind or drop it.

## Main definitions

* `Framebuffer` — a framebuffer in use, `Framebuffer.release` — give it up
* `Pending` — memory on its way to becoming a framebuffer
* `Pending.allocate`, `Pending.register`, `Pending.bind`, `Pending.drop` — its steps

## Main results

* `Pending.framebuffer?_eq_none_iff` — only what was registered can be bound
-/

namespace Modeset

/-- A framebuffer in use, and the memory under it. -/
structure Framebuffer where
  id : UInt32
  handle : UInt32
  stride : UInt32
  deriving DecidableEq, Repr

namespace Framebuffer

/-- Take a framebuffer away from the device, then give its memory back. A device that refuses does
not keep the memory from being given back. -/
def release (framebuffer : Framebuffer) : Proc Platform Unit := do
  if let .error fault ← Platform.kms (.removeFramebuffer framebuffer.id) then
    Proc.warn .buffer s!"Failed to remove framebuffer {framebuffer.id}: {fault.message}"
  Platform.release framebuffer.handle
  Proc.debug .buffer s!"Released framebuffer {framebuffer.id} (buffer {framebuffer.handle})"

end Framebuffer

/-- Memory that is to become a framebuffer. -/
structure Pending where
  buffer : Buffer
  /-- The framebuffer made of it, or 0. -/
  id : UInt32
  deriving DecidableEq, Repr

namespace Pending

/-- Take memory for a picture of this size. A handle of 0 is no memory, and is not given back. -/
def allocate (width height : UInt32) : Proc Platform (Except Fault Pending) := do
  match ← Platform.allocate width height with
  | .error fault => return .error fault
  | .ok buffer =>
    if buffer.handle = 0 then
      return .error (.described .outOfMemory "allocator returned a null buffer handle")
    else
      return .ok { buffer, id := 0 }

/-- Let the device make a framebuffer of the memory. If it refuses, what was pending still is. -/
def register (pending : Pending) (width height depth bpp : UInt32) :
    Proc Platform (Except Fault Pending) := do
  let spec : FramebufferSpec :=
    { width, height, pitch := pending.buffer.stride, bpp, depth, handle := pending.buffer.handle }
  match ← Platform.kms (.addFramebuffer spec) with
  | .error fault => return .error fault
  | .ok id => return .ok { pending with id }

/-- Give up whatever has been obtained, the framebuffer before the memory. -/
def drop (pending : Pending) : Proc Platform Unit := do
  if pending.id ≠ 0 then
    if let .error fault ← Platform.kms (.removeFramebuffer pending.id) then
      Proc.warn .buffer s!"Failed to remove unused framebuffer {pending.id}: {fault.message}"
  Platform.release pending.buffer.handle
  Proc.debug .buffer s!"Released unused buffer {pending.buffer.handle}"

/-- The framebuffer that is ready for use, if the device has made one. -/
def framebuffer? (pending : Pending) : Option Framebuffer :=
  if pending.id = 0 then none
  else some { id := pending.id, handle := pending.buffer.handle, stride := pending.buffer.stride }

theorem framebuffer?_eq_none_iff (pending : Pending) :
    pending.framebuffer? = none ↔ pending.id = 0 := by
  simp [framebuffer?]

/-- Turn what was pending into a framebuffer in use. If the device has made none, give up the
memory. -/
def bind (pending : Pending) : Proc Platform (Option Framebuffer) := do
  match pending.framebuffer? with
  | some framebuffer => return some framebuffer
  | none => do
    pending.drop
    return none

end Pending

end Modeset
