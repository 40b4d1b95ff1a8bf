import Modeset.Platform

/-!
# A pool of dumb buffers

A pool that asks the device itself for memory: every picture gets a dumb buffer.

## Main definitions

* `Dumb.carryOut` — a call to a platform, carried out on the device alone
* `Dumb.withPool` — a procedure over a platform, carried out on the device alone
-/

namespace Modeset.Dumb

/-- How many bits a pixel has unless something else is asked for. -/
def usualBpp : UInt32 := 32

/-- Call the open device. -/
def kms (call : Kms.Call) : Proc Device (Kms.Answer call) :=
  Proc.ask (S := Device) (.kms call)

/-- Take a dumb buffer for a picture of this size. -/
def allocate (bpp width height : UInt32) : Proc Device (Except Fault Buffer) := do
  match ← kms (.createDumb width height bpp) with
  | .error fault => return .error fault
  | .ok dumb =>
    Proc.debug .buffer
      (s!"Created dumb buffer {dumb.handle} ({width}x{height}, pitch {dumb.pitch}, " ++
        s!"{dumb.size} bytes)")
    return .ok { handle := dumb.handle, stride := dumb.pitch }

/-- Give a dumb buffer back. -/
def release (handle : UInt32) : Proc Device Unit := do
  if let .error fault ← kms (.destroyDumb handle) then
    Proc.warn .buffer s!"Failed to destroy dumb buffer {handle}: {fault.message}"

/-- Carry out a call to a platform on the device alone. -/
def carryOut (bpp : UInt32) : (call : Platform.Call) → Proc Device (Platform.Answer call)
  | .inl call => Proc.ask (S := Device) call
  | .inr (.allocate width height) => allocate bpp width height
  | .inr (.release handle) => release handle

/-- Carry out a procedure over a platform on the device alone. -/
def withPool {α : Type} (bpp : UInt32) (p : Proc Platform α) : Proc Device α :=
  p.interpret (carryOut bpp) fun entry => .note entry (.done ())

end Modeset.Dumb
