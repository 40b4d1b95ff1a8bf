import Modeset.Config
import Modeset.Error
import Modeset.Output

/-!
# Committing a mode

How an output gets another mode. A new framebuffer is made and read out before the one in use is
given up, so that the display always has a picture. If a step fails, what was obtained for the new
mode is given up and the output stays as it was. A mode that the active one already satisfies is not
set again.

## Main definitions

* `Output.scanOut` — make a framebuffer for a mode and let a CRTC read it out
* `Output.commit` — make a mode the active one
-/

namespace Modeset.Output

/-- Make a framebuffer for a mode and let a CRTC read it out for a connector. If a step fails, what
was obtained is given up. -/
def scanOut (config : Config) (crtc connector : UInt32) (mode : Mode) :
    Proc Platform (Except Error Framebuffer) := do
  let width := mode.width
  let height := mode.height
  match ← Pending.allocate width height with
  | .error fault =>
    Proc.error .commit s!"Failed to allocate {width}x{height} framebuffer: {fault.message}"
    return .error (.allocation fault.message)
  | .ok pending =>
    match ← pending.register width height config.framebufferDepth config.framebufferBpp with
    | .error fault =>
      Proc.error .commit s!"Failed to add framebuffer: {fault.message}"
      pending.drop
      return .error (.framebufferRegistration fault.message)
    | .ok pending =>
      Proc.info .commit s!"Mode set: {mode.text} on CRTC {crtc} (fb {pending.id})"
      match ← Platform.kms (.setCrtc crtc pending.id 0 0 [connector] (some mode)) with
      | .error fault =>
        Proc.error .commit
          s!"Failed to set CRTC {crtc}: {fault.message}, keeping previous framebuffer"
        pending.drop
        return .error (.modeCommit fault.message)
      | .ok () =>
        match ← pending.bind with
        | none => return .error (.modeCommit "framebuffer was not registered")
        | some framebuffer => return .ok framebuffer

/-- The output with a framebuffer and its mode in use. -/
def withFramebuffer (output : Output) (mode : Mode) (framebuffer : Framebuffer) : Output :=
  { output with
    mode
    crtc := output.crtc.map fun crtc => { crtc with bufferId := framebuffer.id }
    framebuffer := some framebuffer }

/-- Make a mode the active mode of an output. -/
def commit (config : Config) (output : Output) (mode : Mode) :
    Proc Platform (Except Error Unit × Output) := do
  if mode.satisfiedBy output.mode then
    Proc.trace .commit s!"Mode {mode.text} is unchanged"
    return (.ok (), output)
  match output.crtc, output.connector with
  | some crtc, some connector =>
    match ← scanOut config crtc.id connector.id mode with
    | .error error => return (.error error, output)
    | .ok framebuffer =>
      if let some previous := output.framebuffer then
        previous.release
      return (.ok (), output.withFramebuffer mode framebuffer)
  | _, _ => return (.error (.modeCommit "output has no CRTC or connector bound"), output)

end Modeset.Output
