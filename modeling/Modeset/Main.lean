import Modeset.Cli.Run

/-!
# The program

Carries the calls of a command line out on the machine that it runs on: files, environment and text
output are real, and a device node is opened as a file. There is no way here to put a request to the
kernel through an open file, so every request is answered as by a file that is no device.
-/

namespace Modeset.Cli

/-- The fault of an input or output that failed. -/
def faultOfError : IO.Error → Fault
  | .noFileOrDirectory _ code _ | .permissionDenied _ code _ | .resourceExhausted _ code _
  | .inappropriateType _ code _ | .invalidArgument _ code _ | .alreadyExists _ code _
  | .resourceBusy code _ | .resourceVanished code _ | .unsupportedOperation code _
  | .hardwareFault code _ | .unsatisfiedConstraints code _ | .illegalOperation code _
  | .protocolError code _ | .timeExpired code _ | .interrupted _ code _ | .noSuchThing _ code _
  | .otherError code _ => .os code.toNat
  | error => .described .other (toString error)

/-- Do something with the files of the machine. -/
def attemptIo {α : Type} (act : IO α) : IO (Except Fault α) := do
  try
    return .ok (← act)
  catch error =>
    return .error (faultOfError error)

/-- Wait for some seconds. -/
def waitSeconds : Nat → IO Unit
  | 0 => return ()
  | seconds + 1 => do
    IO.sleep 1000
    waitSeconds seconds

/-- Answer what concerns the machine around the program. -/
def answerHost : (call : Host.Call) → IO (Host.Answer call)
  | .setting name => return (← IO.getEnv name).map Utf8.bytes
  | .pathExists path => do
    try
      (← IO.FS.realPath path.display).pathExists
    catch _ =>
      return false
  | .readFile path => attemptIo do
    return (← IO.FS.readBinFile path.display).toList
  | .writeFile path content => attemptIo do
    IO.FS.writeBinFile path.display ⟨content.toArray⟩
  | .createDirectories path => attemptIo do
    IO.FS.createDirAll path.display
  | .print text => do
    IO.print text
    (← IO.getStdout).flush
  | .printError text => IO.eprint text
  | .sleep seconds => waitSeconds seconds.toNat

/-- What a file answers to a request that is for devices. -/
def noDevice : Fault := .os 25

/-- Answer what concerns a device node. -/
def answerNode : (call : Node.Call) → IO (Node.Answer call)
  | .openFile path => attemptIo do
    let _ ← IO.FS.Handle.mk path.display .readWrite
    return 3
  | .closeFile => return ()
  | .resources | .connector .. | .properties _ | .encoder _ | .crtc _ | .property _
  | .addFramebuffer _ | .removeFramebuffer _ | .setCrtc .. | .setProperty .. | .createDumb ..
  | .destroyDumb _ | .command .. => return .error noDevice

/-- Answer a call of the program. -/
def answer : (call : (Node.sum Host).Call) → IO ((Node.sum Host).Answer call)
  | .inl call => answerNode call
  | .inr call => answerHost call

end Modeset.Cli

/-- Carry out the command line. -/
def main (words : List String) : IO UInt32 :=
  (Modeset.Cli.runWords words).interpret Modeset.Cli.answer fun entry =>
    IO.println (Modeset.Cli.noteLine entry)
