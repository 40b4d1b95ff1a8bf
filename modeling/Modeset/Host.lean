import Modeset.Fault
import Modeset.Path
import Modeset.Proc

/-!
# The host of the program

What a program of this library may ask of the machine that it runs on, apart from display devices:
settings of the environment, files, text output and time.

## Main definitions

* `Host.Call` — the requests
* `Host` — their signature
-/

namespace Modeset

namespace Host

/-- What can be asked of the host. -/
inductive Call
  /-- The value of a setting of the environment. -/
  | setting (name : String)
  /-- Is there a file or directory at a path? -/
  | pathExists (path : Path)
  /-- The content of a file. -/
  | readFile (path : Path)
  /-- Write a file, in the place of what was there. -/
  | writeFile (path : Path) (content : List UInt8)
  /-- Make a directory and those that it lies in, as far as they are missing. -/
  | createDirectories (path : Path)
  /-- Write text to the standard output. -/
  | print (text : String)
  /-- Write text to the error output. -/
  | printError (text : String)
  /-- Wait for some seconds. -/
  | sleep (seconds : UInt64)
  deriving DecidableEq

/-- What comes back. -/
abbrev Answer : Call → Type
  | .setting _ => Option (List UInt8)
  | .pathExists _ => Bool
  | .readFile _ => Except Fault (List UInt8)
  | .writeFile .. => Except Fault Unit
  | .createDirectories _ => Except Fault Unit
  | .print _ => Unit
  | .printError _ => Unit
  | .sleep _ => Unit

end Host

/-- The system around the program. -/
abbrev Host : Signature := ⟨Host.Call, Host.Answer⟩

namespace Host

/-- Put a request to the host. -/
def ask (call : Call) : Proc Host (Answer call) := Proc.ask (S := Host) call

end Host

end Modeset
