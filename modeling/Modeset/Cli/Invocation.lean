import Modeset.Log.Filter
import Modeset.Mode.Request
import Modeset.Path
import Modeset.Power
import Modeset.Slot

/-!
# Invocations

What a command line asks for: one of the commands with its settings, how much of the log to show,
and which configuration file to use.

## Main definitions

* `Command` — the commands
* `Invocation` — a command and the settings common to all
* `Invocation.directive` — how much of the log is to be shown
-/

namespace Modeset.Cli

/-- What is to be done with the configuration file. -/
inductive ConfigAction
  /-- Tell where it is. -/
  | path
  /-- Show what it sets. -/
  | show
  /-- Make a sample file, over an old one only with `force`. -/
  | init (force : Bool)
  /-- Print the sample. -/
  | sample
  deriving DecidableEq, Repr

/-- A command. -/
inductive Command
  /-- List everything that the device describes. -/
  | topology
  /-- Find the display of one slot, or of both. -/
  | detect (slot : Option Slot) (json : Bool) (hold : UInt64)
  /-- List the modes of a display. -/
  | modes (slot : Slot)
  /-- Change the mode of the external output. -/
  | setMode (request : ModeRequest) (hold : UInt64)
  /-- Change the rate of the external output. -/
  | refresh (hz : UInt32) (hold : UInt64)
  /-- Switch a display on or off. -/
  | power (power : Power) (slot : Slot) (hold : UInt64)
  /-- Do something with the configuration file. -/
  | config (action : ConfigAction)
  deriving DecidableEq, Repr

/-- What a command line asks for. -/
structure Invocation where
  verbosity : Nat
  configPath : Option Path
  command : Command
  deriving DecidableEq, Repr

namespace Invocation

/-- The least level that is shown. -/
def threshold (invocation : Invocation) : Level :=
  match invocation.verbosity with
  | 0 => .warn
  | 1 => .info
  | 2 => .debug
  | _ => .trace

/-- The directive for the log that the verbosity stands for. It speaks of every topic. -/
def directive (invocation : Invocation) : Log.Directive :=
  { topic := some "krypton", least := some invocation.threshold }

end Invocation

end Modeset.Cli
