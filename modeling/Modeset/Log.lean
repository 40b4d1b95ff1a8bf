/-!
# The log

What a procedure leaves on its way: entries, each with a level, the topic it belongs to and a text.

## Main definitions

* `Level` — how much an entry matters
* `Topic` — what an entry is about
* `Entry` — one line of the log
-/

namespace Modeset

/-- How much a log entry matters, least first. -/
inductive Level | trace | debug | info | warn | error
  deriving DecidableEq, Repr

namespace Level

/-- The place of a level among the others, from the least. -/
def rank : Level → Nat
  | trace => 0
  | debug => 1
  | info => 2
  | warn => 3
  | error => 4

/-- The name of a level. -/
def text : Level → String
  | trace => "TRACE"
  | debug => "DEBUG"
  | info => "INFO"
  | warn => "WARN"
  | error => "ERROR"

end Level

/-- What a log entry is about. -/
inductive Topic
  /-- Configuration files. -/
  | configFile
  /-- Calls to the kernel. -/
  | card
  /-- Framebuffers and picture memory. -/
  | buffer
  /-- What is held for the slots. -/
  | output
  /-- The manager itself, and what is asked of it. -/
  | manager
  /-- Setting a mode. -/
  | commit
  /-- Finding a display and what drives it. -/
  | discovery
  /-- The commands of the program. -/
  | commands
  /-- The command that changes the mode. -/
  | modeCommand
  deriving DecidableEq, Repr

/-- The path by which a topic is selected. Topics inside another begin with its path. -/
def Topic.path : Topic → String
  | configFile => "krypton_core::config::file"
  | card => "krypton_core::kms::card"
  | buffer => "krypton_core::buffer"
  | output => "krypton_core::output"
  | manager => "krypton_core::manager"
  | commit => "krypton_core::manager::commit"
  | discovery => "krypton_core::manager::discovery"
  | commands => "krypton::commands"
  | modeCommand => "krypton::commands::set_mode"

/-- One line of the log. -/
structure Entry where
  level : Level
  topic : Topic
  text : String
  deriving DecidableEq, Repr

end Modeset
