import Modeset.Card
import Modeset.Cli.Failure
import Modeset.Cli.Parser
import Modeset.Cli.Report
import Modeset.Config.Store
import Modeset.Manager.Power
import Modeset.Pool.Dumb

/-!
# Commands

What each command does. A command that needs the device opens it, does its work, and closes it again
however the work ended.

## Main definitions

* `Session` — what a command does while the device is open
* `withSession` — open the device for that long
* `run` — carry out an invocation
* `onNode` — put the device on its node
* `logFilter` — what is shown of the log
* `runWords` — carry out a command line; the result is the exit code
-/

namespace Modeset.Cli

/-- A device, and the host of the program. -/
abbrev Terminal : Signature := Device.sum Host

/-- Work that may fail. -/
abbrev Work (α : Type) : Type := ExceptT Failure (Proc Terminal) α

/-- Work with an open device: the manager changes on the way, also if the work fails. -/
abbrev Session (α : Type) : Type := ExceptT Failure (StateT Manager (Proc Terminal)) α

section Lift

variable {m : Type → Type} {α : Type}

/-- Do something with a manager. Picture memory is dumb buffers of the configured format. -/
def onPlatform [MonadLiftT (Proc Terminal) m] (manager : Manager)
    (operation : Manager → Proc Platform α) : m α :=
  liftM ((Dumb.withPool manager.config.framebufferBpp (operation manager)).left :
    Proc Terminal α)

/-- Ask the host. -/
def onHost [MonadLiftT (Proc Terminal) m] (p : Proc Host α) : m α :=
  liftM (p.right : Proc Terminal α)

/-- Leave a note. -/
def note [MonadLiftT (Proc Terminal) m] (level : Level) (topic : Topic) (text : String) :
    m Unit :=
  liftM (Proc.log level topic text : Proc Terminal Unit)

/-- Write text to the standard output. -/
def print [MonadLiftT (Proc Terminal) m] (text : String) : m Unit :=
  onHost (Host.ask (.print text))

/-- Write a line to the standard output. -/
def printLine [MonadLiftT (Proc Terminal) m] (line : String) : m Unit := print (line ++ "\n")

/-- The outcome of an operation, as work. -/
def ofOutcome [Monad m] (outcome : Except Error α) : ExceptT Failure m α :=
  match outcome with
  | .ok result => pure result
  | .error error => throw (.error error)

/-- Say what was being done when work fails. -/
def inContext [Monad m] (context : String) (work : ExceptT Failure m α) :
    ExceptT Failure m α :=
  ExceptT.adapt (.inContext context) work

end Lift

/-- Load the configuration at a path, or the user's. -/
def loadConfig (path : Option Path) : Work Config := do
  let outcome ← onHost ((path.map Config.loadFrom).getD Config.load)
  let config ← ofOutcome outcome
  note .debug .commands s!"Using DRM device {config.devicePath.quoted}"
  return config

/-- Open the device of a configuration, work with it, and close it however that ends. -/
def withSession (path : Option Path) (session : Session Unit) : Work Unit := do
  let config ← loadConfig path
  let (outcome, manager) ← onPlatform (Manager.new config) Manager.start
  ofOutcome outcome
  let (outcome, manager) ← ExceptT.lift (session.run.run manager)
  let _ ← onPlatform manager Manager.stop
  ExceptT.mk (pure outcome)

namespace Session

/-- Look something up with the manager. -/
def query {α : Type} (operation : Manager → Proc Platform α) : Session α := do
  onPlatform (← get) operation

/-- Do something with the manager that changes it. -/
def operate {α : Type} (operation : Manager → Proc Platform (Except Error α × Manager)) :
    Session α := do
  let (outcome, manager) ← onPlatform (← get) operation
  set manager
  ofOutcome outcome

/-- Do something with the manager that leaves it as it is. -/
def attempt {α : Type} (operation : Manager → Proc Platform (Except Error α)) : Session α := do
  ofOutcome (← query operation)

/-- Keep everything as it is for some seconds. -/
def hold (seconds : UInt64) : Session Unit := do
  if seconds ≠ 0 then
    printLine s!"Holding for {seconds}s..."
    onHost (Host.ask (.sleep seconds))

/-- Find the display of a slot, and refuse to go on if there is none. -/
def requireDisplay (slot : Slot) : Session Unit := do
  let outcome ← operate (·.detect slot.device)
  if !outcome.isConnected then
    throw (.refused s!"{slot.text} output is not connected")

/-- Tell which mode the external output has. -/
def reportMode : Session Unit := do
  match ← query (·.mode Slot.external.device) with
  | some mode => printLine s!"External output is now {mode.text}"
  | none => printLine "External output has no active mode"

/-- List everything that the device describes. -/
def topology : Session Unit := do
  let topology ← inContext "Failed to read device topology" (attempt Manager.topology)
  print (topologyReport topology)

/-- Find the display of a slot. -/
def find (slot : Slot) : Session (Slot × Outcome × OutputStatus) := do
  let outcome ← operate (·.detect slot.device)
  let status ← query (·.status slot.device)
  return (slot, outcome, status.getD {})

/-- Find the display of a slot, or of both, and report. -/
def detect (slot : Option Slot) (json : Bool) (seconds : UInt64) : Session Unit := do
  let slots := (slot.map ([·])).getD Slot.all
  let found ← slots.mapM find
  let findings ← found.mapM fun (slot, outcome, status) => do
    return { slot, outcome, status, size := ← query (·.physicalSize slot.device) : Finding }
  print (if json then detectJson findings else detectTable findings)
  hold seconds

/-- List the modes of a display. -/
def modes (slot : Slot) : Session Unit := do
  requireDisplay slot
  let active ← query (·.mode slot.device)
  let modes ← query (·.modes slot.device)
  print (modesReport slot active (modes.getD []))

/-- The mode to use for a request: of those that it accepts the first one after the foremost that
the display prefers, or else the foremost. -/
def candidate? (request : ModeRequest) (modes : List Mode) : Option Mode :=
  match modes.filter request.accepts with
  | [] => none
  | first :: rest => some ((rest.find? (·.isPreferred)).getD first)

/-- Change the mode of the external output. -/
def setMode (request : ModeRequest) (seconds : UInt64) : Session Unit := do
  requireDisplay .external
  let modes := (← query (·.modes Slot.external.device)).getD []
  match candidate? request modes with
  | none =>
    let available := ", ".intercalate (modes.map Mode.text)
    throw (.refused
      s!"No {request.text} mode on the external output. Available: {available}")
  | some mode =>
    note .info .modeCommand s!"Requested {request.text}, using {mode.text}"
    inContext s!"Failed to set mode {request.text}"
      (operate (·.setMode Slot.external.device mode))
    reportMode
    hold seconds

/-- Change the rate of the external output. -/
def refresh (hz : UInt32) (seconds : UInt64) : Session Unit := do
  requireDisplay .external
  inContext s!"Failed to set refresh rate {hz}Hz"
    (operate (·.setRefreshRate Slot.external.device hz))
  let active ← query (·.mode Slot.external.device)
  if active.map (·.vrefresh) ≠ some hz then
    printLine s!"No {hz}Hz mode at the current size, fell back to the preferred mode"
  reportMode
  hold seconds

/-- Switch a display on or off. -/
def power (power : Power) (slot : Slot) (seconds : UInt64) : Session Unit := do
  requireDisplay slot
  attempt (·.setPower slot.device power)
  printLine s!"{slot.text} output power: {power.title}"
  hold seconds

end Session

/-- A call to the host that may fail, as work. -/
def hostWork {α : Type} (context : String) (p : Proc Host (Except Fault α)) : Work α := do
  match ← onHost p with
  | .ok result => return result
  | .error fault => throw (.inContext context (.fault fault))

/-- Tell where the configuration file is. -/
def configPath (path : Path) : Work Unit := do
  printLine path.display
  if ← onHost (Host.ask (.pathExists path)) then
    printLine "(file exists)"
  else
    printLine "(file does not exist)"

/-- Show what the configuration file sets. -/
def configShow (path : Path) : Work Unit := do
  if ← onHost (Host.ask (.pathExists path)) then
    print (lines [s!"Configuration file: {path.display}", ""])
  else
    print (lines [s!"No configuration file found at: {path.display}", "",
      "Using default settings. Create a config file with:", "  krypton config init", ""])
  print (settingsReport (← loadConfig (some path)))

/-- Make a sample configuration file. -/
def configInit (path : Path) (force : Bool) : Work Unit := do
  if (← onHost (Host.ask (.pathExists path))) && !force then
    print (lines [s!"Configuration file already exists: {path.display}", "",
      "Use --force to overwrite, or edit the existing file."])
  else
    hostWork "Failed to create config directory" (Config.prepareDirectory path)
    hostWork "Failed to write config file"
      (Host.ask (.writeFile path (Utf8.bytes Config.sample)))
    print (lines [s!"Created configuration file: {path.display}", "",
      "Edit this file to match your board's connectors."])

/-- Do something with the configuration file. -/
def config (path : Option Path) (action : ConfigAction) : Work Unit := do
  let path ← onHost ((path.map pure).getD Config.defaultPath)
  match action with
  | .path => configPath path
  | .show => configShow path
  | .init force => configInit path force
  | .sample => print Config.sample

/-- Carry out a command. -/
def work (path : Option Path) : Command → Work Unit
  | .topology => withSession path Session.topology
  | .detect slot json seconds => withSession path (Session.detect slot json seconds)
  | .modes slot => withSession path (Session.modes slot)
  | .setMode request seconds => withSession path (Session.setMode request seconds)
  | .refresh hz seconds => withSession path (Session.refresh hz seconds)
  | .power power slot seconds => withSession path (Session.power power slot seconds)
  | .config action => config path action

/-- Carry out an invocation. The result is the exit code. -/
def run (invocation : Invocation) : Proc Terminal UInt32 := do
  match ← (work invocation.configPath invocation.command).run with
  | .ok () => return 0
  | .error failure =>
    onHost (Host.ask (.printError failure.report))
    return 1

/-- The version of the program. -/
def version : String := "0.2.0"

/-- What is shown when help is asked for at a stage. -/
def help (stage : Stage) : String :=
  let commands := stage.below.map fun other => "  " ++ " ".intercalate other.words
  let switches := (stage.switches.map fun switch => s!"  --{switch.name}") ++
    ["  --help", "  --version"]
  lines (["Usage: " ++ " ".intercalate stage.words, "", "Options:"] ++ switches ++
    if commands = [] then [] else ["", "Commands:"] ++ commands)

/-- Tell why a command line asks for no command. The result is the exit code. -/
def explain : Stop → Proc Terminal UInt32
  | .version stage => do
    printLine ("-".intercalate stage.words ++ " " ++ version)
    return 0
  | .help stage => do
    print (help stage)
    return 0
  | .misuse => do
    onHost (Host.ask (.printError "error: invalid usage\n\nFor more information, try '--help'.\n"))
    return 2

/-- Put the device of a procedure on its node. -/
def onNode {α : Type} (p : Proc Terminal α) : Proc (Node.sum Host) α :=
  Prod.fst <$> p.refineFirst (Card.carryOut Card.patience) {}

/-- The setting of the environment that selects what is shown of the log. -/
def logSetting : String := "RUST_LOG"

/-- The filter for the log: the setting in the environment, as far as it is well formed, and last
the directive that the verbosity stands for. What is not well formed is told. -/
def logFilter (invocation : Invocation) : Proc Host Log.Filter := do
  let setting := (← Host.ask (.setting logSetting)).bind Utf8.decode?
  let (filter, messages) := Log.Filter.ofText (String.ofList (setting.getD []))
  for message in messages do
    Host.ask (.printError (message ++ "\n"))
  return filter.add invocation.directive

/-- Carry out a command line, and leave those notes that are to be shown. The result is the exit
code. -/
def runWords (words : List String) : Proc (Node.sum Host) UInt32 := do
  match Invocation.ofWords words with
  | .ok invocation =>
    let filter ← (logFilter invocation).right
    (onNode (run invocation)).filterNotes filter.shows
  | .error stop => onNode (explain stop)

/-- An entry of the log as it is printed. -/
def noteLine (entry : Entry) : String :=
  Layout.padLeft 5 ' ' entry.level.text ++ " " ++ entry.text

end Modeset.Cli
