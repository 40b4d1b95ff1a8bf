import Modeset.Cli.Invocation

/-!
# Command lines

The words of a command line are read from left to right. A word that names a command leads one level
down; words with a dash are switches of the level where they stand; other words are operands. A
switch that takes a value takes it from behind an equals sign, from the rest of its word, or from
the next word, which then must not look like a switch. Behind a lone `--` all words are operands. A
switch is given at most once a level, unless it counts.

The first thing that is wrong, or that asks for help or the version, decides. A switch whose value
is a word of its own is settled only when something else follows at its level; what follows at a
level below comes before it.

## Main definitions

* `Stage` — the levels of commands
* `Part`, `Reading` — what has been read of a level, and of a command line
* `Reading.read` — read the words of a command line
* `Invocation.ofWords` — the invocation that a command line is
-/

namespace Modeset.Cli

/-- A level of the command line: the program itself, or a command. -/
inductive Stage
  | program | topology | detect | modes | setMode | refresh | power
  | config | configPath | configShow | configInit | configSample
  deriving DecidableEq, Repr

namespace Stage

/-- The words that lead to the stage. -/
def words : Stage → List String
  | program => ["krypton"]
  | topology => ["krypton", "topology"]
  | detect => ["krypton", "detect"]
  | modes => ["krypton", "modes"]
  | setMode => ["krypton", "set-mode"]
  | refresh => ["krypton", "refresh"]
  | power => ["krypton", "power"]
  | config => ["krypton", "config"]
  | configPath => ["krypton", "config", "path"]
  | configShow => ["krypton", "config", "show"]
  | configInit => ["krypton", "config", "init"]
  | configSample => ["krypton", "config", "sample"]

/-- The stages one level down. -/
def below : Stage → List Stage
  | program => [topology, detect, modes, setMode, refresh, power, config]
  | config => [configPath, configShow, configInit, configSample]
  | _ => []

/-- The stage that a word leads to. -/
def next? (stage : Stage) (word : String) : Option Stage :=
  stage.below.find? fun other => other.words.getLast? = some word

end Stage

/-- The number of seconds to hold, from its word. -/
def hold? (word : String) : Option UInt64 :=
  (Decimal.unsigned? (UInt64.size - 1) word.toList).map Nat.toUInt64

/-- The rate, from its word. A zero may have a minus sign. -/
def rate? (word : String) : Option UInt32 :=
  match word.toList with
  | '-' :: digits => (Decimal.digits? digits).bind fun n => if n = 0 then some 0 else none
  | text => (Decimal.unsigned? (UInt32.size - 1) text).map Nat.toUInt32

/-- The mode request, from its word. -/
def request? (word : String) : Option ModeRequest := (ModeRequest.parse word).toOption

/-- A switch of the command line. -/
structure Switch where
  name : String
  letter : Option Char := none
  /-- Which words can be its value, if it takes one. -/
  value : Option (String → Bool) := none
  /-- Whether it may be given again. -/
  counts : Bool := false

namespace Switch

/-- How much of the log is shown. -/
def verbose : Switch := { name := "verbose", letter := some 'v', counts := true }

/-- The configuration file. -/
def config : Switch := { name := "config", value := some fun word => word ≠ "" }

/-- The slot. -/
def device : Switch :=
  { name := "device", letter := some 'd', value := some fun word => (Slot.parse? word).isSome }

/-- The report in JSON. -/
def json : Switch := { name := "json" }

/-- The seconds to hold. -/
def hold : Switch := { name := "hold", value := some fun word => (hold? word).isSome }

/-- Write over an old file. -/
def force : Switch := { name := "force", letter := some 'f' }

/-- The switches that every stage has. -/
def common : List Switch := [verbose, config]

end Switch

namespace Stage

/-- The switches of a stage. -/
def switches : Stage → List Switch
  | detect => [.device, .json, .hold] ++ Switch.common
  | modes => .device :: Switch.common
  | setMode | refresh => .hold :: Switch.common
  | power => [.device, .hold] ++ Switch.common
  | configInit => .force :: Switch.common
  | _ => Switch.common

/-- Which words can be the operand of a stage, if it has one. -/
def operand : Stage → Option (String → Bool)
  | setMode => some fun word => (request? word).isSome
  | refresh => some fun word => (rate? word).isSome
  | power => some fun word => (Power.parse? word).isSome
  | _ => none

end Stage

/-- Why a command line asks for no command. -/
inductive Stop
  /-- Something is wrong. -/
  | misuse
  /-- The version is asked for. -/
  | version (stage : Stage)
  /-- Help is asked for. -/
  | help (stage : Stage)
  deriving DecidableEq, Repr

/-- What has been read of one level of a command line. -/
structure Part where
  stage : Stage := .program
  /-- The switches that were given, with their values. -/
  given : List (String × String) := []
  /-- A switch that is still to be settled, with the word that is its value. -/
  pending : Option (Switch × String) := none

namespace Part

/-- Note a switch with its value. -/
def give (part : Part) (switch : Switch) (value : String) : Except Stop Part :=
  if part.given.any (·.1 = switch.name) ∧ !switch.counts then .error .misuse
  else if (switch.value.map (· value)).getD true then
    .ok { part with given := part.given ++ [(switch.name, value)] }
  else .error .misuse

/-- Settle the pending switch. -/
def settle (part : Part) : Except Stop Part :=
  match part.pending with
  | none => .ok part
  | some (switch, value) => { part with pending := none }.give switch value

/-- What was given for a switch. -/
def values (part : Part) (switch : Switch) : List String :=
  (part.given.filter (·.1 = switch.name)).map (·.2)

end Part

/-- What has been read of a command line: the lowest level so far, and what came before. -/
structure Reading extends Part where
  /-- The levels above, nearest first. -/
  above : List Part := []
  operand : Option String := none

namespace Reading

/-- Go on at a stage below. -/
def enter (reading : Reading) (stage : Stage) : Reading :=
  { stage, above := reading.toPart :: reading.above }

/-- Note a switch with its value. -/
def give (reading : Reading) (switch : Switch) (value : String) : Except Stop Reading :=
  (reading.toPart.give switch value).map fun part => { reading with toPart := part }

/-- Settle the pending switch. -/
def settle (reading : Reading) : Except Stop Reading :=
  reading.toPart.settle.map fun part => { reading with toPart := part }

/-- Settle what is pending at any level, the lowest first. -/
def settleAll (reading : Reading) : Except Stop Reading := do
  let reading ← reading.settle
  return { reading with above := ← reading.above.mapM Part.settle }

/-- Note an operand. -/
def take (reading : Reading) (word : String) : Except Stop Reading :=
  match reading.stage.operand, reading.operand with
  | some accepts, none =>
    if accepts word then .ok { reading with operand := some word } else .error .misuse
  | _, _ => .error .misuse

/-- What a word with dashes has given: a reading, and perhaps a switch whose value is to come. -/
abbrev Given := Reading × Option Switch

/-- Read a switch by name. -/
def readName (reading : Reading) (name : String) (value : Option String) : Except Stop Given :=
  match reading.stage.switches.find? (·.name = name) with
  | some switch =>
    match switch.value, value with
    | none, none => (reading.give switch "").map (·, none)
    | none, some _ => .error .misuse
    | some _, some value => (reading.give switch value).map (·, none)
    | some _, none => .ok (reading, some switch)
  | none =>
    match name, value with
    | "version", none => .error (.version reading.stage)
    | "help", none => .error (.help reading.stage)
    | _, _ => .error .misuse

/-- Read the letters behind a single dash. The value of a switch is the rest of the word. -/
def readLetters (reading : Reading) : List Char → Except Stop Given
  | [] => .ok (reading, none)
  | letter :: rest =>
    match reading.stage.switches.find? (·.letter = some letter) with
    | some switch =>
      if switch.value.isNone then
        match reading.give switch "" with
        | .error stop => .error stop
        | .ok reading => readLetters reading rest
      else
        match rest with
        | [] => .ok (reading, some switch)
        | '=' :: value | value => (reading.give switch (String.ofList value)).map (·, none)
    | none =>
      if letter = 'V' then .error (.version reading.stage)
      else if letter = 'h' then .error (.help reading.stage)
      else .error .misuse

/-- Read a word with dashes, without the first of them, at a level where nothing is pending. -/
def readDashed (reading : Reading) : List Char → Except Stop Given
  | '-' :: rest =>
    match ModeRequest.cut? (· = '=') rest with
    | some (name, value) => reading.readName (String.ofList name) (some (String.ofList value))
    | none => reading.readName (String.ofList rest) none
  | letters => reading.readLetters letters

/-- Read the words behind a request for help: each must lead one level down. -/
def readTopic (stage : Stage) : List String → Stop
  | [] => .help stage
  | word :: rest =>
    match stage.next? word with
    | some next => readTopic next rest
    | none => if word = "help" ∧ rest = [] ∧ stage.below ≠ [] then .help stage else .misuse

/-- Read the words behind a lone `--`. -/
def readOperands (reading : Reading) (words : List String) : Except Stop Reading :=
  words.foldlM take reading

/-- Whether a word looks like a switch. -/
def isDashed (word : String) : Bool := word.front = '-' ∧ word ≠ "-"

/-- Read the words of a command line. -/
def read (reading : Reading) : List String → Except Stop Reading
  | [] => reading.settleAll
  | word :: rest =>
    match reading.stage.next? word with
    | some stage => read (reading.enter stage) rest
    | none =>
      if word = "help" ∧ reading.stage.below ≠ [] then .error (readTopic reading.stage rest)
      else if word = "--" then do (← reading.settleAll).readOperands rest
      else if isDashed word then
        match reading.settle.bind (·.readDashed (word.toList.drop 1)) with
        | .error stop => .error stop
        | .ok (reading, none) => read reading rest
        | .ok (reading, some switch) =>
          match rest with
          | [] => .error .misuse
          | value :: rest =>
            if isDashed value then .error .misuse
            else read { reading with pending := some (switch, value) } rest
      else
        match reading.settle.bind (·.take word) with
        | .error stop => .error stop
        | .ok reading => read reading rest

/-- The value of a switch at this stage. -/
def value? (reading : Reading) (switch : Switch) : Option String :=
  reading.given.lookup switch.name

/-- What was given for a common switch at the lowest stage where it was given at all. -/
def commonValues (reading : Reading) (switch : Switch) : List String :=
  (((reading.toPart :: reading.above).map (·.values switch)).find? (· ≠ [])).getD []

/-- The slot that was given. -/
def slot? (reading : Reading) : Option Slot := (reading.value? .device).bind Slot.parse?

/-- The seconds that were given, or none. -/
def seconds (reading : Reading) : UInt64 := ((reading.value? .hold).bind hold?).getD 0

/-- The command that was read. -/
def command? (reading : Reading) : Option Command :=
  match reading.stage with
  | .program | .config => none
  | .topology => some .topology
  | .detect =>
    some (.detect reading.slot? (reading.value? .json).isSome reading.seconds)
  | .modes => some (.modes (reading.slot?.getD .external))
  | .setMode => (reading.operand.bind request?).map (.setMode · reading.seconds)
  | .refresh => (reading.operand.bind rate?).map (.refresh · reading.seconds)
  | .power =>
    (reading.operand.bind Power.parse?).map
      (.power · (reading.slot?.getD .external) reading.seconds)
  | .configPath => some (.config .path)
  | .configShow => some (.config .show)
  | .configInit => some (.config (.init (reading.value? .force).isSome))
  | .configSample => some (.config .sample)

end Reading

/-- The invocation that the words of a command line are. -/
def Invocation.ofWords (words : List String) : Except Stop Invocation := do
  let reading ← Reading.read {} words
  match reading.command? with
  | none => throw .misuse
  | some command =>
    return {
      verbosity := (reading.commonValues .verbose).length
      configPath := (reading.commonValues .config).head?.map Path.ofString
      command }

end Modeset.Cli
