import Modeset.Host
import Modeset.Simulation.FileTree
import Modeset.Simulation.Kernel
import Modeset.Text.Layout

/-!
# A simulated machine

A scripted kernel, a pool of memory that counts its handles, a tree of files, and an environment.
The machine can be told to let calls fail. It keeps a trace of the calls that reach it, one line
each, and the notes and the text that the program leaves.

## Main definitions

* `Plan` — when the calls of a kind fail
* `Machine` — the state of a machine
* `Machine.perform` — one call to the kernel, which may fail by plan, and its line in the trace
-/

namespace Modeset.Simulation

/-- When the calls of a kind fail. -/
inductive Plan
  /-- Each one fails. -/
  | always (fault : Fault)
  /-- Each one takes the next entry of a queue, by which it fails or not. -/
  | queue (entries : List (Option Fault))
  deriving DecidableEq, Repr

namespace Plan

/-- How the next call fails, if it does, and the plan for those after it. -/
def next : Plan → Option Fault × Plan
  | always fault => (some fault, always fault)
  | queue [] => (none, queue [])
  | queue (entry :: rest) => (entry, queue rest)

end Plan

/-- The state of a simulated machine. Lists that grow have their newest entry first. -/
structure Machine where
  kernel : Kernel := {}
  /-- The memory handles that are alive. -/
  buffers : List UInt32 := []
  /-- The next memory handle. -/
  nextBuffer : UInt32 := 1
  /-- The plans, by the kind of call or the kind and the object's number. -/
  plans : List (String × Plan) := []
  files : FileTree := {}
  environment : List (String × List UInt8) := []
  opens : Nat := 0
  closes : Nat := 0
  trace : List String := []
  notes : List Entry := []
  printed : List String := []
  printedErrors : List String := []

/-- What happens on a machine. -/
abbrev Run : Type → Type := StateM Machine

namespace Machine

/-- The plan for calls of a kind to an object: its own, or else that for the kind. -/
def planKey? (machine : Machine) (kind : String) (id : Option UInt32) : Option String :=
  let keys := (id.map fun id => s!"{kind}:{id}").toList ++ [kind]
  keys.find? fun key => machine.plans.any (·.1 = key)

/-- How a call fails by plan, if it does. -/
def nextFault (kind : String) (id : Option UInt32) : Run (Option Fault) := fun machine =>
  match machine.planKey? kind id with
  | none => (none, machine)
  | some key =>
    match machine.plans.find? (·.1 = key) with
    | none => (none, machine)
    | some (_, plan) =>
      let (fault, plan) := plan.next
      (fault, { machine with plans := (key, plan) :: machine.plans.filter (·.1 ≠ key) })

/-- Let the calls of a kind fail by a plan, or by none. -/
def setPlan (key : String) (plan : Option Plan) : Run Unit :=
  modify fun machine =>
    { machine with
      plans := (plan.map (key, ·)).toList ++ machine.plans.filter (·.1 ≠ key) }

/-- Add a line to the trace. -/
def addLine (line : String) : Run Unit :=
  modify fun machine => { machine with trace := line :: machine.trace }

/-- Keep a note. -/
def keepNote (entry : Entry) : Run Unit :=
  modify fun machine => { machine with notes := entry :: machine.notes }

/-- How the outcome of a call is shown in the trace. -/
def showOutcome {α : Type} (showReply : α → String) : Except Fault α → String
  | .ok reply => showReply reply
  | .error (.os errno) => s!"E{errno}"
  | .error fault => s!"E:{fault.message}"

/-- How a reply with nothing in it is shown in the trace. -/
def showDone {α : Type} (_ : α) : String := "ok"

/-- Make one call to the kernel. The plans come first; a call that fails changes nothing. -/
def attempt {α : Type} (kind : String) (id : Option UInt32)
    (act : Kernel → Except Fault (α × Kernel)) : Run (Except Fault α) := do
  match ← nextFault kind id with
  | some fault => return .error fault
  | none =>
    match act (← get).kernel with
    | .error fault => return .error fault
    | .ok (reply, kernel) =>
      modify fun machine => { machine with kernel }
      return .ok reply

/-- Make one call to the kernel and add its line to the trace. -/
def perform {α : Type} (line : String) (showReply : α → String) (kind : String)
    (id : Option UInt32) (act : Kernel → Except Fault (α × Kernel)) : Run (Except Fault α) := do
  let outcome ← attempt kind id act
  addLine s!"{line} -> {showOutcome showReply outcome}"
  return outcome

/-- A look at the kernel that changes nothing. -/
def look {α : Type} (read : Kernel → Except Fault α) (kernel : Kernel) :
    Except Fault (α × Kernel) :=
  (read kernel).map (·, kernel)

/-- A change of the kernel that gives nothing back. -/
def change (act : Kernel → Except Fault Kernel) (kernel : Kernel) :
    Except Fault (Unit × Kernel) :=
  (act kernel).map ((), ·)

end Machine

/-- A mode as the trace shows it. -/
def modeLine (mode : Mode) : String :=
  s!"{mode.hdisplay}x{mode.vdisplay}@{mode.vrefresh} type={mode.kind} flags={mode.flags} " ++
    s!"clock={mode.clock}"

/-- The line of a call that makes a framebuffer. -/
def framebufferLine (spec : FramebufferSpec) : String :=
  s!"add_fb {spec.width}x{spec.height} pitch={spec.pitch} bpp={spec.bpp} depth={spec.depth} " ++
    s!"handle={spec.handle}"

/-- The line of a call that sets a CRTC. -/
def crtcLine (id framebuffer x y : UInt32) (connectors : List UInt32) (mode : Option Mode) :
    String :=
  let connectors := ", ".intercalate (connectors.map toString)
  let mode := (mode.map modeLine).getD "none"
  s!"set_crtc {id} fb={framebuffer} pos={x},{y} conns=[{connectors}] mode={mode}"

/-- The line of a call that gives a property a value. -/
def propertyLine (connector property : UInt32) (value : UInt64) : String :=
  s!"set_property {connector} prop={property} value={value}"

/-- The line of a call that makes a plain buffer. -/
def dumbLine (width height bpp : UInt32) : String := s!"create_dumb {width}x{height} bpp={bpp}"

end Modeset.Simulation
