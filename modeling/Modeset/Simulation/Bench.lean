import Modeset.Card
import Modeset.Pool.Dumb
import Modeset.Simulation.Node

/-!
# Test benches

A bench runs procedures on a simulated machine. The device is either the scripted kernel itself or a
card on a simulated node, and picture memory comes either from the counting pool or from dumb
buffers.

## Main definitions

* `Backend` — what stands under a platform
* `Bench` — a machine, and the card on it
* `Backend.run`, `Backend.runDevice` — run a procedure on a bench
* `Bench.takeTrace`, `Bench.takeNotes` — what has come in since the last look
-/

namespace Modeset.Simulation

/-- A simulated machine, and the card that is open on it if the device is a card. -/
structure Bench where
  machine : Machine := {}
  card : Card := {}

/-- What happens on a bench. -/
abbrev OnBench : Type → Type := StateM Bench

namespace Bench

/-- Let something happen on the machine of a bench. -/
def onMachine {α : Type} (run : Run α) : OnBench α := fun bench =>
  let (result, machine) := run bench.machine
  (result, { bench with machine })

/-- Let something happen to the card of a bench. -/
def onCard {α : Type} (p : StateT Card (Proc Node) α) : OnBench α := fun bench =>
  let ((result, card), machine) := ((p bench.card).interpret node Machine.keepNote) bench.machine
  (result, { machine, card })

/-- The lines of the trace since the last look, oldest first. -/
def takeTrace : OnBench (List String) := fun bench =>
  (bench.machine.trace.reverse, { bench with machine.trace := [] })

/-- The notes since the last look, oldest first. -/
def takeNotes : OnBench (List Entry) := fun bench =>
  (bench.machine.notes.reverse, { bench with machine.notes := [] })

end Bench

/-- The device under a platform. -/
inductive Backend.Base
  /-- The scripted kernel itself. -/
  | kernel
  /-- A card on a device node. -/
  | card
  deriving DecidableEq, Repr

/-- What stands under a platform: a device, and dumb buffers with so many bits to a pixel unless the
counting pool is to be used. -/
structure Backend where
  base : Backend.Base
  dumb : Option UInt32
  deriving DecidableEq, Repr

namespace Backend

/-- Answer requests to the node and calls to the counting pool. -/
def nodeAndPool : (call : (Node.sum Pool).Call) → Run ((Node.sum Pool).Answer call)
  | .inl call => node call
  | .inr call => pool call

/-- Run a procedure on the device of a bench. -/
def runDevice {α : Type} (base : Base) (p : Proc Device α) : OnBench α :=
  match base with
  | .kernel => Bench.onMachine (p.interpret device Machine.keepNote)
  | .card => Bench.onCard (p.refine (Card.carryOut Card.patience))

/-- Run a procedure on the device of a bench and its counting pool. -/
def runCounting {α : Type} (base : Base) (p : Proc Platform α) : OnBench α :=
  match base with
  | .kernel => Bench.onMachine (p.interpret platform Machine.keepNote)
  | .card => fun bench =>
    let p := p.refineFirst (Card.carryOut Card.patience) bench.card
    let ((result, card), machine) := (p.interpret nodeAndPool Machine.keepNote) bench.machine
    (result, { machine, card })

/-- Run a procedure on a platform. -/
def run {α : Type} (backend : Backend) (p : Proc Platform α) : OnBench α :=
  match backend.dumb with
  | some bpp => runDevice backend.base (Dumb.withPool bpp p)
  | none => runCounting backend.base p

end Backend

end Modeset.Simulation
