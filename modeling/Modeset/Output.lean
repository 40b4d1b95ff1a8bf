import Modeset.Framebuffer
import Modeset.Slot

/-!
# Outputs

What the display manager holds for each of its two slots: the connector with the display, the
encoder and the CRTC that serve it, the mode that is active, and the framebuffer that the manager
made for it. An output whose mode was already running when it was found has no framebuffer of the
manager's. An idle slot holds nothing.

## Main definitions

* `Output` — what is held for a slot
* `Output.display?` — the connector that has a display in it
* `Output.reset` — give up what is held for a slot
* `Outputs` — the outputs of the two slots
* `OutputStatus` — what callers may know of a slot

## Main results

* `Outputs.get_set_same`, `Outputs.get_set_of_ne` — a slot changes alone
* `Output.display?_eq_some_iff`, `Output.activeMode?_eq_some_iff` — which connector is the display's
  and which mode is active
* `Output.status_idle` — the status of an idle slot
-/

namespace Modeset

/-- What callers may know of a slot. -/
structure OutputStatus where
  connected : Bool := false
  connectorId : Option UInt32 := none
  encoderId : Option UInt32 := none
  crtcId : Option UInt32 := none
  mode : Option Mode := none
  framebufferId : UInt32 := 0
  bufferHandle : UInt32 := 0
  deriving DecidableEq

/-- What is held for a slot. -/
structure Output where
  /-- Whether a connector of the expected kind has a display in it. -/
  connected : Bool := false
  connector : Option Connector := none
  encoder : Option Encoder := none
  crtc : Option Crtc := none
  /-- The active mode; all zero if none is. -/
  mode : Mode := .zero
  framebuffer : Option Framebuffer := none
  deriving DecidableEq

namespace Output

/-- A slot that holds nothing. -/
def idle : Output := {}

/-- The connector, if it has a display in it. -/
def display? (output : Output) : Option Connector :=
  if output.connected then output.connector else none

theorem display?_eq_some_iff {output : Output} {connector : Connector} :
    output.display? = some connector ↔
      output.connected = true ∧ output.connector = some connector := by
  simp [display?]

/-- The mode, unless it has no area. -/
def mode? (output : Output) : Option Mode :=
  if output.mode.isEmpty then none else some output.mode

/-- The active mode of a display. -/
def activeMode? (output : Output) : Option Mode :=
  if output.connected then output.mode? else none

theorem activeMode?_eq_some_iff {output : Output} {mode : Mode} :
    output.activeMode? = some mode ↔
      output.connected = true ∧ output.mode.isEmpty = false ∧ output.mode = mode := by
  simp [activeMode?, mode?]

/-- What callers may know of the slot. -/
def status (output : Output) : OutputStatus where
  connected := output.connected
  connectorId := output.connector.map (·.id)
  encoderId := output.encoder.map (·.id)
  crtcId := output.crtc.map (·.id)
  mode := output.mode?
  framebufferId := (output.framebuffer.map (·.id)).getD 0
  bufferHandle := (output.framebuffer.map (·.handle)).getD 0

@[simp] theorem status_idle : idle.status = {} := rfl

/-- Give up what is held for a slot. A framebuffer whose device is no longer open is lost. -/
def reset (output : Output) (isOpen : Bool) : Proc Platform Output := do
  if let some framebuffer := output.framebuffer then
    if isOpen then
      framebuffer.release
    else
      Proc.warn .output s!"Framebuffer {framebuffer.id} outlived its device, leaking"
  return idle

end Output

/-- The outputs of the two slots. -/
structure Outputs where
  primary : Output := .idle
  external : Output := .idle
  deriving DecidableEq

namespace Outputs

/-- What a slot holds. -/
def get (outputs : Outputs) : Slot → Output
  | .primary => outputs.primary
  | .external => outputs.external

/-- The outputs with another one in a slot. -/
def set (outputs : Outputs) (output : Output) : Slot → Outputs
  | .primary => { outputs with primary := output }
  | .external => { outputs with external := output }

@[simp] theorem get_set_same (outputs : Outputs) (output : Output) (slot : Slot) :
    (outputs.set output slot).get slot = output := by
  cases slot <;> rfl

theorem get_set_of_ne (outputs : Outputs) (output : Output) {slot other : Slot}
    (h : other ≠ slot) : (outputs.set output slot).get other = outputs.get other := by
  cases slot <;> cases other <;> first | rfl | exact absurd rfl h

/-- Give up what both slots hold, the primary one first. -/
def reset (outputs : Outputs) (isOpen : Bool) : Proc Platform Outputs := do
  let primary ← outputs.primary.reset isOpen
  let external ← outputs.external.reset isOpen
  return { primary, external }

end Outputs

end Modeset
