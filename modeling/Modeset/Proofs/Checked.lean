import Modeset.Manager.Command
import Modeset.Manager.Power
import Modeset.Proofs.Run

/-!
# Checked before the device is asked

A display is switched, and a driver command is passed on, only after the manager has looked at all
that it knows itself. The checks have a fixed order, and the first one that fails is the one that is
told; then the device is not asked for anything. So each of the two operations is either refused, or
it is what is left of it when all checks have passed.

## Main definitions

* `Manager.MaySwitch`, `Manager.switchable` — a display that may be switched, or why there is none
* `Manager.commandFailure` — what is returned for a command that failed

## Main results

* `Manager.run_setPower_iff` — nothing is asked about a display that may not be switched
* `Manager.run_passOn_iff` — nothing is asked for a command that cannot be passed on
-/

namespace Modeset

open Proc

namespace Manager

variable {manager : Manager} {events : List (Event Platform)}

/-! ## Switching a display -/

section Switch

variable {device : UInt32} {power : Power} {connector : Connector} {result : Except Error Unit}

/-- The display that a device number names is there, and it may be switched. -/
structure MaySwitch (manager : Manager) (device : UInt32) (connector : Connector) : Prop where
  allowed : manager.config.powerControl = true
  isOpen : manager.isOpen = true
  plugged : ∃ slot, Slot.ofDevice? device = some slot ∧
    (manager.output slot).connected = true ∧ (manager.output slot).connector = some connector

theorem MaySwitch.unique {other : Connector} (may : manager.MaySwitch device connector)
    (also : manager.MaySwitch device other) : other = connector := by
  obtain ⟨slot, addressed, -, holds⟩ := may.plugged
  obtain ⟨otherSlot, other_addressed, -, other_holds⟩ := also.plugged
  obtain rfl := Option.some.inj (addressed.symm.trans other_addressed)
  exact Option.some.inj (other_holds.symm.trans holds)

/-- The display that may be switched, or why there is none. What is wrong with the configuration is
told before what is wrong with the device, and that before what is wrong with the slot. -/
def switchable (manager : Manager) (device : UInt32) : Except Error Connector :=
  if manager.config.powerControl = false then .error (.unsupported "power control is disabled")
  else if manager.isOpen = false then .error .notInitialized
  else
    match Slot.ofDevice? device with
    | none => .error (.invalidDevice device)
    | some slot =>
      match (manager.output slot).display? with
      | none => .error (.notConnected device)
      | some connector => .ok connector

theorem switchable_eq_ok_iff :
    manager.switchable device = .ok connector ↔ manager.MaySwitch device connector := by
  unfold switchable
  constructor
  · intro found
    cases allowed : manager.config.powerControl with
    | false => simp [allowed] at found
    | true =>
    cases isOpen : manager.isOpen with
    | false => simp [allowed, isOpen] at found
    | true =>
    cases addressed : Slot.ofDevice? device with
    | none => simp [allowed, isOpen, addressed] at found
    | some slot =>
    cases plugged : (manager.output slot).display? with
    | none => simp [allowed, isOpen, addressed, plugged] at found
    | some other =>
      obtain rfl : other = connector := by simpa [allowed, isOpen, addressed, plugged] using found
      exact ⟨allowed, isOpen, slot, addressed, Output.display?_eq_some_iff.mp plugged⟩
  · rintro ⟨allowed, isOpen, slot, addressed, plugged⟩
    simp [allowed, isOpen, addressed, Output.display?_eq_some_iff.mpr plugged]

/-- Nothing is asked about a display that may not be switched. -/
theorem run_setPower_iff : (manager.setPower device power).Run events result ↔
    match manager.switchable device with
    | .error error => events = [] ∧ result = .error error
    | .ok connector => (setPowerProperty connector power connector.props).Run events result := by
  unfold setPower switchable
  cases allowed : manager.config.powerControl with
  | false => simp
  | true =>
  cases isOpen : manager.isOpen with
  | false => simp
  | true =>
  cases addressed : Slot.ofDevice? device with
  | none => simp
  | some slot =>
    cases plugged : (manager.output slot).display? with
    | none => simp [plugged]
    | some connector => simp [plugged]

end Switch

/-! ## Passing a command on -/

/-- What is returned for a command that failed. What carries no error number never reached the
driver. -/
def commandFailure (command : UInt32) (fault : Fault) : Error :=
  match fault.errno? with
  | some errno => .command command errno
  | none => .invalidArgument fault.message

/-- What becomes of a command that fails is only noted. -/
theorem run_commandError_iff {command : UInt32} {fault : Fault} {error : Error} :
    (commandError command fault).Run events error ↔
      events = [] ∧ error = commandFailure command fault := by
  unfold commandError commandFailure
  cases fault.errno? <;> simp

/-- A command is passed on only with the node open, and only with something in it. -/
theorem run_passOn_iff {α : Type} {command : UInt32} {payload : List UInt8}
    {call : Proc Platform (Except Fault α)} {result : Except Error α} :
    (manager.passOn command payload call).Run events result ↔
      if manager.isOpen = false then events = [] ∧ result = .error .notInitialized
      else if payload = [] then
        events = [] ∧ result = .error (.invalidArgument "empty ioctl payload")
      else
        ∃ answer, call.Run events answer ∧ result = answer.mapError (commandFailure command) := by
  unfold passOn
  cases isOpen : manager.isOpen with
  | false => simp
  | true =>
  by_cases empty : payload = []
  · simp [empty]
  simp only [empty, List.isEmpty_iff, Bool.not_true, Bool.false_eq_true, Bool.true_eq_false,
    if_false]
  constructor
  · intro run
    obtain ⟨first, answer, rest, call_run, report, rfl⟩ := run_bind_iff.mp run
    cases answer with
    | ok reply =>
      obtain ⟨rfl, rfl⟩ := run_done_iff.mp report
      exact ⟨.ok reply, by rwa [List.append_nil], rfl⟩
    | error fault =>
      obtain ⟨error, noted, rfl⟩ := run_bind_pure_iff.mp report
      obtain ⟨rfl, rfl⟩ := run_commandError_iff.mp noted
      exact ⟨.error fault, by rwa [List.append_nil], rfl⟩
  · rintro ⟨answer, call_run, rfl⟩
    apply call_run.bind_nil
    cases answer with
    | ok reply => exact .done _
    | error fault => exact run_bind_pure_iff.mpr ⟨_, run_commandError_iff.mpr ⟨rfl, rfl⟩, rfl⟩

end Manager

end Modeset
