import Modeset.Proofs.Checked
import Modeset.Proofs.Discovery

/-!
# What an operation does

Everything that a manager can be asked to do, and all that this can do to it. Most operations leave
the outputs as they are and make no call that concerns a framebuffer. The others open or close the
node, find the display of a slot, or commit a mode of the external output. A history is a sequence
of operations, each with whatever arguments and answers.

## Main definitions

* `Operation`, `Operation.run` — what a manager can be asked to do
* `History` — the calls of a sequence of operations on a new manager, and the manager behind them
* `Manager.Detected`, `Manager.Changed` — the ways in which a detection and a change of mode can go
* `Manager.Effect` — the ways in which an operation can change a manager

## Main results

* `Manager.detected_of_run`, `Manager.changed_of_run` — what a detection and a change of mode do
* `Operation.effect_of_run` — an operation has one of the effects
* `History.induction` — what every effect keeps holds behind every history
-/

namespace Modeset

open Proc

/-- What a manager can be asked to do. A command with a plain value is one with its bytes. -/
inductive Operation
  | start
  | stop
  | detect (device : UInt32)
  | setMode (device : UInt32) (mode : Mode)
  | setRefreshRate (device hz : UInt32)
  | setPower (device : UInt32) (power : Power)
  | topology
  | write (command : UInt32) (payload : List UInt8)
  | writeRead (command : UInt32) (payload : List UInt8)
  | mode (device : UInt32)
  | modes (device : UInt32)
  | physicalSize (device : UInt32)
  | isConnected (device : UInt32)
  | status (device : UInt32)

namespace Operation

/-- What an operation returns. -/
abbrev Result : Operation → Type
  | start | setMode .. | setRefreshRate .. | setPower .. | write .. => Except Error Unit
  | stop => Unit
  | detect _ => Except Error Outcome
  | topology => Except Error Topology
  | writeRead .. => Except Error (List UInt8)
  | mode _ => Option Mode
  | modes _ => Option (List Mode)
  | physicalSize _ => Option PhysicalSize
  | isConnected _ => Bool
  | status _ => Option OutputStatus

/-- An operation that leaves the manager as it is. -/
def keeping {α : Type} (manager : Manager) (query : Proc Platform α) :
    Proc Platform (α × Manager) :=
  return (← query, manager)

/-- Carry out an operation on a manager. -/
def run (manager : Manager) : (operation : Operation) → Proc Platform (operation.Result × Manager)
  | .start => manager.start
  | .stop => return ((), ← manager.stop)
  | .detect device => manager.detect device
  | .setMode device wanted => manager.setMode device wanted
  | .setRefreshRate device hz => manager.setRefreshRate device hz
  | .setPower device power => keeping manager (manager.setPower device power)
  | .topology => keeping manager manager.topology
  | .write command payload => keeping manager (manager.write command payload)
  | .writeRead command payload => keeping manager (manager.writeRead command payload)
  | .mode device => keeping manager (manager.mode device)
  | .modes device => keeping manager (manager.modes device)
  | .physicalSize device => keeping manager (manager.physicalSize device)
  | .isConnected device => keeping manager (manager.isConnected device)
  | .status device => keeping manager (manager.status device)

end Operation

/-- The calls, with their answers, of some operations on a new manager, one after the other, and the
manager behind them. -/
inductive History (config : Config) : List (Event Platform) → Manager → Prop
  | new : History config [] (.new config)
  | step {events others : List (Event Platform)} {manager after : Manager}
      (history : History config events manager) (operation : Operation)
      {result : operation.Result} (run : (operation.run manager).Run others (result, after)) :
      History config (events ++ others) after

section Steady

/-- Whether a call to the device does not concern framebuffers, plain buffers or CRTCs, except that
it may ask for a description of one. -/
def Kms.Call.isSteady (call : Kms.Call) : Bool :=
  match call with
  | .setConnectorProperty .. | .commandWrite .. | .commandWriteRead .. => true
  | _ => call.isRead

/-- An event that changes neither framebuffers nor CRTCs. -/
def Event.IsSteady (event : Event Platform) : Prop :=
  ∃ call answer, call.isSteady = true ∧ event = .kms call answer

theorem Event.isSteady_kms {call : Kms.Call} {answer : Kms.Answer call}
    (steady : call.isSteady = true) : (Event.kms call answer).IsSteady :=
  ⟨call, answer, steady, rfl⟩

theorem Event.IsRead.isSteady {event : Event Platform} (read : event.IsRead) : event.IsSteady := by
  obtain ⟨call, answer, hcall, rfl⟩ := read
  refine isSteady_kms ?_
  cases call with
  | setConnectorProperty | commandWrite | commandWriteRead => rfl
  | _ => exact hcall

end Steady

variable {events : List (Event Platform)}

namespace Outputs

/-- How both slots are given up, the primary one first. -/
def Retired (outputs : Outputs) (events : List (Event Platform)) : Prop :=
  ∃ first second, Framebuffer.Retired outputs.primary.framebuffer first ∧
    Framebuffer.Retired outputs.external.framebuffer second ∧ events = first ++ second

/-- A reset of both slots with the device open gives up both framebuffers. -/
theorem of_run_reset {outputs after : Outputs} {isOpen : Bool}
    (run : (outputs.reset isOpen).Run events after) :
    (if isOpen then outputs.Retired events else events = []) ∧ after = {} := by
  obtain ⟨first, _, rest, reset, next, rfl⟩ := run_bind_iff.mp run
  obtain ⟨primary, rfl⟩ := Output.run_reset_iff.mp reset
  obtain ⟨second, _, rest, reset, last, rfl⟩ := run_bind_iff.mp next
  obtain ⟨external, rfl⟩ := Output.run_reset_iff.mp reset
  obtain ⟨rfl, rfl⟩ := run_done_iff.mp last
  refine ⟨?_, rfl⟩
  cases isOpen with
  | true => exact ⟨first, second, primary, external, by simp⟩
  | false => simp_all

end Outputs

namespace Manager

/-- The framebuffers that the two slots hold. -/
def framebuffers (manager : Manager) : List Framebuffer :=
  (manager.output .primary).framebuffer.toList ++ (manager.output .external).framebuffer.toList

variable {manager after : Manager}

/-- What is done when the manager is left behind: if the node is open, both slots are given up and
then the node is closed. -/
inductive Closed (manager : Manager) : List (Event Platform) → Prop
  | shut (shut : manager.isOpen = false) : Closed manager []
  | opened (isOpen : manager.isOpen = true) {events : List (Event Platform)}
      (retired : manager.outputs.Retired events) : Closed manager (events ++ [.closed])

theorem closed_of_run_stop (run : manager.stop.Run events after) :
    manager.Closed events ∧ after = new manager.config := by
  obtain ⟨first, _, rest, reset, last, rfl⟩ := run_bind_iff.mp run
  obtain ⟨retired, rfl⟩ := Outputs.of_run_reset reset
  cases isOpen : manager.isOpen with
  | true =>
    simp only [isOpen, if_true, Platform.run_closeNode_bind_iff] at retired last
    obtain ⟨others, rfl, last⟩ := last
    obtain ⟨rfl, rfl⟩ : others = [] ∧ after = new manager.config := by
      simpa [new] using last
    exact ⟨.opened isOpen retired, rfl⟩
  | false =>
    obtain rfl : first = [] := by simpa [isOpen] using retired
    obtain ⟨rfl, rfl⟩ : rest = [] ∧ after = new manager.config := by
      simpa [isOpen, new] using last
    exact ⟨.shut isOpen, rfl⟩

theorem closed_of_run_drop {u : Unit} (run : manager.drop.Run events u) :
    manager.Closed events := by
  unfold drop at run
  cases isOpen : manager.isOpen with
  | true =>
    simp only [isOpen, if_true, warn, run_log_bind_iff] at run
    obtain ⟨first, _, rest, reset, last, rfl⟩ := run_bind_iff.mp run
    obtain rfl := run_ask_iff.mp last
    exact .opened isOpen (Outputs.of_run_reset reset).1
  | false =>
    obtain rfl : events = [] := by simpa [isOpen] using run
    exact .shut isOpen

/-- What is returned when no display has been found for a slot. That the external output cannot be
used on this device is no error. -/
def undetected (slot : Slot) (error : Error) : Except Error Outcome :=
  if slot = .external ∧ error.isUnresolved then .ok .disabled else .error error

/-- The ways in which a detection can go: the calls with their answers, and the result together with
the manager behind it. -/
inductive Detected (manager : Manager) (slot : Slot) :
    List (Event Platform) → Except Error Outcome × Manager → Prop
  /-- The slot has what the discovery has found. -/
  | found {before events : List (Event Platform)} {outcome : Outcome} {output : Output}
      (retired : Framebuffer.Retired (manager.output slot).framebuffer before)
      (discovered : Output.Discovered manager.config slot .idle events (.ok outcome, output)) :
      Detected manager slot (before ++ events) (.ok outcome, manager.hold slot output)
  /-- The discovery has failed, and the slot is idle. -/
  | failed {before events : List (Event Platform)} {error : Error} {output : Output}
      (retired : Framebuffer.Retired (manager.output slot).framebuffer before)
      (discovered : Output.Discovered manager.config slot .idle events (.error error, output)) :
      Detected manager slot (before ++ events) (undetected slot error, manager.hold slot .idle)

/-- A detection gives up what its slot held and then makes a discovery. -/
theorem exists_discovery_of_run {slot : Slot} {result : Except Error Outcome × Manager}
    (run : (manager.detectSlot slot).Run events result) :
    ∃ before walk, events = before ++ walk ∧
      Framebuffer.Retired (manager.output slot).framebuffer before ∧
      ((∃ outcome output,
          (Output.discover manager.config slot .idle).Run walk (.ok outcome, output) ∧
            result = (.ok outcome, manager.hold slot output)) ∨
        ∃ error output,
          (Output.discover manager.config slot .idle).Run walk (.error error, output) ∧
            result = (undetected slot error, manager.hold slot .idle)) := by
  obtain ⟨before, _, rest, reset, next, rfl⟩ := run_bind_iff.mp run
  obtain ⟨retired, rfl⟩ := Output.run_reset_iff.mp reset
  obtain ⟨walk, ⟨outcome, output⟩, rest, discover, last, rfl⟩ := run_bind_iff.mp next
  cases outcome with
  | ok outcome =>
    obtain ⟨rfl, rfl⟩ : rest = [] ∧ result = (.ok outcome, manager.hold slot output) := by
      cases outcome <;> simpa using last
    rw [List.append_nil]
    exact ⟨before, walk, rfl, retired, .inl ⟨outcome, output, discover, rfl⟩⟩
  | error error =>
    obtain ⟨final, _, rest, reset, report, rfl⟩ := run_bind_iff.mp last
    obtain ⟨unused, rfl⟩ := Output.run_reset_iff.mp reset
    -- A discovery that fails has made no framebuffer, so the second reset has nothing to give up.
    rw [if_pos rfl, (Output.discovered_of_run discover).framebuffer_of_error rfl] at unused
    cases unused
    obtain ⟨rfl, rfl⟩ : rest = [] ∧ result = (undetected slot error, manager.hold slot .idle) := by
      by_cases disabled : slot = .external ∧ error.isUnresolved <;>
        simpa [undetected, disabled] using report
    rw [List.append_nil, List.append_nil]
    exact ⟨before, walk, rfl, retired, .inr ⟨error, output, discover, rfl⟩⟩

theorem detected_of_run {slot : Slot} {result : Except Error Outcome × Manager}
    (run : (manager.detectSlot slot).Run events result) : manager.Detected slot events result := by
  obtain ⟨before, walk, rfl, retired, way⟩ := exists_discovery_of_run run
  rcases way with ⟨outcome, output, discover, rfl⟩ | ⟨error, output, discover, rfl⟩
  · exact .found retired (Output.discovered_of_run discover)
  · exact .failed retired (Output.discovered_of_run discover)

/-- A detection changes nothing but what is held for its slot. -/
theorem Detected.eq_hold {slot : Slot} {result : Except Error Outcome}
    (detected : manager.Detected slot events (result, after)) :
    after = manager.hold slot (after.output slot) := by
  cases detected <;> rw [output_hold_same]

/-- A detection leaves the other slot as it is. -/
theorem Detected.output_of_ne {slot other : Slot} {result : Except Error Outcome}
    (detected : manager.Detected slot events (result, after)) (differs : other ≠ slot) :
    after.output other = manager.output other := by
  rw [detected.eq_hold]
  exact output_hold_of_ne manager _ differs

/-- The ways in which a change of mode can go: the calls with their answers, and the result together
with the manager behind it. -/
inductive Changed (manager : Manager) (device : UInt32) (exact : Mode → Mode → Bool) :
    List (Event Platform) → Except Error Unit × Manager → Prop
  | shut (shut : manager.isOpen = false) :
      Changed manager device exact [] (.error .notInitialized, manager)
  | misaddressed (isOpen : manager.isOpen = true)
      (misaddressed : Slot.ofDevice? device ≠ some .external) :
      Changed manager device exact [] (.error (.invalidDevice device), manager)
  | unplugged (isOpen : manager.isOpen = true)
      (addressed : Slot.ofDevice? device = some .external)
      (unplugged : (manager.output .external).display? = none) :
      Changed manager device exact [] (.error (.notConnected device), manager)
  | modeless (isOpen : manager.isOpen = true)
      (addressed : Slot.ofDevice? device = some .external) {connector : Connector}
      (plugged : (manager.output .external).display? = some connector)
      (unlisted : Mode.choose? (exact · (manager.output .external).mode) connector.modes = none) :
      Changed manager device exact [] (.error .noModes, manager)
  /-- A mode of the list is committed. -/
  | committed (isOpen : manager.isOpen = true)
      (addressed : Slot.ofDevice? device = some .external) {connector : Connector}
      (plugged : (manager.output .external).display? = some connector) {mode : Mode}
      (choice : Mode.choose? (exact · (manager.output .external).mode) connector.modes = some mode)
      {events : List (Event Platform)} {result : Except Error Unit} {output : Output}
      (commit : Output.Committed manager.config (manager.output .external) mode events
        (result, output)) :
      Changed manager device exact events (result, manager.hold .external output)

theorem changed_of_run {device : UInt32} {exact : Mode → Mode → Bool}
    {result : Except Error Unit × Manager}
    (run : (manager.changeMode device exact).Run events result) :
    manager.Changed device exact events result := by
  unfold changeMode at run
  cases isOpen : manager.isOpen with
  | false =>
    obtain ⟨rfl, rfl⟩ : events = [] ∧ result = _ := by simpa [isOpen] using run
    exact .shut isOpen
  | true =>
  by_cases addressed : Slot.ofDevice? device = some .external
  case neg =>
    obtain ⟨rfl, rfl⟩ : events = [] ∧ result = _ := by simpa [isOpen, addressed] using run
    exact .misaddressed isOpen addressed
  simp only [isOpen, addressed] at run
  cases plugged : (manager.output .external).display? with
  | none =>
    obtain ⟨rfl, rfl⟩ : events = [] ∧ result = _ := by simpa [plugged] using run
    exact .unplugged isOpen addressed plugged
  | some connector =>
  cases choice : Mode.choose? (exact · (manager.output .external).mode) connector.modes with
  | none =>
    obtain ⟨rfl, rfl⟩ : events = [] ∧ result = _ := by simpa [plugged, choice] using run
    exact .modeless isOpen addressed plugged choice
  | some mode =>
    simp only [plugged, choice] at run
    obtain ⟨first, ⟨outcome, output⟩, rest, commit, last, rfl⟩ := run_bind_iff.mp run
    obtain ⟨rfl, rfl⟩ := run_done_iff.mp last
    rw [List.append_nil]
    exact .committed isOpen addressed plugged choice (Output.committed_of_run commit)

/-- Calls that are made only with the node open, and that change neither framebuffers nor CRTCs. -/
structure Steady (manager : Manager) (events : List (Event Platform)) : Prop where
  isSteady : ∀ event ∈ events, event.IsSteady
  isOpen : events ≠ [] → manager.isOpen = true

theorem Steady.nil : manager.Steady [] :=
  ⟨by simp, by simp⟩

theorem Steady.of_isOpen (isOpen : manager.isOpen = true)
    (steady : ∀ event ∈ events, event.IsSteady) : manager.Steady events :=
  ⟨steady, fun _ => isOpen⟩

/-- The ways in which an operation can change a manager: the calls with their answers, and the
manager behind it. -/
inductive Effect (manager : Manager) : List (Event Platform) → Manager → Prop
  /-- The outputs stay as they are, and so does what they refer to. -/
  | steady {events : List (Event Platform)} (steady : manager.Steady events) :
      Effect manager events manager
  /-- The node cannot be opened. -/
  | unopened (shut : manager.isOpen = false) (fault : Fault) :
      Effect manager [.opened manager.config.devicePath (.error fault)] manager
  /-- The node is opened. -/
  | opened (shut : manager.isOpen = false) :
      Effect manager [.opened manager.config.devicePath (.ok ())]
        { new manager.config with isOpen := true }
  /-- Both slots are given up and the node is closed. -/
  | closed {events : List (Event Platform)} (closed : manager.Closed events) :
      Effect manager events (new manager.config)
  /-- The display of a slot is looked for. -/
  | detected (isOpen : manager.isOpen = true) {slot : Slot} {events : List (Event Platform)}
      {result : Except Error Outcome} {after : Manager}
      (detected : manager.Detected slot events (result, after)) : Effect manager events after
  /-- A mode of the external output is committed. -/
  | committed (isOpen : manager.isOpen = true) {connector : Connector}
      (plugged : (manager.output .external).display? = some connector) {mode : Mode}
      (listed : mode ∈ connector.modes) {events : List (Event Platform)}
      {result : Except Error Unit} {output : Output}
      (commit : Output.Committed manager.config (manager.output .external) mode events
        (result, output)) :
      Effect manager events (manager.hold .external output)

theorem Changed.effect {device : UInt32} {exact : Mode → Mode → Bool} {result : Except Error Unit}
    (changed : manager.Changed device exact events (result, after)) :
    manager.Effect events after := by
  cases changed with
  | shut | misaddressed | unplugged | modeless => exact .steady .nil
  | committed isOpen _ plugged choice commit =>
    exact .committed isOpen plugged (Mode.mem_of_choose? choice) commit

theorem effect_of_run_start {result : Except Error Unit}
    (run : manager.start.Run events (result, after)) : manager.Effect events after := by
  unfold start at run
  cases isOpen : manager.isOpen with
  | true =>
    obtain ⟨rfl, rfl, rfl⟩ : events = [] ∧ result = _ ∧ after = manager := by
      simpa [isOpen] using run
    exact .steady .nil
  | false =>
    simp only [isOpen, Bool.false_eq_true, if_false, Platform.run_openNode_bind_iff] at run
    obtain ⟨answer, rest, rfl, run⟩ := run
    cases answer with
    | error fault =>
      obtain ⟨rfl, rfl, rfl⟩ : rest = [] ∧ result = _ ∧ after = manager := by simpa using run
      exact .unopened isOpen fault
    | ok =>
      obtain ⟨rfl, rfl, rfl⟩ :
          rest = [] ∧ result = _ ∧ after = { new manager.config with isOpen := true } := by
        simpa [new] using run
      exact .opened isOpen

theorem steady_of_run_topology {result : Except Error Topology}
    (run : manager.topology.Run events result) : manager.Steady events := by
  unfold topology at run
  cases isOpen : manager.isOpen with
  | true =>
    have asks := Topology.isRead_of_run_read (by simpa [isOpen] using run)
    exact .of_isOpen isOpen fun event member => (asks event member).isSteady
  | false =>
    simp_all [Steady.nil]

theorem isSteady_of_run_setPowerProperty {connector : Connector} {power : Power} {ids : List UInt32}
    {result : Except Error Unit} (run : (setPowerProperty connector power ids).Run events result) :
    ∀ event ∈ events, event.IsSteady := by
  induction ids generalizing events with
  | nil =>
    obtain ⟨rfl, rfl⟩ := run_done_iff.mp run
    simp
  | cons id ids ih =>
    simp only [setPowerProperty, Platform.run_kms_bind_iff] at run
    obtain ⟨answer, rest, rfl, run⟩ := run
    refine List.forall_mem_cons.mpr ⟨Event.isSteady_kms rfl, ?_⟩
    -- A property without a description, or of another name, is passed over.
    cases answer with
    | error => exact ih run
    | ok property =>
      by_cases other : property.name ≠ powerProperty
      · exact ih (by simpa [other] using run)
      · simp only [other, if_false, Platform.run_kms_bind_iff] at run
        obtain ⟨answer, last, rfl, run⟩ := run
        obtain rfl : last = [] := by cases answer <;> simp_all
        simpa using Event.isSteady_kms rfl

theorem steady_of_run_setPower {device : UInt32} {power : Power} {result : Except Error Unit}
    (run : (manager.setPower device power).Run events result) : manager.Steady events := by
  rw [run_setPower_iff] at run
  cases found : manager.switchable device with
  | error error =>
    simp only [found] at run
    obtain ⟨rfl, -⟩ := run
    exact .nil
  | ok connector =>
    simp only [found] at run
    have isOpen := (switchable_eq_ok_iff.mp found).isOpen
    exact .of_isOpen isOpen (isSteady_of_run_setPowerProperty run)

theorem steady_of_run_passOn {α : Type} {command : UInt32} {payload : List UInt8}
    {call : Proc Platform (Except Fault α)} {result : Except Error α}
    (steady : ∀ events answer, call.Run events answer → ∀ event ∈ events, event.IsSteady)
    (run : (manager.passOn command payload call).Run events result) : manager.Steady events := by
  rw [run_passOn_iff] at run
  split at run
  · obtain ⟨rfl, -⟩ := run
    exact .nil
  split at run
  · obtain ⟨rfl, -⟩ := run
    exact .nil
  · rename_i isOpen _
    obtain ⟨answer, call_run, -⟩ := run
    exact .of_isOpen (by simpa using isOpen) (steady events answer call_run)

theorem effect_of_run_stop (run : manager.stop.Run events after) : manager.Effect events after := by
  obtain ⟨closed, rfl⟩ := closed_of_run_stop run
  exact .closed closed

/-- A detection is refused without a call, or it looks for the display of a slot. -/
theorem refused_or_detected_of_run {device : UInt32} {result : Except Error Outcome}
    (run : (manager.detect device).Run events (result, after)) :
    (events = [] ∧ result.isOk = false ∧ after = manager) ∨
      manager.isOpen = true ∧ ∃ slot, Slot.ofDevice? device = some slot ∧
        manager.Detected slot events (result, after) := by
  unfold detect at run
  cases isOpen : manager.isOpen with
  | false =>
    obtain ⟨rfl, rfl, rfl⟩ : events = [] ∧ result = .error .notInitialized ∧ after = manager := by
      simpa [isOpen] using run
    exact .inl ⟨rfl, rfl, rfl⟩
  | true =>
  cases addressed : Slot.ofDevice? device with
  | none =>
    obtain ⟨rfl, rfl, rfl⟩ :
        events = [] ∧ result = .error (.invalidDevice device) ∧ after = manager := by
      simpa [isOpen, addressed] using run
    exact .inl ⟨rfl, rfl, rfl⟩
  | some slot =>
    simp only [isOpen, addressed, if_true] at run
    exact .inr ⟨rfl, slot, rfl, detected_of_run run⟩

theorem effect_of_run_detect {device : UInt32} {result : Except Error Outcome}
    (run : (manager.detect device).Run events (result, after)) : manager.Effect events after := by
  rcases refused_or_detected_of_run run with ⟨rfl, -, rfl⟩ | ⟨isOpen, slot, -, detected⟩
  · exact .steady .nil
  · exact .detected isOpen detected

/-- A question about a slot is answered from what the manager holds. -/
theorem run_output?_iff {device : UInt32} {α : Type} {answer : Option Output → α} {a : α} :
    (manager.output? device >>= fun output => pure (answer output)).Run events a ↔
      events = [] ∧ a = answer ((Slot.ofDevice? device).map manager.output) := by
  unfold output? slot?
  cases Slot.ofDevice? device <;> simp

end Manager

namespace Operation

variable {manager after : Manager}

theorem of_run_keeping {α : Type} {query : Proc Platform α} {result : α}
    (run : (keeping manager query).Run events (result, after)) :
    query.Run events result ∧ after = manager := by
  obtain ⟨answer, query_run, same⟩ := run_bind_pure_iff.mp run
  obtain ⟨rfl, rfl⟩ := Prod.mk.inj same
  exact ⟨query_run, rfl⟩

/-- Every operation has one of the effects. -/
theorem effect_of_run {operation : Operation} {result : operation.Result}
    (run : (operation.run manager).Run events (result, after)) : manager.Effect events after := by
  cases operation with
  | start => exact Manager.effect_of_run_start run
  | stop =>
    obtain ⟨stopped, stop, same⟩ := run_bind_pure_iff.mp run
    obtain ⟨rfl, rfl⟩ := Prod.mk.inj same
    exact Manager.effect_of_run_stop stop
  | detect device => exact Manager.effect_of_run_detect run
  | setMode device mode =>
    have change : (manager.setMode device mode).Run events (result, after) := run
    exact (Manager.changed_of_run change).effect
  | setRefreshRate device hz =>
    have change : (manager.setRefreshRate device hz).Run events (result, after) := run
    exact (Manager.changed_of_run change).effect
  | setPower device power =>
    obtain ⟨query, rfl⟩ := of_run_keeping run
    exact .steady (Manager.steady_of_run_setPower query)
  | topology =>
    obtain ⟨query, rfl⟩ := of_run_keeping run
    exact .steady (Manager.steady_of_run_topology query)
  | write command payload | writeRead command payload =>
    obtain ⟨query, rfl⟩ := of_run_keeping run
    refine .steady (Manager.steady_of_run_passOn (fun events answer call => ?_) query)
    obtain rfl := Platform.run_kms_iff.mp call
    simpa using Event.isSteady_kms rfl
  | mode device | modes device | physicalSize device | isConnected device | status device =>
    obtain ⟨query, rfl⟩ := of_run_keeping run
    obtain ⟨rfl, -⟩ := Manager.run_output?_iff.mp query
    exact .steady .nil

end Operation

/-- What a new manager has and every effect keeps, the manager behind every history has. -/
theorem History.induction {config : Config} {keeps : List (Event Platform) → Manager → Prop}
    (new : keeps [] (.new config))
    (effect : ∀ events manager others after, keeps events manager →
      manager.Effect others after → keeps (events ++ others) after)
    {manager : Manager} (history : History config events manager) :
    keeps events manager := by
  induction history with
  | new => exact new
  | step _ operation run ih => exact effect _ _ _ _ ih (Operation.effect_of_run run)

/-! ## A session

A manager with the usual configuration finds an external display that runs no mode, and brings it
up. -/

namespace Session

/-- The mode that the display of the session prefers. -/
def native : Mode := { hdisplay := 64, vdisplay := 48, vrefresh := 60, kind := Mode.preferredBit }

/-- A mode of the same size at half the rate. -/
def slow : Mode := { native with vrefresh := 30, kind := 0 }

/-- A mode that the display does not list, with the rate of its native mode. -/
def small : Mode := { native with hdisplay := 32, vdisplay := 24, kind := 0 }

/-- The connector of the session. -/
def connector : Connector where
  id := 20
  encoderId := 30
  kind := .hdmiA
  kindId := 1
  connection := .connected
  size := ⟨160, 90⟩
  modes := [native, slow]
  props := []
  propValues := []
  encoders := [30]

/-- The encoder of the session. -/
def encoder : Encoder := ⟨30, .tmds, 40, 1⟩

/-- The CRTC of the session, as it is found. -/
def crtc : Crtc := ⟨40, 0, 0, 0, 256, false, .zero⟩

/-- The objects of the session. -/
def resources : ResourceList := ⟨[], [40], [20], [30], 0, 8192, 0, 8192⟩

/-- The node is opened. -/
def opening : List (Event Platform) := [.opened Config.default.devicePath (.ok ())]

/-- The display is found and gets the mode that it prefers. -/
def detection : List (Event Platform) :=
  [.kms .resources (.ok resources), .kms (.connector 20) (.ok connector),
    .kms (.encoder 30) (.ok encoder), .kms (.crtc 40) (.ok crtc),
    .allocated 64 48 (.ok ⟨7, 256⟩), .kms (.addFramebuffer ⟨64, 48, 256, 32, 24, 7⟩) (.ok 100),
    .kms (.setCrtc 40 100 0 0 [20] (some native)) (.ok ())]

/-- What the external slot holds in the end. -/
def output : Output where
  connected := true
  connector := some connector
  encoder := some encoder
  crtc := some { crtc with bufferId := 100 }
  mode := native
  framebuffer := some ⟨100, 7, 256⟩

/-- The manager in the end. -/
def manager : Manager := { config := .default, isOpen := true, outputs := { external := output } }

theorem run_start :
    (Operation.start.run (.new .default)).Run opening
      (.ok (), { Manager.new .default with isOpen := true }) :=
  replay_eq_some_iff.mp rfl

theorem run_detect :
    ((Operation.detect 1).run { Manager.new .default with isOpen := true }).Run detection
      (.ok (.connected native), manager) :=
  replay_eq_some_iff.mp rfl

theorem history : History .default (opening ++ detection) manager :=
  .step (.step .new .start run_start) (.detect 1) run_detect

end Session

end Modeset
