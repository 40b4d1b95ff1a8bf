import Modeset.Proofs.Choice
import Modeset.Proofs.Failure
import Modeset.Proofs.Sound

/-!
# What it means that a display is connected

A detection that finds a display tells a mode with it, and the manager is asked for that mode
afterwards. There are three ways in which the display can have come by the mode. Its CRTC was
running it, or its CRTC has been set to it, or nothing was set because the mode that the display
prefers asks for nothing that a slot without a mode does not have already. In this last case, and
whenever a mode has no area, the manager tells no mode, although the display counts as connected.

## Main definitions

* `Proc.Returns` — a procedure that makes no call
* `Output.Brought` — how a display has come by its mode
* `Manager.Tells` — what is told of a display that has been found

## Main results

* `Output.Discovered.brought` — a discovery brings the mode up that it tells
* `Manager.tells_of_connected` — what is told behind a detection that has found a display
-/

namespace Modeset

open Proc

namespace Proc

variable {S : Signature} {α : Type}

/-- Without a call, a procedure returns `a`. -/
def Returns (p : Proc S α) (a : α) : Prop := ∀ events b, p.Run events b ↔ events = [] ∧ b = a

/-- A run without a call is the only one. -/
theorem Run.returns {p : Proc S α} {a : α} (run : p.Run [] a) : p.Returns a := by
  intro events b
  constructor
  · intro other
    have same : [] ++ events = events ++ [] := (List.append_nil events).symm
    obtain ⟨rfl, rfl⟩ := run.eq_of_append_eq other same
    exact ⟨rfl, rfl⟩
  · rintro ⟨rfl, rfl⟩
    exact run

end Proc

variable {config : Config} {slot : Slot} {events others : List (Event Platform)} {mode : Mode}

theorem Quiet.append (quiet : Quiet events) (next : Quiet others) : Quiet (events ++ others) := by
  unfold Quiet
  rw [List.filterMap_append, quiet, next, List.append_nil]

namespace Output

/-- How the display of a slot has come by its mode in the course of some calls. -/
inductive Brought (output : Output) (events : List (Event Platform)) (mode : Mode) : Prop
  /-- The device has described the CRTC as running the mode. -/
  | adopted {crtc : Crtc} (hcrtc : output.crtc = some crtc) (running : crtc.modeValid = true)
      (same : crtc.mode = mode) {id : UInt32} (described : .kms (.crtc id) (.ok crtc) ∈ events)
  /-- The CRTC has been set to the mode, with the framebuffer that the slot now holds. -/
  | programmed {crtc : Crtc} {connector : Connector} {framebuffer : Framebuffer}
      (hcrtc : output.crtc = some crtc) (hconnector : output.connector = some connector)
      (held : output.framebuffer = some framebuffer) (made : framebuffer.id ≠ 0)
      (memory : framebuffer.handle ≠ 0)
      (set : .kms (.setCrtc crtc.id framebuffer.id 0 0 [connector.id] (some mode)) (.ok ()) ∈
        events)
  /-- No CRTC has been set, since the mode that the display prefers has neither size nor rate nor
  flags, as has a slot without a mode. -/
  | skipped {connector : Connector} (hconnector : output.connector = some connector)
      {preferred : Mode} (favourite : Mode.favourite? connector.modes = some preferred)
      (void : preferred.satisfiedBy .zero = true) (zero : mode = .zero) (quiet : Quiet events)
      (empty : output.framebuffer = none)

namespace Brought

variable {output : Output}

/-- Calls that come before and set no CRTC do not matter. -/
theorem after (brought : output.Brought events mode) (quiet : Quiet others) :
    output.Brought (others ++ events) mode := by
  cases brought with
  | adopted hcrtc running same described =>
    exact .adopted hcrtc running same (List.mem_append_right _ described)
  | programmed hcrtc hconnector held made memory set =>
    exact .programmed hcrtc hconnector held made memory (List.mem_append_right _ set)
  | skipped hconnector favourite void zero still empty =>
    exact .skipped hconnector favourite void zero (quiet.append still) empty

end Brought

/-- Where a framebuffer has been brought to a CRTC, the CRTC has been set to it. -/
theorem ScanOut.mem_setCrtc {crtc connector : UInt32} {framebuffer : Framebuffer}
    (scanned : ScanOut config crtc connector mode events (.ok framebuffer)) :
    .kms (.setCrtc crtc framebuffer.id 0 0 [connector] (some mode)) (.ok ()) ∈ events := by
  cases scanned with
  | bound => simp

/-- A commit to a slot without a mode sets the CRTC, unless the mode asks for nothing. -/
theorem Committed.brought {output after : Output} {connector : Connector} {wanted : Mode}
    (blank : output.mode = .zero) (empty : output.framebuffer = none)
    (hconnector : output.connector = some connector)
    (favourite : Mode.favourite? connector.modes = some wanted)
    (commit : Committed config output wanted events (.ok (), after)) :
    after.Brought events after.mode := by
  cases commit with
  | unchanged satisfied =>
    rw [blank] at satisfied
    exact .skipped hconnector favourite satisfied blank rfl empty
  | @set unsatisfied crtc other hcrtc hother first last framebuffer scanned retired =>
    have set := scanned.mem_setCrtc
    obtain ⟨made, memory⟩ := scanned.ne_zero
    have bound : (output.withFramebuffer wanted framebuffer).crtc =
        some { crtc with bufferId := framebuffer.id } := by
      simp [withFramebuffer, hcrtc]
    exact .programmed bound hother rfl made memory (List.mem_append_left _ set)

/-- A discovery that has found a display has brought up the mode that it tells. -/
theorem Discovered.brought {after : Output}
    (discovered : Discovered config slot .idle events (.ok (.connected mode), after)) :
    after.connected = true ∧ after.mode = mode ∧ after.Brought events mode := by
  -- What a commit returns is not plainly the outcome, so the outcome is compared with it.
  generalize hresult : ((.ok (.connected mode), after) : Except Error Outcome × Output) = result
    at discovered
  cases discovered with
  | unlisted | unresolved | unplugged | modeless => cases hresult
  | @adopted _ connector encoder crtc found running =>
    cases hresult
    obtain ⟨id, described⟩ := found.describes_crtc
    exact ⟨rfl, rfl, .adopted rfl running rfl described⟩
  | @committed reads others connector encoder crtc found stopped wanted preferred outcome last
      commit =>
    cases outcome with
    | error => cases hresult
    | ok =>
      cases hresult
      have favourite : Mode.favourite? connector.modes = some wanted := by
        have none_exact : connector.modes.find? (fun _ => false) = none := by simp
        rwa [Mode.choose?_eq, none_exact, Option.none_or] at preferred
      have brought := commit.brought rfl rfl rfl favourite
      refine ⟨?_, rfl, brought.after (.of_isRead found.asks)⟩
      cases commit <;> rfl

end Output

namespace Manager

variable {manager after : Manager} {device : UInt32}

/-- What is told of a display that has been found: that it is there, and its mode, unless the mode
has no area. -/
structure Tells (manager : Manager) (device : UInt32) (mode : Mode) : Prop where
  isConnected : (manager.isConnected device).Returns true
  active : (manager.mode device).Returns (if mode.isEmpty then none else some mode)
  status : ∃ status, (manager.status device).Returns (some status) ∧ status.connected = true ∧
    status.mode = if mode.isEmpty then none else some mode

/-- What is held for a slot is told for its number. -/
theorem tells_of_output (addressed : Slot.ofDevice? device = some slot)
    (connected : (manager.output slot).connected = true)
    (active : (manager.output slot).mode = mode) : manager.Tells device mode where
  isConnected := by
    intro events answer
    simp only [Manager.isConnected, run_output?_iff, addressed, Option.map_some, Option.getD_some,
      connected]
  active := by
    intro events answer
    simp only [Manager.mode, run_output?_iff, addressed, Option.map_some, Option.bind_some,
      Output.activeMode?, connected, if_true, Output.mode?, active]
  status := by
    refine ⟨(manager.output slot).status, fun events answer => ?_, connected, ?_⟩
    · simp only [Manager.status, run_output?_iff, addressed, Option.map_some]
    · rw [Output.status, Output.mode?, active]

/-- What a detection has found it has discovered on an idle slot, after giving up what was there. -/
theorem discovered_of_connected
    (run : (manager.detect device).Run events (.ok (.connected mode), after)) :
    ∃ slot before found output, Slot.ofDevice? device = some slot ∧
      Framebuffer.Retired (manager.output slot).framebuffer before ∧
      Output.Discovered manager.config slot .idle found (.ok (.connected mode), output) ∧
      events = before ++ found ∧ after = manager.hold slot output := by
  rcases refused_or_detected_of_run run with ⟨-, refused, -⟩ | ⟨-, slot, addressed, detected⟩
  · cases refused
  generalize hresult : ((.ok (.connected mode), after) : Except Error Outcome × Manager) = result
    at detected
  cases detected with
  | @found before found outcome output retired discovered =>
    cases hresult
    exact ⟨slot, before, found, output, addressed, retired, discovered, rfl, rfl⟩
  | failed retired discovered =>
    -- A display that cannot be used is not found to be connected.
    unfold undetected at hresult
    split at hresult <;> cases hresult

/-- Whatever has been done with a manager, and whatever its calls were answered: if a detection has
found a display with a mode, the manager tells that it is there, with this mode unless the mode has
no area; and the CRTC of the slot was running the mode, or it has been set to it with the
framebuffer that the slot now holds, or the mode is the zero mode and none has been set. -/
theorem tells_of_connected
    (run : (manager.detect device).Run events (.ok (.connected mode), after)) :
    ∃ slot, Slot.ofDevice? device = some slot ∧ after.Tells device mode ∧
      (after.output slot).Brought events mode := by
  obtain ⟨slot, before, found, output, addressed, retired, discovered, rfl, rfl⟩ :=
    discovered_of_connected run
  obtain ⟨connected, active, brought⟩ := discovered.brought
  have held : (manager.hold slot output).output slot = output := output_hold_same manager slot _
  refine ⟨slot, addressed, tells_of_output addressed ?_ ?_, ?_⟩
  · rw [held, connected]
  · rw [held, active]
  · rw [held]
    exact brought.after retired.quiet

/-- A display that has been found has a connector. -/
theorem exists_display_of_connected
    (run : (manager.detect slot.device).Run events (.ok (.connected mode), after)) :
    ∃ connector, (after.output slot).display? = some connector := by
  obtain ⟨other, before, found, output, addressed, retired, discovered, rfl, rfl⟩ :=
    discovered_of_connected run
  obtain rfl : slot = other := by simpa using addressed
  have connected := discovered.brought.1
  have plugged : output.connector.isSome = true := by
    rw [(Output.Sound.discovered discovered).connector_isSome, connected]
  obtain ⟨connector, held⟩ := Option.isSome_iff_exists.mp plugged
  refine ⟨connector, Output.display?_eq_some_iff.mpr ?_⟩
  rw [output_hold_same]
  exact ⟨connected, held⟩

end Manager

namespace Session

/-- The display has been found with the mode that it prefers, which has been set. -/
theorem native_told :
    ∃ slot, Slot.ofDevice? 1 = some slot ∧ manager.Tells 1 native ∧
      (manager.output slot).Brought detection native :=
  Manager.tells_of_connected run_detect

/-- The connector of the session, listing only a mode in which nothing is set. -/
def blank : Connector := { connector with modes := [{ kind := Mode.preferredBit }] }

/-- The display is found, and nothing is set. -/
def blankDetection : List (Event Platform) :=
  [.kms .resources (.ok resources), .kms (.connector 20) (.ok blank),
    .kms (.encoder 30) (.ok encoder), .kms (.crtc 40) (.ok crtc)]

/-- The manager that holds a display without a mode. -/
def unlit : Manager :=
  { manager with
    outputs.external :=
      { output with
        connector := some blank, crtc := some crtc, mode := .zero, framebuffer := none } }

/-- The display is said to be connected with a mode, but no mode is told for it, its CRTC is running
none, and none has been set. -/
theorem connected_without_mode :
    History .default opening { Manager.new .default with isOpen := true } ∧
      (Manager.detect { Manager.new .default with isOpen := true } 1).Run blankDetection
        (.ok (.connected .zero), unlit) ∧
      (unlit.mode 1).Run [] none ∧ (unlit.output .external).status.mode = none ∧
      crtc.modeValid = false ∧ Quiet blankDetection :=
  ⟨.step .new .start run_start, replay_eq_some_iff.mp rfl, replay_eq_some_iff.mp rfl, rfl, rfl, rfl⟩

end Session

end Modeset
