import Modeset.Proofs.Operation

/-!
# What always holds of the outputs

The fields of an output belong together. A connected slot has a connector with a display in it, an
encoder and a CRTC; a slot that is not connected has nothing. A framebuffer is the one that the CRTC
is recorded to read out, in a mode that the connector lists. Discovery fills in the fields before
the last call that can fail, and a commit changes three of them at different times, so this has to
be followed through every way in which an operation can go.

## Main definitions

* `Output.Sound` — what always holds of a slot
* `Manager.Sound` — what always holds of a manager

## Main results

* `Output.Sound.committed`, `Output.Sound.discovered` — commits and discoveries keep it
* `Manager.Sound.effect` — every operation keeps it
* `History.sound` — it holds behind every history
-/

namespace Modeset

open Proc

variable {config : Config} {slot : Slot} {events : List (Event Platform)}

namespace Output

/-- What always holds of a slot. -/
structure Sound (config : Config) (slot : Slot) (output : Output) : Prop where
  connector_isSome : output.connector.isSome = output.connected
  encoder_isSome : output.encoder.isSome = output.connected
  crtc_isSome : output.crtc.isSome = output.connected
  /-- The connector is of the configured kind and has a display in it. -/
  plugged : ∀ connector ∈ output.connector,
    connector.kind = (config.output slot).connector ∧ connector.connection = .connected
  /-- Without a display there is neither a mode nor a framebuffer. -/
  unplugged : output.connected = false → output.mode = .zero ∧ output.framebuffer = none
  /-- The framebuffer is what the CRTC is recorded to read out. -/
  scanned : ∀ framebuffer ∈ output.framebuffer, framebuffer.id ≠ 0 ∧ framebuffer.handle ≠ 0 ∧
    ∃ crtc ∈ output.crtc, crtc.bufferId = framebuffer.id
  /-- A mode with a framebuffer is one that the connector lists. -/
  listed : output.framebuffer.isSome → ∃ connector ∈ output.connector,
    output.mode ∈ connector.modes
  /-- A mode without a framebuffer is the one that the CRTC was found to be running. -/
  adopted : output.connected = true → output.framebuffer = none → output.mode = .zero ∨
    ∃ crtc ∈ output.crtc, crtc.modeValid = true ∧ output.mode = crtc.mode

namespace Sound

theorem idle : Sound config slot idle where
  connector_isSome := rfl
  encoder_isSome := rfl
  crtc_isSome := rfl
  plugged := by simp [Output.idle]
  unplugged := by simp [Output.idle]
  scanned := by simp [Output.idle]
  listed := by simp [Output.idle]
  adopted := by simp [Output.idle]

variable {output after : Output}

/-- Whoever has a connector is connected. -/
theorem connected_of_connector (sound : Sound config slot output) {connector : Connector}
    (held : output.connector = some connector) : output.connected = true := by
  rw [← sound.connector_isSome, held]
  rfl

end Sound

theorem ScanOut.ne_zero {crtc connector : UInt32} {mode : Mode} {framebuffer : Framebuffer}
    (scanned : ScanOut config crtc connector mode events (.ok framebuffer)) :
    framebuffer.id ≠ 0 ∧ framebuffer.handle ≠ 0 := by
  cases scanned with
  | bound buffer memory id made => exact ⟨made, memory⟩

namespace Sound

variable {output after : Output}

/-- A commit of a listed mode keeps a slot sound, whether it succeeds or not. -/
theorem committed (sound : Sound config slot output) {mode : Mode}
    (listed : ∀ connector ∈ output.connector, mode ∈ connector.modes) {result : Except Error Unit}
    (commit : Committed config output mode events (result, after)) : Sound config slot after := by
  cases commit with
  | unchanged | unbound | failed => exact sound
  | @set unsatisfied crtc connector hcrtc hconnector _ _ framebuffer scanned retired =>
    have connected := sound.connected_of_connector hconnector
    -- Mode, framebuffer and recorded CRTC change together; connector and encoder stay.
    exact {
      connector_isSome := sound.connector_isSome
      encoder_isSome := sound.encoder_isSome
      crtc_isSome := by simpa [withFramebuffer] using sound.crtc_isSome
      plugged := sound.plugged
      unplugged := fun unplugged => absurd connected (by simpa [withFramebuffer] using unplugged)
      scanned := by simpa [withFramebuffer, hcrtc] using scanned.ne_zero
      listed := fun _ => ⟨connector, hconnector, listed connector hconnector⟩
      adopted := by simp [withFramebuffer] }

/-- What a walk has found makes an idle slot sound, even before it has a mode. -/
theorem withDisplay {reads : List (Event Platform)} {connector : Connector} {encoder : Encoder}
    {crtc : Crtc} (found : Found config slot reads connector encoder crtc) :
    Sound config slot (Output.idle.withDisplay connector encoder crtc) where
  connector_isSome := rfl
  encoder_isSome := rfl
  crtc_isSome := rfl
  plugged := by simpa [Output.withDisplay] using ⟨found.kind, found.connected⟩
  unplugged := by simp [Output.withDisplay]
  scanned := by simp [Output.withDisplay, Output.idle]
  listed := by simp [Output.withDisplay, Output.idle]
  adopted := fun _ _ => .inl rfl

/-- A discovery that succeeds leaves a sound slot. -/
theorem discovered {outcome : Outcome}
    (discovery : Discovered config slot .idle events (.ok outcome, after)) :
    Sound config slot after := by
  rcases discovery.of_ok with ⟨-, rfl⟩ |
    ⟨connector, encoder, crtc, reads, others, found, rfl, way⟩
  · exact .idle
  rcases way with ⟨running, rfl, rfl⟩ | ⟨mode, preferred, commit⟩
  · exact { withDisplay found with
      unplugged := by simp [Output.withDisplay]
      listed := by simp [Output.withDisplay, Output.idle]
      adopted := fun _ _ => .inr ⟨_, rfl, running, rfl⟩ }
  · -- What the walk has found makes the slot sound before anything is committed.
    refine (withDisplay found).committed ?_ commit
    simpa [Output.withDisplay] using Mode.mem_of_choose? preferred

end Sound

end Output

namespace Manager

/-- What always holds of a manager. -/
structure Sound (config : Config) (manager : Manager) : Prop where
  config_eq : manager.config = config
  output : ∀ slot, (manager.output slot).Sound config slot
  /-- Without a device there is nothing to hold. -/
  shut : manager.isOpen = false → manager.outputs = {}

namespace Sound

variable {manager after : Manager}

theorem new : Sound config (new config) where
  config_eq := rfl
  output slot := by simpa using .idle
  shut _ := rfl

/-- With the device open, a slot may get anything sound. -/
theorem hold (sound : manager.Sound config) (isOpen : manager.isOpen = true) {output : Output}
    (held : output.Sound config slot) : (manager.hold slot output).Sound config where
  config_eq := sound.config_eq
  output other := by
    by_cases same : other = slot
    · subst same
      rwa [output_hold_same]
    · rw [output_hold_of_ne manager output same]
      exact sound.output other
  shut shut := absurd isOpen (by simpa [Manager.hold] using shut)

/-- What a slot holds has been made by the device. -/
theorem made (sound : manager.Sound config) (slot : Slot) :
    ∀ framebuffer ∈ (manager.output slot).framebuffer, framebuffer.id ≠ 0 :=
  fun framebuffer held => ((sound.output slot).scanned framebuffer held).1

/-- Every operation keeps a manager sound. -/
theorem effect (sound : manager.Sound config) (effect : manager.Effect events after) :
    after.Sound config := by
  have config_eq := sound.config_eq
  cases effect with
  | steady | unopened => exact sound
  | opened =>
    exact { config_eq, output := config_eq ▸ (@new manager.config).output, shut := nofun }
  | closed => exact config_eq ▸ .new
  | detected isOpen detected =>
    cases detected with
    | found retired discovered => exact sound.hold isOpen (.discovered (config_eq ▸ discovered))
    | failed => exact sound.hold isOpen .idle
  | committed isOpen plugged listed commit =>
    obtain ⟨-, hconnector⟩ := Output.display?_eq_some_iff.mp plugged
    refine sound.hold isOpen ((sound.output .external).committed ?_ (config_eq ▸ commit))
    simpa [hconnector] using listed

end Sound

end Manager

/-- Whatever has been done with a manager, it is sound. -/
theorem History.sound {manager : Manager} (history : History config events manager) :
    manager.Sound config :=
  @History.induction _ config (fun _ => Manager.Sound config) .new
    (fun _ _ _ _ sound effect => sound.effect effect) _ history

/-- Whatever has been done with a manager, and whatever its calls were answered, the fields of its
outputs fit together; and while no device is open, both slots hold nothing. -/
theorem History.outputs_consistent {manager : Manager} (history : History config events manager) :
    (∀ slot, (manager.output slot).Sound config slot) ∧
      (manager.isOpen = false → ∀ slot, manager.output slot = .idle) := by
  refine ⟨history.sound.output, fun shut slot => ?_⟩
  rw [Manager.output, history.sound.shut shut]
  cases slot <;> rfl

theorem Session.consistent :
    (∀ slot, (manager.output slot).Sound .default slot) ∧
      (manager.isOpen = false → ∀ slot, manager.output slot = .idle) :=
  History.outputs_consistent history

end Modeset
