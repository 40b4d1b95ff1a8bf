import Modeset.Proofs.Choice
import Modeset.Proofs.Sound

/-!
# Asking for what is active

A request for a mode is resolved to a mode that the connector lists before it is compared with the
active one. So it depends on the listed mode whether anything is done. A request that the active
mode meets may well be resolved to a listed mode of the same size and rate that wants more flags, or
to the favourite mode of the display, if the connector does not list what was asked for. That
happens after a mode has been adopted that was running when the display was found.

## Main definitions

* `Mode.atRate` — whether a mode has the size of another one, and a rate
* `Manager.Resolved` — to what a request is resolved, and what is done about it

## Main results

* `Mode.satisfiedBy_trans` — what satisfies a mode satisfies whatever that mode satisfies
* `Manager.Sound.resolved` — every change of mode of a display is resolved like this
* `History.request_resolved` — what is done if the active mode meets the request
-/

namespace Modeset

variable {config : Config} {slot : Slot} {events : List (Event Platform)}

namespace Mode

variable {wanted middle base active mode : Mode} {hz : UInt32}

theorem satisfiedBy_iff :
    wanted.satisfiedBy base = true ↔
      base.hdisplay = wanted.hdisplay ∧ base.vdisplay = wanted.vdisplay ∧
        base.vrefresh = wanted.vrefresh ∧ base.flags &&& wanted.flags = wanted.flags := by
  simp [satisfiedBy]

/-- Between modes of one size and rate only the flags count. -/
theorem satisfiedBy_iff_flags (width : base.hdisplay = wanted.hdisplay)
    (height : base.vdisplay = wanted.vdisplay) (rate : base.vrefresh = wanted.vrefresh) :
    wanted.satisfiedBy base = true ↔ base.flags &&& wanted.flags = wanted.flags := by
  simp [satisfiedBy, width, height, rate]

/-- What satisfies a mode satisfies whatever that mode satisfies. -/
theorem satisfiedBy_trans (first : wanted.satisfiedBy middle = true)
    (second : middle.satisfiedBy base = true) : wanted.satisfiedBy base = true := by
  obtain ⟨width, height, rate, flags⟩ := satisfiedBy_iff.mp first
  obtain ⟨base_width, base_height, base_rate, base_flags⟩ := satisfiedBy_iff.mp second
  refine satisfiedBy_iff.mpr
    ⟨base_width.trans width, base_height.trans height, base_rate.trans rate, ?_⟩
  calc
    base.flags &&& wanted.flags
        = base.flags &&& middle.flags &&& wanted.flags := by rw [UInt32.and_assoc, flags]
    _ = wanted.flags := by rw [base_flags, flags]

/-- Whether a mode is `active` at a rate: it has the size of `active`, and the rate. -/
def atRate (active : Mode) (hz : UInt32) (mode : Mode) : Bool :=
  mode.hdisplay = active.hdisplay ∧ mode.vdisplay = active.vdisplay ∧ mode.vrefresh = hz

theorem atRate_iff : active.atRate hz mode = true ↔ mode.hdisplay = active.hdisplay ∧
    mode.vdisplay = active.vdisplay ∧ mode.vrefresh = hz := by
  simp [atRate]

theorem atRate_of_satisfiedBy (fits : active.atRate hz mode = true)
    (satisfied : mode.satisfiedBy base = true) : active.atRate hz base = true := by
  obtain ⟨width, height, rate⟩ := atRate_iff.mp fits
  obtain ⟨base_width, base_height, base_rate, -⟩ := satisfiedBy_iff.mp satisfied
  exact atRate_iff.mpr ⟨base_width.trans width, base_height.trans height, base_rate.trans rate⟩

end Mode

namespace Output

/-- Bringing a framebuffer to a CRTC begins with a question for memory. -/
theorem ScanOut.exists_allocated {crtc connector : UInt32} {mode : Mode}
    {result : Except Error Framebuffer}
    (scanned : ScanOut config crtc connector mode events result) :
    ∃ answer rest, events = .allocated mode.width mode.height answer :: rest := by
  cases scanned <;> exact ⟨_, _, rfl⟩

/-- A commit to a display either is of a mode that the active one satisfies, or asks for memory. -/
theorem Committed.exists_allocated {output after : Output} {mode : Mode} {used : Config}
    {result : Except Error Unit} (sound : output.Sound config slot)
    (connected : output.connected = true) (needed : mode.satisfiedBy output.mode = false)
    (commit : Committed used output mode events (result, after)) :
    ∃ answer rest, events = .allocated mode.width mode.height answer :: rest := by
  cases commit with
  | unchanged satisfied => simp [needed] at satisfied
  | unbound _ missing =>
    -- Who is connected has both a CRTC and a connector.
    rcases missing with missing | missing
    · simpa [missing, connected] using sound.crtc_isSome
    · simpa [missing, connected] using sound.connector_isSome
  | failed _ _ _ scanned => exact scanned.exists_allocated
  | set _ _ _ scanned retired =>
    obtain ⟨answer, rest, rfl⟩ := scanned.exists_allocated
    exact ⟨answer, _, rfl⟩

end Output

namespace Manager

variable {manager : Manager}

/-- What becomes of a request for a mode, when listed modes are `exact` if they are what is asked
for. -/
structure Resolved (manager : Manager) (change : Proc Platform (Except Error Unit × Manager))
    (exact : Mode → Bool) (modes : List Mode) (active chosen : Mode) : Prop where
  /-- The request is resolved to the first listed mode that is exact, or else to the favourite. -/
  choice : (modes.find? exact).or (Mode.favourite? modes) = some chosen
  /-- If the active mode is what this one asks for, the change succeeds and does nothing. -/
  granted : chosen.satisfiedBy active = true → ∀ events result,
    change.Run events result ↔ events = [] ∧ result = (.ok (), manager)
  /-- Otherwise the change begins with a question for memory. -/
  undertaken : chosen.satisfiedBy active = false → ∀ events result, change.Run events result →
    ∃ answer rest, events = .allocated chosen.width chosen.height answer :: rest

variable {connector : Connector} {exact : Mode → Mode → Bool} {chosen : Mode}

/-- A change to a mode that the active one satisfies succeeds without a call. -/
theorem run_changeMode_of_satisfied (isOpen : manager.isOpen = true)
    (plugged : (manager.output .external).display? = some connector)
    (choice : Mode.choose? (exact · (manager.output .external).mode) connector.modes = some chosen)
    (satisfied : chosen.satisfiedBy (manager.output .external).mode = true) :
    (manager.changeMode Slot.external.device exact).Run [] (.ok (), manager) := by
  have commit : (manager.output .external).commit manager.config chosen =
      (Proc.trace .commit s!"Mode {chosen.text} is unchanged" >>= fun _ =>
        pure (.ok (), manager.output .external)) := by
    simp [Output.commit, satisfied]
  simp [changeMode, isOpen, plugged, choice, commit]

/-- With a display on an open device, a change of mode comes down to a commit of the chosen mode. -/
theorem committed_of_run {after : Manager} {result : Except Error Unit}
    (isOpen : manager.isOpen = true)
    (plugged : (manager.output .external).display? = some connector)
    (choice : Mode.choose? (exact · (manager.output .external).mode) connector.modes = some chosen)
    (run : (manager.changeMode Slot.external.device exact).Run events (result, after)) :
    ∃ output, after = manager.hold .external output ∧
      Output.Committed manager.config (manager.output .external) chosen events
        (result, output) := by
  cases changed_of_run run with
  | shut shut => simp [isOpen] at shut
  | misaddressed _ misaddressed => exact absurd (Slot.ofDevice?_device .external) misaddressed
  | unplugged _ _ unplugged => simp [plugged] at unplugged
  | modeless _ _ held unlisted =>
    obtain rfl := Option.some.inj (plugged.symm.trans held)
    simp [choice] at unlisted
  | committed _ _ held other commit =>
    obtain rfl := Option.some.inj (plugged.symm.trans held)
    obtain rfl := Option.some.inj (choice.symm.trans other)
    exact ⟨_, rfl, commit⟩

/-- A change of mode that succeeds makes the mode that is chosen from the list active, unless the
active mode satisfies it already. -/
theorem Changed.exists_chosen {device : UInt32} {after : Manager}
    (changed : manager.Changed device exact events (.ok (), after))
    (plugged : (manager.output .external).display? = some connector) :
    ∃ chosen, Mode.choose? (exact · (manager.output .external).mode) connector.modes = some chosen ∧
      (chosen.satisfiedBy (manager.output .external).mode = true ∧
          (after.output .external).mode = (manager.output .external).mode ∨
        chosen.satisfiedBy (manager.output .external).mode = false ∧
          (after.output .external).mode = chosen) ∧
      (after.output .external).connected = true := by
  cases changed with
  | @committed isOpen addressed other held chosen choice events result output commit =>
    obtain rfl := Option.some.inj (plugged.symm.trans held)
    obtain ⟨connected, -⟩ := Output.display?_eq_some_iff.mp plugged
    refine ⟨chosen, choice, ?_⟩
    rw [output_hold_same]
    cases commit with
    | unchanged satisfied => exact ⟨.inl ⟨satisfied, rfl⟩, connected⟩
    | set unsatisfied => exact ⟨.inr ⟨Bool.eq_false_iff.mpr unsatisfied, rfl⟩, connected⟩

namespace Sound

/-- A connected slot is only found on an open device. -/
theorem isOpen_of_display (sound : manager.Sound config)
    (plugged : (manager.output slot).display? = some connector) : manager.isOpen = true := by
  cases isOpen : manager.isOpen with
  | true => rfl
  | false =>
    rw [Manager.output, sound.shut isOpen] at plugged
    cases slot <;> cases plugged

/-- Every request for a mode of a display is resolved to a listed mode. -/
theorem resolved (sound : manager.Sound config)
    (plugged : (manager.output .external).display? = some connector) (listed : connector.modes ≠ [])
    (exact : Mode → Mode → Bool) :
    ∃ chosen ∈ connector.modes, manager.Resolved
      (manager.changeMode Slot.external.device exact) (exact · (manager.output .external).mode)
      connector.modes (manager.output .external).mode chosen := by
  have isOpen := sound.isOpen_of_display plugged
  obtain ⟨connected, -⟩ := Output.display?_eq_some_iff.mp plugged
  obtain ⟨chosen, member, choice⟩ :=
    @Mode.exists_choose? (exact · (manager.output .external).mode) _ listed
  refine ⟨chosen, member, by rw [← Mode.choose?_eq, choice], ?_, ?_⟩
  · rintro satisfied events ⟨result, after⟩
    constructor
    · intro run
      obtain ⟨output, rfl, commit⟩ := committed_of_run isOpen plugged choice run
      cases commit with
      | unchanged => exact ⟨rfl, by rw [hold_output]⟩
      | unbound unsatisfied | failed unsatisfied | set unsatisfied =>
        exact absurd satisfied unsatisfied
    · rintro ⟨rfl, same⟩
      rw [same]
      exact run_changeMode_of_satisfied isOpen plugged choice satisfied
  · rintro needed events ⟨result, after⟩ run
    obtain ⟨output, rfl, commit⟩ := committed_of_run isOpen plugged choice run
    exact commit.exists_allocated (sound.output .external) connected needed

end Sound

end Manager

/-- Whatever has been done with a manager, if the active mode of the external display is what a
request asks for: the request is resolved to a listed mode, and it is granted without a call if the
active mode is what this one asks for, which for a listed mode of the same size and rate is a matter
of the flags. The request for the active rate is resolved in the same way. -/
theorem History.request_resolved {manager : Manager} {connector : Connector} {active : Mode}
    (history : History config events manager)
    (plugged : (manager.output .external).display? = some connector) (listed : connector.modes ≠ [])
    (running : (manager.output .external).activeMode? = some active) :
    (∀ wanted : Mode, wanted.satisfiedBy active = true → ∃ chosen ∈ connector.modes,
      manager.Resolved (manager.setMode Slot.external.device wanted) wanted.satisfiedBy
        connector.modes active chosen ∧
      (wanted.satisfiedBy chosen = true →
        (chosen.satisfiedBy active = true ↔ active.flags &&& chosen.flags = chosen.flags))) ∧
    ∃ chosen ∈ connector.modes,
      manager.Resolved (manager.setRefreshRate Slot.external.device active.vrefresh)
        (fun candidate => candidate.hdisplay = active.hdisplay ∧
          candidate.vdisplay = active.vdisplay ∧ candidate.vrefresh = active.vrefresh)
        connector.modes active chosen := by
  obtain ⟨-, -, rfl⟩ := Output.activeMode?_eq_some_iff.mp running
  have resolved := history.sound.resolved plugged listed
  refine ⟨fun wanted meets => ?_, resolved _⟩
  obtain ⟨chosen, member, outcome⟩ := resolved fun candidate _ => wanted.satisfiedBy candidate
  refine ⟨chosen, member, outcome, fun exact => ?_⟩
  obtain ⟨width, height, rate, -⟩ := Mode.satisfiedBy_iff.mp meets
  obtain ⟨chosen_width, chosen_height, chosen_rate, -⟩ := Mode.satisfiedBy_iff.mp exact
  exact Mode.satisfiedBy_iff_flags (width.trans chosen_width.symm) (height.trans chosen_height.symm)
    (rate.trans chosen_rate.symm)

namespace Session

/-- The connector of the session, listing only the mode that the display prefers. -/
def lone : Connector := { connector with modes := [native] }

/-- The CRTC of the session, already running the slow mode. -/
def running : Crtc := { crtc with bufferId := 5, modeValid := true, mode := slow }

/-- The manager that has found the display running a mode. -/
def foundWith (mode : Mode) : Manager :=
  { manager with
    outputs.external :=
      { output with crtc := some { running with mode }, mode, framebuffer := none } }

/-- The display is found with its mode. -/
def adoption : List (Event Platform) :=
  [.kms .resources (.ok resources), .kms (.connector 20) (.ok lone),
    .kms (.encoder 30) (.ok encoder), .kms (.crtc 40) (.ok running)]

/-- The manager that has kept the slow mode. -/
def adopted : Manager :=
  { manager with
    outputs.external :=
      { output with
        connector := some lone, crtc := some running, mode := slow, framebuffer := none } }

theorem history_adopted : History .default (opening ++ adoption) adopted :=
  .step (.step .new .start run_start) (.detect 1) (Proc.replay_eq_some_iff.mp rfl)

/-- The native mode is active and listed, so it may be asked for without effect. -/
theorem native_resolved :
    (∀ wanted : Mode, wanted.satisfiedBy native = true → ∃ chosen ∈ connector.modes,
      manager.Resolved (manager.setMode Slot.external.device wanted) wanted.satisfiedBy
        connector.modes native chosen ∧
      (wanted.satisfiedBy chosen = true →
        (chosen.satisfiedBy native = true ↔ native.flags &&& chosen.flags = chosen.flags))) ∧
    ∃ chosen ∈ connector.modes,
      manager.Resolved (manager.setRefreshRate Slot.external.device native.vrefresh)
        (fun candidate => candidate.hdisplay = native.hdisplay ∧
          candidate.vdisplay = native.vdisplay ∧ candidate.vrefresh = native.vrefresh)
        connector.modes native chosen :=
  history.request_resolved rfl (by simp [connector]) rfl

/-- The slow mode is active but not listed, so whoever asks for it, or for its rate, has the native
mode set, for which there may be no memory. -/
theorem slow_not_granted :
    History .default (opening ++ adoption) adopted ∧
      (adopted.output .external).display? = some lone ∧
      (adopted.output .external).activeMode? = some slow ∧ slow.satisfiedBy slow = true ∧
      (adopted.setMode 1 slow).Run [.allocated 64 48 (.error .noEntry)]
        (.error (.allocation Fault.noEntry.message), adopted) ∧
      (adopted.setRefreshRate 1 slow.vrefresh).Run [.allocated 64 48 (.error .noEntry)]
        (.error (.allocation Fault.noEntry.message), adopted) :=
  ⟨history_adopted, rfl, rfl, slow.satisfiedBy_self, Proc.replay_eq_some_iff.mp rfl,
    Proc.replay_eq_some_iff.mp rfl⟩

end Session

end Modeset
