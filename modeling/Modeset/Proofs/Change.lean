import Modeset.Proofs.Connected
import Modeset.Proofs.Request
import Modeset.Proofs.Seamless

/-!
# What a change of mode achieves

Between a request and the mode that is active in the end stand two comparisons that let additional
flags pass. A listed mode is taken if it satisfies the request, and it is set only if the active
mode does not satisfy it already. Since such comparisons can be chained, the active mode satisfies
the request in the end, whichever way it has come about. If nothing in the list does, the favourite
stands in for the request.

A request that has been granted is from then on granted without a call. For a mode this is so at
once, since the same mode is taken from the list again. A rate however is asked for at the size of
the active mode, and the favourite may have changed that size. So it takes a second request to find
the size at which all later ones look.

## Main definitions

* `Manager.Achieved` — what has become of the active mode
* `Manager.again` — the same request some number of times

## Main results

* `Mode.atRate_eq_of_choose?` — after a rate has been asked for twice, the size stays
* `History.change_achieves` — what every request achieves
* `Manager.requests_settle` — requests that have been granted become requests without a call
-/

namespace Modeset

open Proc

variable {config : Config} {past events : List (Event Platform)}

namespace Mode

variable {active first second mode base : Mode} {modes : List Mode} {hz : UInt32}

/-- What is looked for at a rate depends on the active mode by its size alone, which is that of any
mode that it satisfies. -/
theorem atRate_eq_of_satisfiedBy (satisfied : mode.satisfiedBy base = true) :
    base.atRate hz = mode.atRate hz := by
  obtain ⟨width, height, -⟩ := satisfiedBy_iff.mp satisfied
  funext candidate
  simp only [atRate, width, height]

theorem atRate_eq_of_atRate (fits : active.atRate hz mode = true) :
    mode.atRate hz = active.atRate hz := by
  obtain ⟨width, height, -⟩ := atRate_iff.mp fits
  funext candidate
  simp only [atRate, width, height]

/-- If a rate is asked for at the active size, and then again at the size of the mode that has been
chosen, the second choice does not change the size any more. -/
theorem atRate_eq_of_choose? (chosen : choose? (active.atRate hz) modes = some first)
    (again : choose? (first.atRate hz) modes = some second) :
    second.atRate hz = first.atRate hz := by
  rcases choose?_eq_some_iff.mp again with found | ⟨missed, favourite⟩
  · exact atRate_eq_of_atRate (List.find?_some found)
  rcases choose?_eq_some_iff.mp chosen with found | ⟨-, other⟩
  · -- The first choice is itself a listed mode of its size at the rate.
    have fits : active.atRate hz first = true := List.find?_some found
    have unfit := missed first (List.mem_of_find?_eq_some found)
    rw [atRate_eq_of_atRate fits, fits] at unfit
    cases unfit
  · obtain rfl := Option.some.inj (favourite.symm.trans other)
    rfl

end Mode

namespace Output

variable {output after : Output} {mode : Mode} {result : Except Error Unit}

/-- After a commit that has succeeded, the active mode satisfies the one that was committed. -/
theorem Committed.satisfied (commit : Committed config output mode events (.ok (), after)) :
    mode.satisfiedBy after.mode = true := by
  cases commit with
  | unchanged satisfied => exact satisfied
  | set => exact mode.satisfiedBy_self

theorem Committed.mode_eq (commit : Committed config output mode events (result, after)) :
    after.mode = output.mode ∨ after.mode = mode := by
  cases commit with
  | unchanged | unbound | failed => exact .inl rfl
  | set => exact .inr rfl

/-- A commit leaves the display in its place. -/
theorem Committed.display?_eq (commit : Committed config output mode events (result, after)) :
    after.display? = output.display? := by
  cases commit <;> rfl

/-- Whatever stops a commit, it is not that there is no mode. -/
theorem Committed.ne_noModes (commit : Committed config output mode events (result, after)) :
    result ≠ .error .noModes := by
  cases commit with
  | unchanged | unbound | set => nofun
  | failed _ _ _ scanned => cases scanned <;> nofun

end Output

namespace Manager

variable {manager middle after : Manager} {connector : Connector} {result : Except Error Unit}
  {device : UInt32}

/-- What a request for another mode has achieved for the external display, when listed modes are
`exact` if they are what is asked for. -/
structure Achieved (manager : Manager) (connector : Connector) (exact : Mode → Bool)
    (result : Except Error Unit) (after : Manager) : Prop where
  /-- The display stays. -/
  plugged : (after.output .external).display? = some connector
  /-- If a listed mode is what is asked for, then in the end so is the active one. -/
  fits : result = .ok () → (∃ mode ∈ connector.modes, exact mode = true) →
    exact (after.output .external).mode = true
  /-- If none is, the active mode satisfies the favourite. -/
  fallsBack : result = .ok () → (∀ mode ∈ connector.modes, exact mode = false) →
    ∃ favourite, Mode.favourite? connector.modes = some favourite ∧
      favourite.satisfiedBy (after.output .external).mode = true
  /-- The active mode is the one that it was before, or the one that is selected from the list. -/
  selected : (after.output .external).mode = (manager.output .external).mode ∨
    (connector.modes.find? exact).or (Mode.favourite? connector.modes) =
      some (after.output .external).mode
  /-- A request that fails leaves everything as it was. -/
  kept : ∀ error, result = .error error → after = manager
  /-- That there are no modes is the error for an empty list, and for nothing else. -/
  modeless : result = .error .noModes ↔ connector.modes = []

/-- What a request achieves, if whatever satisfies an exact mode is exact as well. -/
theorem Changed.achieved {exact : Mode → Mode → Bool} (isOpen : manager.isOpen = true)
    (addressed : Slot.ofDevice? device = some .external)
    (plugged : (manager.output .external).display? = some connector)
    (transfers : ∀ chosen base, exact chosen (manager.output .external).mode = true →
      chosen.satisfiedBy base = true → exact base (manager.output .external).mode = true)
    (changed : manager.Changed device exact events (result, after)) :
    manager.Achieved connector (exact · (manager.output .external).mode) result after := by
  cases changed with
  | shut shut => simp [isOpen] at shut
  | misaddressed _ misaddressed => exact absurd addressed misaddressed
  | unplugged _ _ unplugged => simp [plugged] at unplugged
  | modeless _ _ held unlisted =>
    obtain rfl := Option.some.inj (plugged.symm.trans held)
    have empty := Mode.choose?_eq_none_iff.mp unlisted
    exact {
      plugged
      fits := nofun
      fallsBack := nofun
      selected := .inl rfl
      kept := fun _ _ => rfl
      modeless := iff_of_true rfl empty }
  | @committed _ _ other held chosen choice events result output commit =>
    obtain rfl := Option.some.inj (plugged.symm.trans held)
    have listed : connector.modes ≠ [] := List.ne_nil_of_mem (Mode.mem_of_choose? choice)
    refine {
      plugged := by rw [output_hold_same, commit.display?_eq, plugged]
      fits := ?_
      fallsBack := ?_
      selected := ?_
      kept := ?_
      modeless := iff_of_false commit.ne_noModes listed }
    · rintro rfl ⟨mode, member, fits⟩
      rw [output_hold_same]
      rcases Mode.choose?_eq_some_iff.mp choice with found | ⟨missed, -⟩
      · -- The active mode may differ from the one that fits, but carries its flags.
        have exact_chosen : exact chosen (manager.output .external).mode = true := by
          simpa using List.find?_some found
        exact transfers chosen output.mode exact_chosen commit.satisfied
      · rw [missed mode member] at fits
        cases fits
    · rintro rfl missed
      rw [Mode.choose?_eq_favourite? missed] at choice
      exact ⟨chosen, choice, by simpa using commit.satisfied⟩
    · rw [output_hold_same, ← Mode.choose?_eq, choice]
      exact commit.mode_eq.imp_right fun same => congrArg some same.symm
    · rintro error rfl
      rw [commit.eq_of_error, hold_output]

/-- The same request some number of times, with all its results. -/
def again (change : Manager → Proc Platform (Except Error Unit × Manager)) :
    Nat → Manager → Proc Platform (List (Except Error Unit) × Manager)
  | 0, manager => return ([], manager)
  | n + 1, manager => do
    let (result, manager) ← change manager
    let (results, manager) ← again change n manager
    return (result :: results, manager)

/-- What does nothing does nothing any number of times. -/
theorem again_returns {change : Manager → Proc Platform (Except Error Unit × Manager)}
    (once : (change manager).Returns (.ok (), manager)) (n : Nat) :
    (again change n manager).Returns (List.replicate n (.ok ()), manager) := by
  induction n with
  | zero => exact fun _ _ => run_done_iff
  | succ n ih =>
    refine Run.returns ?_
    have later : (again change n manager).Run [] (List.replicate n (.ok ()), manager) :=
      (ih _ _).mpr ⟨rfl, rfl⟩
    exact ((once _ _).mpr ⟨rfl, rfl⟩).bind_nil (later.bind_nil (.done _))

/-- A request that has been granted leaves a display on an open device, with an active mode that
satisfies the one that was chosen from the list. -/
theorem Changed.granted {exact : Mode → Mode → Bool}
    (changed : manager.Changed device exact events (.ok (), after)) :
    after.isOpen = true ∧ ∃ connector chosen,
      (manager.output .external).display? = some connector ∧
        (after.output .external).display? = some connector ∧
        Mode.choose? (exact · (manager.output .external).mode) connector.modes = some chosen ∧
        chosen.satisfiedBy (after.output .external).mode = true := by
  cases changed with
  | @committed isOpen _ connector plugged chosen choice _ _ output commit =>
    refine ⟨isOpen, connector, chosen, plugged, ?_, choice, ?_⟩
    · rw [output_hold_same, commit.display?_eq, plugged]
    · rw [output_hold_same]
      exact commit.satisfied

/-- The rate is asked for at the active size. -/
theorem setRefreshRate_eq {hz : UInt32} : manager.setRefreshRate device hz =
    manager.changeMode device fun candidate active => active.atRate hz candidate :=
  rfl

/-- A mode that has been granted is granted without a call. -/
theorem returns_setMode {wanted : Mode}
    (run : (manager.setMode Slot.external.device wanted).Run events (.ok (), after)) :
    (after.setMode Slot.external.device wanted).Returns (.ok (), after) := by
  obtain ⟨isOpen, connector, chosen, -, plugged, choice, satisfied⟩ := (changed_of_run run).granted
  exact (run_changeMode_of_satisfied isOpen plugged choice satisfied).returns

/-- A rate that has been granted twice is granted without a call. -/
theorem returns_setRefreshRate {hz : UInt32} {others : List (Event Platform)}
    (run : (manager.setRefreshRate Slot.external.device hz).Run events (.ok (), middle))
    (next : (middle.setRefreshRate Slot.external.device hz).Run others (.ok (), after)) :
    (after.setRefreshRate Slot.external.device hz).Returns (.ok (), after) := by
  rw [setRefreshRate_eq] at run next ⊢
  obtain ⟨-, connector, first, -, stays, chosen, reached⟩ := (changed_of_run run).granted
  obtain ⟨isOpen, other, second, held, plugged, again, satisfied⟩ := (changed_of_run next).granted
  obtain rfl := Option.some.inj (stays.symm.trans held)
  have middle_size : (middle.output .external).mode.atRate hz = first.atRate hz :=
    Mode.atRate_eq_of_satisfiedBy reached
  have after_size : (after.output .external).mode.atRate hz = second.atRate hz :=
    Mode.atRate_eq_of_satisfiedBy satisfied
  have again : Mode.choose? (first.atRate hz) connector.modes = some second := middle_size ▸ again
  -- The second choice has kept the size, so a third one is made among the same modes.
  have size : (after.output .external).mode.atRate hz = first.atRate hz :=
    after_size.trans (Mode.atRate_eq_of_choose? chosen again)
  refine (run_changeMode_of_satisfied isOpen plugged ?_ satisfied).returns
  exact size.symm ▸ again

/-- However the calls were answered: after a mode has been granted, any number of requests for it
are granted without a call, and leave the manager as it is; and so are any number of requests for a
rate, after it has been granted twice in a row. -/
theorem requests_settle :
    (∀ wanted events after,
      (manager.setMode Slot.external.device wanted).Run events (.ok (), after) →
        ∀ n, (again (·.setMode Slot.external.device wanted) n after).Returns
          (List.replicate n (.ok ()), after)) ∧
    ∀ hz events middle others after,
      (manager.setRefreshRate Slot.external.device hz).Run events (.ok (), middle) →
        (middle.setRefreshRate Slot.external.device hz).Run others (.ok (), after) →
          ∀ n, (again (·.setRefreshRate Slot.external.device hz) n after).Returns
            (List.replicate n (.ok ()), after) :=
  ⟨fun _ _ _ run => again_returns (returns_setMode run),
    fun _ _ _ _ _ run next => again_returns (returns_setRefreshRate run next)⟩

end Manager

/-- Whatever has been done with a manager, and however the calls are answered: what a request for a
mode or for a rate achieves if an external display is there. -/
theorem History.change_achieves {manager after : Manager} {connector : Connector}
    {result : Except Error Unit} (history : History config past manager)
    (plugged : (manager.output .external).display? = some connector) :
    (∀ wanted, (manager.setMode Slot.external.device wanted).Run events (result, after) →
      manager.Achieved connector wanted.satisfiedBy result after) ∧
    ∀ hz, (manager.setRefreshRate Slot.external.device hz).Run events (result, after) →
      manager.Achieved connector ((manager.output .external).mode.atRate hz) result after := by
  have isOpen := history.sound.isOpen_of_display plugged
  have addressed := Slot.ofDevice?_device .external
  constructor
  · intro wanted run
    refine Manager.Changed.achieved isOpen addressed plugged ?_ (Manager.changed_of_run run)
    exact fun _ _ fits satisfied => Mode.satisfiedBy_trans fits satisfied
  · intro hz run
    rw [Manager.setRefreshRate_eq] at run
    refine Manager.Changed.achieved isOpen addressed plugged ?_ (Manager.changed_of_run run)
    exact fun _ _ fits satisfied => Mode.atRate_of_satisfiedBy fits satisfied

/-! ## A rate that is asked for again

The display of the session is found running a mode that it does not list, and is asked for the lower
rate until this makes no difference. -/

namespace Session

/-- The display is found running the small mode. -/
def smallDetection : List (Event Platform) :=
  [.kms .resources (.ok resources), .kms (.connector 20) (.ok connector),
    .kms (.encoder 30) (.ok encoder), .kms (.crtc 40) (.ok { running with mode := small })]

theorem history_small : History .default (opening ++ smallDetection) (foundWith small) :=
  .step (.step .new .start run_start) (.detect 1) (Proc.replay_eq_some_iff.mp rfl)

/-- Instead of the small mode at the lower rate, which is not listed, the native mode is set. -/
def growing : List (Event Platform) :=
  [.allocated 64 48 (.ok ⟨7, 256⟩), .kms (.addFramebuffer ⟨64, 48, 256, 32, 24, 7⟩) (.ok 100),
    .kms (.setCrtc 40 100 0 0 [20] (some native)) (.ok ())]

/-- The manager that shows the native mode. -/
def grown : Manager :=
  (foundWith small).hold .external
    (((foundWith small).output .external).withFramebuffer native ⟨100, 7, 256⟩)

/-- The manager that shows the slow mode, which is of the native size. -/
def steadied : Manager :=
  grown.hold .external ((grown.output .external).withFramebuffer slow ⟨101, 8, 256⟩)

theorem run_growing : ((foundWith small).setRefreshRate 1 30).Run growing (.ok (), grown) :=
  Proc.replay_eq_some_iff.mp rfl

theorem run_steadying : (grown.setRefreshRate 1 30).Run change (.ok (), steadied) :=
  Proc.replay_eq_some_iff.mp rfl

/-- The slow mode is listed, and becomes active. At the size of the small mode its rate is not to be
had, so the favourite becomes active, at the size of which the rate is to be had. -/
theorem rate_achieved :
    manager.Achieved connector slow.satisfiedBy (.ok ())
        (manager.hold .external (output.withFramebuffer slow ⟨101, 8, 256⟩)) ∧
      (foundWith small).Achieved connector (small.atRate 30) (.ok ()) grown ∧
      grown.Achieved connector (native.atRate 30) (.ok ()) steadied := by
  have again : History .default (opening ++ smallDetection ++ growing) grown :=
    history_small.step (.setRefreshRate 1 30) run_growing
  exact ⟨(history.change_achieves rfl).1 slow run_change,
    (history_small.change_achieves rfl).2 30 run_growing,
    (again.change_achieves rfl).2 30 run_steadying⟩

/-- After the slow mode has been asked for once, or the rate twice, asking again makes no call. -/
theorem rate_settled :
    (∀ n, (Manager.again (·.setMode Slot.external.device slow) n
        (manager.hold .external (output.withFramebuffer slow ⟨101, 8, 256⟩))).Returns
      (List.replicate n (.ok ()),
        manager.hold .external (output.withFramebuffer slow ⟨101, 8, 256⟩))) ∧
    ∀ n, (Manager.again (·.setRefreshRate Slot.external.device 30) n steadied).Returns
      (List.replicate n (.ok ()), steadied) :=
  ⟨manager.requests_settle.1 slow change _ run_change,
    (foundWith small).requests_settle.2 30 growing grown change steadied run_growing
      run_steadying⟩

end Session

end Modeset
