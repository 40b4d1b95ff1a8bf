import Modeset.Proofs.SetMode

/-!
# The command that changes the rate

The command finds the external display, has the manager choose a mode of the active size and the
wanted rate, and tells if there was none. It does not know which mode the manager has chosen: it
asks for the active mode and compares the rate alone. So what it tells is right if such a mode is
listed. But if none is, then it passes over in silence that the favourite, of whatever size, has
been set in its place, as long as the favourite happens to have the wanted rate.

## Main definitions

* `printed` — what is written to the standard output
* `Session.switchRate`, `Session.notice` — the parts of the command that matter
* `Session.fallbackLine` — the line that tells of a favourite set in place of the wanted mode
* `Refreshed` — how the command goes if it succeeds

## Main results

* `Session.printed_of_ran_notice` — when the line is printed
* `exists_refreshed` — there is no other way to succeed
* `refresh_notice` — what the command does and prints, with such a mode and without
-/

namespace Modeset

open Proc

/-- Whether a call to the host does not write to the standard output. -/
def Host.Call.isQuiet : Host.Call → Bool
  | .print _ => false
  | _ => true

/-- Loading a configuration prints nothing. -/
theorem Config.makesOnly_loadFrom (path : Path) :
    (loadFrom path).MakesOnly (S := Host) (Host.Call.isQuiet · = true) := by
  simp only [loadFrom, Host.makesOnly_ask_bind_iff]
  refine ⟨rfl, fun exist => ?_⟩
  cases exist with
  | false => exact trivial
  | true =>
    simp only [if_true, Host.makesOnly_ask_bind_iff]
    refine ⟨rfl, fun content => ?_⟩
    cases content with
    | error => exact trivial
    | ok content =>
      simp only
      cases ofContent content <;> exact trivial

theorem Config.makesOnly_load : load.MakesOnly (S := Host) (Host.Call.isQuiet · = true) := by
  refine MakesOnly.bind ?_ makesOnly_loadFrom
  simp only [defaultPath, Host.makesOnly_ask_bind_iff]
  refine ⟨rfl, fun directory => ?_⟩
  split
  · exact trivial
  · simp only [Host.makesOnly_ask_bind_iff]
    refine ⟨rfl, fun home => ?_⟩
    cases home <;> exact trivial

namespace Mode

variable {mode base : Mode}

/-- A mode that satisfies another one has its area and its rate. -/
theorem isEmpty_eq_of_satisfiedBy (satisfied : mode.satisfiedBy base = true) :
    base.isEmpty = mode.isEmpty ∧ base.vrefresh = mode.vrefresh := by
  obtain ⟨width, height, rate, -⟩ := satisfiedBy_iff.mp satisfied
  exact ⟨by rw [isEmpty, isEmpty, width, height], rate⟩

end Mode

namespace Cli

/-! ## What is printed -/

/-- What is written to the standard output, call by call. -/
def printed (events : List (Event Terminal)) : List String :=
  events.filterMap fun
    | ⟨.inr (.print text), _⟩ => some text
    | _ => none

section Printed

variable {α : Type} {events others : List (Event Terminal)}

@[simp] theorem printed_nil : printed [] = [] := rfl

@[simp] theorem printed_append : printed (events ++ others) = printed events ++ printed others :=
  List.filterMap_append

/-- What is done with a manager prints nothing. -/
theorem printed_of_run_onPlatform {manager : Manager} {operation : Manager → Proc Platform α}
    {a : α} (run : (onPlatform manager operation : Proc Terminal α).Run events a) :
    printed events = [] := by
  obtain ⟨own, -, rfl⟩ := run_left_iff.mp run
  rw [printed, List.filterMap_map]
  exact List.filterMap_eq_nil_iff.mpr fun _ _ => rfl

theorem printed_map_onRight {own : List (Event Host)}
    (quiet : ∀ event ∈ own, event.call.isQuiet = true) :
    printed (own.map Event.onRight) = [] := by
  rw [printed, List.filterMap_map]
  refine List.filterMap_eq_nil_iff.mpr fun event member => ?_
  obtain ⟨call, answer⟩ := event
  cases call with
  | print text => cases quiet _ member
  | _ => rfl

/-- Opening the device prints nothing. -/
theorem printed_of_run_opening {path : Option Path} {outcome : Except Failure Manager}
    (run : (opening path).run.Run events outcome) : printed events = [] := by
  have quiet : (loading path).MakesOnly (S := Host) (Host.Call.isQuiet · = true) := by
    cases path with
    | none => exact Config.makesOnly_load
    | some path => exact Config.makesOnly_loadFrom path
  cases opened_of_run run with
  | unloaded load => exact printed_map_onRight (quiet.of_run load)
  | started load start =>
    have loading_printed := printed_map_onRight (quiet.of_run load)
    rw [printed_append, loading_printed, printed_of_run_onPlatform start, List.append_nil]

end Printed

/-! ## The parts of the command -/

namespace Session

variable {hz : UInt32} {seconds : UInt64} {manager last : Manager} {events : List (Event Terminal)}
  {outcome : Except Failure Unit}

/-- Have the manager choose a mode of the active size and a rate. -/
def switchRate (hz : UInt32) : Session Unit :=
  inContext s!"Failed to set refresh rate {hz}Hz"
    (operate (·.setRefreshRate Slot.external.device hz))

/-- The line that tells that no listed mode has the wanted rate. -/
def fallbackLine (hz : UInt32) : String :=
  s!"No {hz}Hz mode at the current size, fell back to the preferred mode"

/-- Tell if the active mode does not have the wanted rate. -/
def notice (hz : UInt32) : Session Unit := do
  let active ← query (·.mode Slot.external.device)
  if active.map (·.vrefresh) ≠ some hz then
    printLine (fallbackLine hz)

/-- Find the external display and have the manager choose a mode of the active size and a rate. -/
def changeRate (hz : UInt32) : Session Unit :=
  requireDisplay .external >>= fun _ => switchRate hz

theorem refresh_eq (hz : UInt32) (seconds : UInt64) :
    refresh hz seconds = requireDisplay .external >>= fun _ => switchRate hz >>= fun _ =>
      notice hz >>= fun _ => reportMode >>= fun _ => hold seconds := by
  unfold refresh notice switchRate
  congr 1
  funext _
  congr 1
  funext _
  rw [LawfulMonad.bind_assoc]
  congr 1
  funext active
  by_cases wanted : active.map (·.vrefresh) ≠ some hz
  · simp only [if_pos wanted, fallbackLine]
  · simp only [if_neg wanted, LawfulMonad.pure_bind]

theorem printed_of_ran_printLine {line : String}
    (ran : (printLine line : Session Unit).Ran manager events outcome last) :
    outcome = .ok () ∧ last = manager ∧ printed events = [line ++ "\n"] := by
  obtain ⟨⟨⟩, run, rfl, rfl⟩ := ran_lift_iff.mp ran
  obtain ⟨own, ask, rfl⟩ := run_right_iff.mp run
  obtain rfl := run_ask_iff.mp ask
  exact ⟨rfl, rfl, rfl⟩

theorem printed_of_ran_requireDisplay {slot : Slot}
    (ran : (requireDisplay slot).Ran manager events outcome last) : printed events = [] := by
  rcases ran_bind_iff.mp ran with
    ⟨failure, failed, -⟩ | ⟨found, middle, first, rest, operate, checked, rfl⟩
  · obtain ⟨result, run, -⟩ := ran_operate_iff.mp failed
    exact printed_of_run_onPlatform run
  · obtain ⟨result, run, -⟩ := ran_operate_iff.mp operate
    have checked_events : rest = [] := by
      cases found with
      | connected mode => exact (ran_pure_iff.mp checked).1
      | disconnected | disabled => exact (ran_throw_iff.mp checked).1
    rw [checked_events, List.append_nil, printed_of_run_onPlatform run]

/-- The rate is changed by the manager alone, and nothing is printed. -/
theorem exists_chosen_of_ran_switchRate {connector : Connector}
    (plugged : (manager.output .external).display? = some connector)
    (ran : (switchRate hz).Ran manager events (.ok ()) last) :
    printed events = [] ∧ ∃ chosen,
      Mode.choose? ((manager.output .external).mode.atRate hz) connector.modes = some chosen ∧
        (chosen.satisfiedBy (manager.output .external).mode = true ∧
            (last.output .external).mode = (manager.output .external).mode ∨
          chosen.satisfiedBy (manager.output .external).mode = false ∧
            (last.output .external).mode = chosen) ∧
        (last.output .external).connected = true := by
  obtain ⟨inner, operate, same⟩ := ran_inContext_iff.mp ran
  obtain ⟨result, set, rfl⟩ := ran_operate_iff.mp operate
  cases result with
  | error => cases same
  | ok =>
    obtain ⟨others, change⟩ := exists_run_of_onPlatform set
    exact ⟨printed_of_run_onPlatform set, (Manager.changed_of_run change).exists_chosen plugged⟩

/-- The line is printed unless the active mode has the wanted rate. -/
theorem printed_of_ran_notice (ran : (notice hz).Ran manager events outcome last) :
    outcome = .ok () ∧ last = manager ∧ printed events =
      if (manager.output .external).activeMode?.map (·.vrefresh) = some hz then []
      else [fallbackLine hz ++ "\n"] := by
  obtain ⟨active, first, rest, run, told, rfl⟩ := ran_query_bind_iff.mp ran
  obtain ⟨others, asked⟩ := exists_run_of_onPlatform run
  obtain rfl : active = (manager.output .external).activeMode? := by
    simpa using (Manager.run_output?_iff.mp asked).2
  rw [printed_append, printed_of_run_onPlatform run, List.nil_append]
  by_cases wanted : (manager.output .external).activeMode?.map (·.vrefresh) = some hz
  · obtain ⟨rfl, rfl, rfl⟩ := ran_pure_iff.mp (by simpa [wanted] using told)
    simp [wanted]
  · simp only [ne_eq, wanted, not_false_eq_true, if_true] at told
    obtain ⟨rfl, rfl, line⟩ := printed_of_ran_printLine told
    exact ⟨rfl, rfl, by rw [line, if_neg wanted]⟩

/-- No other line begins like the one that tells of the fallback. -/
theorem fallbackLine_notMem {lines : List String}
    (others : ∀ line ∈ lines, line.toList.head? ≠ some 'N') :
    fallbackLine hz ++ "\n" ∉ lines := by
  intro member
  refine others _ member ?_
  simp [fallbackLine, String.toList_append, toString]

/-- The outcome is told in another line. -/
theorem printed_of_ran_reportMode (ran : reportMode.Ran manager events outcome last) :
    outcome = .ok () ∧ last = manager ∧ fallbackLine hz ++ "\n" ∉ printed events := by
  obtain ⟨active, first, rest, run, told, rfl⟩ := ran_query_bind_iff.mp ran
  rw [printed_append, printed_of_run_onPlatform run, List.nil_append]
  cases active with
  | none =>
    obtain ⟨rfl, rfl, line⟩ := printed_of_ran_printLine told
    refine ⟨rfl, rfl, fallbackLine_notMem ?_⟩
    simp [line]
  | some mode =>
    obtain ⟨rfl, rfl, line⟩ := printed_of_ran_printLine told
    refine ⟨rfl, rfl, fallbackLine_notMem ?_⟩
    simp [line, String.toList_append, toString]

/-- That everything is kept as it is is told in another line. -/
theorem printed_of_ran_hold (ran : (hold seconds).Ran manager events outcome last) :
    outcome = .ok () ∧ last = manager ∧ fallbackLine hz ++ "\n" ∉ printed events := by
  unfold hold at ran
  by_cases briefly : seconds = 0
  · obtain ⟨rfl, rfl, rfl⟩ := ran_pure_iff.mp (by simpa [briefly] using ran)
    exact ⟨rfl, rfl, by simp⟩
  · simp only [ne_eq, briefly, not_false_eq_true, if_true] at ran
    rcases ran_bind_iff.mp ran with
      ⟨failure, failed, -⟩ | ⟨⟨⟩, middle, first, rest, told, slept, rfl⟩
    · cases (printed_of_ran_printLine failed).1
    · obtain ⟨-, rfl, line⟩ := printed_of_ran_printLine told
      obtain ⟨⟨⟩, run, rfl, rfl⟩ := ran_lift_iff.mp slept
      obtain ⟨own, ask, rfl⟩ := run_right_iff.mp run
      obtain rfl := run_ask_iff.mp ask
      have asleep : printed ([⟨.sleep seconds, ⟨⟩⟩].map Event.onRight) = [] := rfl
      refine ⟨rfl, rfl, fallbackLine_notMem ?_⟩
      rw [printed_append, line, asleep]
      simp [String.toList_append, toString]

end Session

/-! ## The whole command -/

open Modeset.Cli.Session

variable {path : Option Path} {hz : UInt32} {seconds : UInt64} {past events : List (Event Terminal)}
  {found : Manager}

/-- Until the display has been found, nothing is printed. -/
theorem printed_of_reached {slot : Slot}
    (detected : Reached path (requireDisplay slot) past found) : printed past = [] := by
  obtain ⟨opened, first, second, start, ran, rfl⟩ := detected
  rw [printed_append, printed_of_run_opening start, printed_of_ran_requireDisplay ran,
    List.append_nil]

/-- How a command goes that succeeds: the display is found, the manager chooses a mode, and the line
is printed if the active mode then does not have the wanted rate. -/
structure Refreshed (path : Option Path) (hz : UInt32) (events : List (Event Terminal))
    (found switched : Manager) (connector : Connector) (chosen : Mode) : Prop where
  stages : ∃ past switching rest, events = past ++ (switching ++ rest) ∧
    Reached path (requireDisplay .external) past found ∧
    Reached path (changeRate hz) (past ++ switching) switched
  plugged : (found.output .external).display? = some connector
  choice : Mode.choose? ((found.output .external).mode.atRate hz) connector.modes = some chosen
  satisfied : chosen.satisfiedBy (switched.output .external).mode = true
  notice : fallbackLine hz ++ "\n" ∈ printed events ↔
    (switched.output .external).activeMode?.map (·.vrefresh) ≠ some hz
  connected : (switched.output .external).connected = true

/-- A command that succeeds goes like this. -/
theorem exists_refreshed (run : (work path (.refresh hz seconds)).run.Run events (.ok ())) :
    ∃ found switched connector chosen,
      Refreshed path hz events found switched connector chosen := by
  have whole : (withSession path (refresh hz seconds)).run.Run events (.ok ()) := run
  rw [refresh_eq] at whole
  obtain ⟨past, others, found, detected, rfl⟩ := exists_reached whole
  obtain ⟨connector, plugged⟩ := exists_display_of_reached detected
  obtain ⟨middle, last, after, stopped, ran, stop, rfl⟩ := detected.rest whole
  rcases ran_bind_iff.mp ran with
    ⟨_, -, impossible⟩ | ⟨⟨⟩, switched, switching, _, switches, noticing, rfl⟩
  · cases impossible
  rcases ran_bind_iff.mp noticing with
    ⟨_, -, impossible⟩ | ⟨⟨⟩, _, telling, _, tells, reporting, rfl⟩
  · cases impossible
  rcases ran_bind_iff.mp reporting with
    ⟨_, -, impossible⟩ | ⟨⟨⟩, _, report, holding, reports, holds, rfl⟩
  · cases impossible
  obtain ⟨quiet, chosen, choice, active, connected⟩ :=
    exists_chosen_of_ran_switchRate plugged switches
  -- Of all that is printed, only the notice may hold the line.
  obtain ⟨-, rfl, told⟩ := printed_of_ran_notice tells
  obtain ⟨-, rfl, reported⟩ := @printed_of_ran_reportMode hz _ _ _ _ reports
  obtain ⟨-, rfl, held⟩ := @printed_of_ran_hold hz _ _ _ _ _ holds
  have before := printed_of_reached detected
  have behind := printed_of_run_onPlatform stop
  refine ⟨found, after, connector, chosen, {
    stages := ⟨past, switching, telling ++ (report ++ holding) ++ last, by simp, detected,
      detected.bind switches⟩
    plugged, choice, connected
    satisfied := ?_
    notice := ?_ }⟩
  · rcases active with ⟨already, same⟩ | ⟨-, same⟩
    · rwa [same]
    · rw [same]
      exact chosen.satisfiedBy_self
  · simp only [printed_append, before, quiet, told, behind, List.mem_append, reported, held,
      List.not_mem_nil, false_or, or_false]
    split <;> simp_all

/-- Whatever the configuration, the display and the rate, and whatever the calls are answered, if
the display is found with an active mode and the command succeeds: where a mode of the active size
and the wanted rate is listed, one such mode is active then, and the line that tells of a fallback
is not printed. Where none is, the favourite is active, or something that satisfies it; and the line
is printed if the favourite does not have the wanted rate, or has no area. -/
theorem refresh_notice (run : (work path (.refresh hz seconds)).run.Run events (.ok ())) :
    ∃ found switched connector chosen, Refreshed path hz events found switched connector chosen ∧
      ∀ active, (found.output .external).activeMode? = some active →
        ((∃ mode ∈ connector.modes, active.atRate hz mode = true) →
          active.atRate hz (switched.output .external).mode = true ∧
            fallbackLine hz ++ "\n" ∉ printed events) ∧
        ((∀ mode ∈ connector.modes, active.atRate hz mode = false) →
          Mode.favourite? connector.modes = some chosen ∧
            (fallbackLine hz ++ "\n" ∈ printed events ↔
              chosen.isEmpty = true ∨ chosen.vrefresh ≠ hz)) := by
  obtain ⟨found, switched, connector, chosen, refreshed⟩ := exists_refreshed run
  refine ⟨found, switched, connector, chosen, refreshed, fun active running => ?_⟩
  obtain ⟨-, area, rfl⟩ := Output.activeMode?_eq_some_iff.mp running
  obtain ⟨same_area, same_rate⟩ := Mode.isEmpty_eq_of_satisfiedBy refreshed.satisfied
  -- The command looks at the active mode, whose area and rate are those of the chosen one.
  have notice : fallbackLine hz ++ "\n" ∈ printed events ↔
      chosen.isEmpty = true ∨ chosen.vrefresh ≠ hz := by
    rw [refreshed.notice, Output.activeMode?, if_pos refreshed.connected, Output.mode?, same_area]
    cases chosen.isEmpty <;> simp [same_rate]
  have choice := refreshed.choice
  rw [Mode.choose?_eq] at choice
  constructor
  · rintro ⟨mode, listed, fits⟩
    have exists_exact :
        (connector.modes.find? ((found.output .external).mode.atRate hz)).isSome := by
      rw [List.find?_isSome]
      exact ⟨mode, listed, fits⟩
    obtain ⟨exact, first⟩ := Option.isSome_iff_exists.mp exists_exact
    obtain rfl : exact = chosen := by simpa [first] using choice
    have exact_fits : (found.output .external).mode.atRate hz exact = true := List.find?_some first
    refine ⟨Mode.atRate_of_satisfiedBy exact_fits refreshed.satisfied, ?_⟩
    obtain ⟨width, height, rate⟩ := Mode.atRate_iff.mp exact_fits
    have exact_area : exact.isEmpty = false := by rwa [Mode.isEmpty, width, height]
    rw [notice]
    simp [exact_area, rate]
  · intro unlisted
    have none_exact : connector.modes.find? ((found.output .external).mode.atRate hz) = none := by
      simpa [List.find?_eq_none] using unlisted
    rw [none_exact, Option.none_or] at choice
    exact ⟨choice, notice⟩

end Cli

/-! ## Commands

The display of the session is asked for the rate of its native mode. -/

namespace Session

open Cli

theorem run_refresh (mode : Mode) (other : mode = slow ∨ mode = small) :
    (work (some ⟨[]⟩) (.refresh 60 0)).run.Run
      (readying ++ finding mode ++ (switching ++ (telling ++ closing))) (.ok ()) := by
  rcases other with rfl | rfl <;> exact Proc.replay_eq_some_iff.mp rfl

/-- From the slow mode, the display gets its native mode, which has the size and the rate. -/
theorem slow_refreshed :
    ∃ switched chosen,
      Refreshed (some ⟨[]⟩) 60 (readying ++ finding slow ++ (switching ++ (telling ++ closing)))
          (foundWith slow) switched connector chosen ∧
        slow.atRate 60 (switched.output .external).mode = true := by
  obtain ⟨found, switched, other, chosen, refreshed, tells⟩ :=
    refresh_notice (run_refresh slow (.inl rfl))
  -- The answers determine what is found.
  obtain ⟨_, _, _, parts, detected, -⟩ := refreshed.stages
  obtain ⟨-, rfl⟩ := detected.eq_of_append_eq (reached_found slow) parts.symm
  obtain rfl : connector = other := Option.some.inj refreshed.plugged
  have listed : ∃ mode ∈ connector.modes, slow.atRate 60 mode = true :=
    ⟨native, by simp [connector], rfl⟩
  exact ⟨switched, chosen, refreshed, ((tells slow rfl).1 listed).1⟩

/-- The manager that has switched the display from the small mode to the native one. -/
def enlarged : Manager :=
  { manager with
    outputs.external :=
      { output with crtc := some { running with mode := small, bufferId := 100 } } }

/-- From the small mode, the display gets its native mode as well. No listed mode has the size, and
the size changes, but the line is not printed, since the rate is right. -/
theorem small_enlarged_in_silence :
    (work (some ⟨[]⟩) (.refresh 60 0)).run.Run
        (readying ++ finding small ++ (switching ++ (telling ++ closing))) (.ok ()) ∧
      Reached (some ⟨[]⟩) (Cli.Session.requireDisplay .external) (readying ++ finding small)
        (foundWith small) ∧
      ((foundWith small).output .external).display? = some connector ∧
      ((foundWith small).output .external).activeMode? = some small ∧
      (∀ mode ∈ connector.modes, small.atRate 60 mode = false) ∧
      Cli.Session.fallbackLine 60 ++ "\n" ∉
        printed (readying ++ finding small ++ (switching ++ (telling ++ closing))) ∧
      Reached (some ⟨[]⟩) (Cli.Session.changeRate 60) (readying ++ finding small ++ switching)
        enlarged ∧
      (enlarged.output .external).mode.hdisplay ≠ small.hdisplay := by
  have detected := reached_found small
  have changed : (Cli.Session.switchRate 60).Ran (foundWith small) switching (.ok ()) enlarged :=
    Proc.replay_eq_some_iff.mp rfl
  have unsaid : Cli.Session.fallbackLine 60 ++ "\n" ∉
      printed (readying ++ finding small ++ (switching ++ (telling ++ closing))) := by
    refine Cli.Session.fallbackLine_notMem ?_
    decide
  exact ⟨run_refresh small (.inr rfl), detected, rfl, rfl, by decide, unsaid,
    detected.bind changed, by decide⟩

end Session

end Modeset
