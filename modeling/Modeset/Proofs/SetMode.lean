import Modeset.Proofs.Candidate
import Modeset.Proofs.Connected
import Modeset.Proofs.Terminal

/-!
# The command that changes the mode

The command finds the external display, takes a listed mode that the request accepts, has the
manager set it, and tells which mode is active. Every stage of it is a run of its own, and what has
been shown of the manager's operations holds there: a display that has been found has a connector,
and the mode that is set is the one that the command has taken, or satisfies it.

## Main definitions

* `Session.switchMode` — the part of the command before it tells the outcome
* `Session.unavailable` — the failure if no listed mode is accepted
* `Delivered` — how the command goes if it succeeds

## Main results

* `Session.served_of_ran` — in which ways a display that has been found can be served
* `served_or_delivered`, `exists_delivered` — there is no other way to succeed
* `setMode_delivers` — the active mode is accepted, and it is refused just if no mode is
* `setMode_prefers` — a preferred mode that is accepted is asked for
-/

namespace Modeset

open Proc

namespace Cli

variable {request : ModeRequest} {wanted : Mode}

namespace Session

/-- The failure if a display has no mode that a request accepts. -/
def unavailable (request : ModeRequest) (modes : List Mode) : Failure :=
  let available := ", ".intercalate (modes.map Mode.text)
  .refused s!"No {request.text} mode on the external output. Available: {available}"

/-- Switch the display that has been found to a mode that a request accepts. -/
def serve (request : ModeRequest) : Session Unit := do
  let modes := (← query (·.modes Slot.external.device)).getD []
  match candidate? request modes with
  | none => throw (unavailable request modes)
  | some mode =>
    note .info .modeCommand s!"Requested {request.text}, using {mode.text}"
    inContext s!"Failed to set mode {request.text}"
      (operate (·.setMode Slot.external.device mode))

/-- Find the external display and switch it to a mode that a request accepts. -/
def switchMode (request : ModeRequest) : Session Unit :=
  requireDisplay .external >>= fun _ => serve request

theorem setMode_eq (request : ModeRequest) (seconds : UInt64) :
    setMode request seconds = requireDisplay .external >>= fun _ => serve request >>= fun _ =>
      reportMode >>= fun _ => hold seconds := by
  unfold setMode serve
  congr 1
  funext _
  rw [LawfulMonad.bind_assoc]
  congr 1
  funext modes
  simp only
  cases candidate? request (modes.getD []) <;> rfl

section Ran

variable {manager last : Manager} {connector : Connector} {events : List (Event Terminal)}

/-- A display that has been found is there, with its connector. -/
theorem exists_display_of_ran_requireDisplay {slot : Slot}
    (ran : (requireDisplay slot).Ran manager events (.ok ()) last) :
    ∃ connector, (last.output slot).display? = some connector := by
  rcases ran_bind_iff.mp ran with
    ⟨failure, -, impossible⟩ | ⟨outcome, middle, first, rest, operate, checked, -⟩
  · cases impossible
  obtain ⟨result, run, same⟩ := ran_operate_iff.mp operate
  obtain ⟨others, detect⟩ := exists_run_of_onPlatform run
  cases result with
  | error => cases same
  | ok found =>
    obtain rfl := Except.ok.inj same
    cases outcome with
    | connected mode =>
      obtain ⟨-, -, rfl⟩ := ran_pure_iff.mp checked
      exact Manager.exists_display_of_connected detect
    | disconnected | disabled =>
      obtain ⟨-, impossible, -⟩ := ran_throw_iff.mp checked
      cases impossible

/-- The outcome is told and nothing is changed. -/
theorem ran_reportMode {outcome : Except Failure Unit}
    (ran : reportMode.Ran manager events outcome last) : outcome = .ok () ∧ last = manager := by
  obtain ⟨mode, first, rest, -, told, -⟩ := ran_query_bind_iff.mp ran
  cases mode with
  | none =>
    obtain ⟨⟨⟩, -, rfl, rfl⟩ := ran_lift_iff.mp told
    exact ⟨rfl, rfl⟩
  | some mode =>
    obtain ⟨⟨⟩, -, rfl, rfl⟩ := ran_lift_iff.mp told
    exact ⟨rfl, rfl⟩

/-- To hold is not to fail. -/
theorem ran_hold {seconds : UInt64} {outcome : Except Failure Unit}
    (ran : (hold seconds).Ran manager events outcome last) : outcome = .ok () := by
  unfold hold at ran
  by_cases briefly : seconds = 0
  · obtain ⟨-, rfl, -⟩ := ran_pure_iff.mp (by simpa [briefly] using ran)
    rfl
  · simp only [ne_eq, briefly, not_false_eq_true, if_true] at ran
    obtain ⟨_, first, rest, -, slept, -⟩ := ran_lift_bind_iff.mp ran
    obtain ⟨⟨⟩, -, rfl, -⟩ := ran_lift_iff.mp slept
    rfl

/-- The ways in which the display that has been found can be served. -/
inductive Served (request : ModeRequest) (connector : Connector) (manager last : Manager) :
    Except Failure Unit → Prop
  /-- No listed mode is accepted, and nothing is done. -/
  | unavailable (candidate : candidate? request connector.modes = none) :
      Served request connector manager last (.error (unavailable request connector.modes))
  /-- The mode that has been taken cannot be set. -/
  | failed {wanted : Mode} (candidate : candidate? request connector.modes = some wanted)
      (context : String) (error : Error) :
      Served request connector manager last (.error (.inContext context (.error error)))
  /-- The request is met. -/
  | met {wanted chosen : Mode} (met : Met request connector.modes
        (manager.output .external).mode (last.output .external).mode wanted chosen) :
      Served request connector manager last (.ok ())

theorem served_of_ran {outcome : Except Failure Unit}
    (plugged : (manager.output .external).display? = some connector)
    (ran : (serve request).Ran manager events outcome last) :
    Served request connector manager last outcome := by
  obtain ⟨modes, first, rest, run, chosen, -⟩ := ran_query_bind_iff.mp ran
  -- The modes that the command looks through are those of the connector.
  obtain ⟨others, asked⟩ := exists_run_of_onPlatform run
  obtain rfl : modes = some connector.modes := by
    have answer := (Manager.run_output?_iff.mp asked).2
    simpa [plugged] using answer
  simp only [Option.getD_some] at chosen
  cases candidate : candidate? request connector.modes with
  | none =>
    simp only [candidate] at chosen
    obtain ⟨-, rfl, -⟩ := ran_throw_iff.mp chosen
    exact .unavailable candidate
  | some wanted =>
    simp only [candidate, ran_note_bind_iff] at chosen
    obtain ⟨inner, operate, rfl⟩ := ran_inContext_iff.mp chosen
    obtain ⟨result, set, rfl⟩ := ran_operate_iff.mp operate
    obtain ⟨others, change⟩ := exists_run_of_onPlatform set
    cases result with
    | error error => exact .failed candidate _ error
    | ok =>
      obtain ⟨mode, met⟩ := exists_met_of_run plugged candidate change
      exact .met met

end Ran

end Session

/-! ## The whole command -/

open Modeset.Cli.Session

variable {path : Option Path} {seconds : UInt64} {outcome : Except Failure Unit}
  {past others events : List (Event Terminal)} {found switched : Manager} {connector : Connector}

/-- How a command goes that succeeds: the display is found, it is switched to a mode that meets the
request, and the active mode is told. -/
structure Delivered (path : Option Path) (request : ModeRequest) (events : List (Event Terminal))
    (found switched : Manager) (connector : Connector) (wanted : Mode) : Prop where
  /-- Each stage has its calls, and a manager behind it. -/
  stages : ∃ past switching report rest, events = past ++ (switching ++ (report ++ rest)) ∧
    Reached path (requireDisplay .external) past found ∧
    Reached path (switchMode request) (past ++ switching) switched ∧
    reportMode.Ran switched report (.ok ()) switched
  plugged : (found.output .external).display? = some connector
  met : ∃ chosen, Met request connector.modes (found.output .external).mode
    (switched.output .external).mode wanted chosen

/-- What has found the display in a command is determined by the answers. -/
theorem Delivered.found_eq {other : Manager}
    (delivered : Delivered path request (past ++ others) found switched connector wanted)
    (detected : Reached path (requireDisplay .external) past other) : other = found := by
  obtain ⟨_, _, _, _, parts, finds, -, -⟩ := delivered.stages
  exact (detected.eq_of_append_eq finds parts).2

/-- Once the display has been found, either it is served and the outcome is that of serving it, or
the command goes through all stages and succeeds. -/
theorem served_or_delivered (run : (work path (.setMode request seconds)).run.Run events outcome)
    (before : events = past ++ others)
    (detected : Reached path (requireDisplay .external) past found)
    (plugged : (found.output .external).display? = some connector) :
    (∃ last failure, outcome = .error failure ∧ Served request connector found last outcome) ∨
      ∃ switched wanted, outcome = .ok () ∧
        Delivered path request events found switched connector wanted := by
  have whole : (withSession path (setMode request seconds)).run.Run (past ++ others) outcome :=
    before ▸ run
  rw [setMode_eq] at whole
  obtain ⟨middle, last, after, stopped, ran, -, rfl⟩ := detected.rest whole
  rcases ran_bind_iff.mp ran with
    ⟨failure, served, rfl⟩ | ⟨⟨⟩, switched, switching, telling, served, told, rfl⟩
  · exact .inl ⟨after, failure, rfl, served_of_ran plugged served⟩
  rcases ran_bind_iff.mp told with
    ⟨failure, failed, -⟩ | ⟨⟨⟩, reported, report, holding, report_ran, held, rfl⟩
  · cases (ran_reportMode failed).1
  obtain ⟨-, rfl⟩ := ran_reportMode report_ran
  have parts : events = past ++ (switching ++ (report ++ (holding ++ last))) := by
    rw [before]
    simp only [List.append_assoc]
  cases served_of_ran plugged served with
  | met met =>
    exact .inr ⟨reported, _, ran_hold held, {
      stages := ⟨past, switching, report, _, parts, detected, detected.bind served, report_ran⟩
      plugged
      met := ⟨_, met⟩ }⟩

/-- A display that has been found is there, with its connector. -/
theorem exists_display_of_reached
    (detected : Reached path (requireDisplay .external) past found) :
    ∃ connector, (found.output .external).display? = some connector := by
  obtain ⟨_, _, _, -, ran, -⟩ := detected
  exact exists_display_of_ran_requireDisplay ran

/-- A command that succeeds goes through all stages. -/
theorem exists_delivered (run : (work path (.setMode request seconds)).run.Run events (.ok ())) :
    ∃ found switched connector wanted,
      Delivered path request events found switched connector wanted := by
  have whole : (withSession path (setMode request seconds)).run.Run events (.ok ()) := run
  rw [setMode_eq] at whole
  obtain ⟨past, others, found, detected, before⟩ := exists_reached whole
  obtain ⟨connector, plugged⟩ := exists_display_of_reached detected
  rcases served_or_delivered run before detected plugged with
    ⟨_, failure, impossible, -⟩ | ⟨switched, wanted, -, delivered⟩
  · cases impossible
  · exact ⟨found, switched, connector, wanted, delivered⟩

/-- Whatever the configuration and the mode that is asked for, and whatever the calls are answered:
if the command succeeds, the mode that is active for the external output when the outcome is told is
one that the request accepts, and it has come to this without falling back on a favourite; and once
the external display has been found, the command is refused for want of a mode just if no mode that
the display lists is accepted. -/
theorem setMode_delivers
    (run : (work path (.setMode request seconds)).run.Run events outcome) :
    (outcome = .ok () → ∃ found switched connector wanted,
      Delivered path request events found switched connector wanted ∧
        request.accepts (switched.output .external).mode = true) ∧
    ∀ past others found, events = past ++ others →
      Reached path (requireDisplay .external) past found →
      ∃ connector, (found.output .external).display? = some connector ∧
        (outcome = .error (unavailable request connector.modes) ↔
          ∀ mode ∈ connector.modes, request.accepts mode = false) := by
  constructor
  · rintro rfl
    obtain ⟨found, switched, connector, wanted, delivered⟩ := exists_delivered run
    obtain ⟨chosen, met⟩ := delivered.met
    exact ⟨found, switched, connector, wanted, delivered, met.accepts⟩
  · intro past others found before detected
    obtain ⟨connector, plugged⟩ := exists_display_of_reached detected
    refine ⟨connector, plugged, ?_⟩
    rw [← candidate?_eq_none_iff]
    rcases served_or_delivered run before detected plugged with
      ⟨last, failure, rfl, served⟩ | ⟨switched, wanted, rfl, delivered⟩
    · cases served with
      | unavailable candidate => exact ⟨fun _ => candidate, fun _ => rfl⟩
      | failed candidate context error =>
        -- That a mode cannot be set is told in a context, unlike the want of a mode.
        rw [candidate]
        exact ⟨nofun, nofun⟩
    · obtain ⟨chosen, met⟩ := delivered.met
      rw [met.candidate]
      exact ⟨nofun, nofun⟩

/-- Whatever the configuration, and whatever the calls are answered: a command that succeeds has
handed over a listed mode that the request accepts, and the mode that is active when the outcome is
told has its size, its rate and its flags. If the display prefers any listed mode that the request
accepts, it prefers this one; and then this very mode is active, if no mode before it in the list
has its size, rate and flags as well, and the mode that was active when the display was found has
not. -/
theorem setMode_prefers (run : (work path (.setMode request seconds)).run.Run events (.ok ())) :
    ∃ found switched connector wanted,
      Delivered path request events found switched connector wanted ∧
      wanted ∈ connector.modes ∧ request.accepts wanted = true ∧
      wanted.satisfiedBy (switched.output .external).mode = true ∧
      ((∃ mode ∈ connector.modes, request.accepts mode = true ∧ mode.isPreferred = true) →
        wanted.isPreferred = true ∧
        (connector.modes.find? wanted.satisfiedBy = some wanted →
          wanted.satisfiedBy (found.output .external).mode = false →
          (switched.output .external).mode = wanted)) := by
  obtain ⟨found, switched, connector, wanted, delivered⟩ := exists_delivered run
  obtain ⟨chosen, met⟩ := delivered.met
  obtain ⟨listed, accepts⟩ := mem_of_candidate? met.candidate
  refine ⟨found, switched, connector, wanted, delivered, listed, accepts, met.satisfied, ?_⟩
  intro preferred
  exact ⟨isPreferred_of_candidate? met.candidate preferred, met.eq_wanted⟩

end Cli

/-! ## A command

A display runs the slow mode, and is switched to the mode that it prefers. -/

namespace Session

open Cli

/-- A call to the device. -/
def atDevice (call : Kms.Call) (answer : Kms.Answer call) : Event Terminal :=
  ⟨.inl (.kms call), answer⟩

/-- There is no configuration, and the device is opened. -/
def readying : List (Event Terminal) :=
  [⟨.inr (.pathExists ⟨[]⟩), false⟩, ⟨.inl (.openNode Config.default.devicePath), .ok ()⟩]

/-- The display is found, running a mode. -/
def finding (mode : Mode) : List (Event Terminal) :=
  [atDevice .resources (.ok resources), atDevice (.connector 20) (.ok connector),
    atDevice (.encoder 30) (.ok encoder), atDevice (.crtc 40) (.ok { running with mode })]

/-- The display is switched to its native mode. -/
def switching : List (Event Terminal) :=
  [atDevice (.createDumb 64 48 32) (.ok ⟨7, 256, 12288⟩),
    atDevice (.addFramebuffer ⟨64, 48, 256, 32, 24, 7⟩) (.ok 100),
    atDevice (.setCrtc 40 100 0 0 [20] (some native)) (.ok ())]

/-- The active mode is told. -/
def telling : List (Event Terminal) :=
  [⟨.inr (.print (s!"External output is now {native.text}" ++ "\n")), ()⟩]

/-- The framebuffer is given up, and the device is closed. -/
def closing : List (Event Terminal) :=
  [atDevice (.removeFramebuffer 100) (.ok ()), atDevice (.destroyDumb 7) (.ok ()),
    ⟨.inl .closeNode, ()⟩]

/-- A request for the size of both modes. -/
def sized : ModeRequest := ⟨64, 48, none⟩

theorem run_sized :
    (work (some ⟨[]⟩) (.setMode sized 0)).run.Run
      (readying ++ finding slow ++ (switching ++ (telling ++ closing))) (.ok ()) :=
  Proc.replay_eq_some_iff.mp rfl

theorem reached_found (mode : Mode) :
    Reached (some ⟨[]⟩) (Cli.Session.requireDisplay .external) (readying ++ finding mode)
      (foundWith mode) :=
  ⟨{ Manager.new .default with isOpen := true }, readying, finding mode,
    Proc.replay_eq_some_iff.mp rfl, Proc.replay_eq_some_iff.mp rfl, rfl⟩

/-- The display gets a mode of the size that was asked for. -/
theorem sized_delivered :
    ∃ found switched connector wanted,
      Delivered (some ⟨[]⟩) sized (readying ++ finding slow ++ (switching ++ (telling ++ closing)))
          found switched connector wanted ∧
        sized.accepts (switched.output .external).mode = true :=
  (setMode_delivers run_sized).1 rfl

/-- The display gets its native mode, which it prefers. -/
theorem sized_prefers :
    ∃ switched,
      Delivered (some ⟨[]⟩) sized (readying ++ finding slow ++ (switching ++ (telling ++ closing)))
          (foundWith slow) switched connector native ∧
        (switched.output .external).mode = native := by
  obtain ⟨found, switched, other, wanted, delivered, -, -, -, prefers⟩ := setMode_prefers run_sized
  -- The answers determine what is found and which mode is taken.
  obtain rfl := delivered.found_eq (reached_found slow)
  obtain rfl : connector = other := Option.some.inj delivered.plugged
  obtain ⟨chosen, met⟩ := delivered.met
  obtain rfl : native = wanted := Option.some.inj met.candidate
  obtain ⟨-, active⟩ := prefers ⟨native, by simp [connector], rfl, rfl⟩
  exact ⟨switched, delivered, active rfl rfl⟩

/-- The native mode, without the mark that the display prefers it. -/
def plain : Mode := { native with kind := 0 }

/-- A display that runs its native mode already is left alone, and then the active mode is not
marked as preferred, though the listed one is. -/
theorem plain_kept :
    (work (some ⟨[]⟩) (.setMode sized 0)).run.Run
        (readying ++ finding plain ++ (telling ++ [⟨.inl .closeNode, ()⟩])) (.ok ()) ∧
      Reached (some ⟨[]⟩) (Cli.Session.requireDisplay .external) (readying ++ finding plain)
        (foundWith plain) ∧
      ((foundWith plain).output .external).display? = some connector ∧
      (∃ mode ∈ connector.modes, sized.accepts mode = true ∧ mode.isPreferred = true) ∧
      Reached (some ⟨[]⟩) (Cli.Session.switchMode sized) (readying ++ finding plain)
        (foundWith plain) ∧
      ((foundWith plain).output .external).mode.isPreferred = false := by
  have detected := reached_found plain
  have served : (Cli.Session.serve sized).Ran (foundWith plain) [] (.ok ()) (foundWith plain) :=
    Proc.replay_eq_some_iff.mp rfl
  have switched : Reached (some ⟨[]⟩) (Cli.Session.switchMode sized)
      (readying ++ finding plain ++ []) (foundWith plain) := detected.bind served
  rw [List.append_nil] at switched
  exact ⟨Proc.replay_eq_some_iff.mp rfl, detected, rfl, ⟨native, by simp [connector], rfl, rfl⟩,
    switched, rfl⟩

end Session

end Modeset
