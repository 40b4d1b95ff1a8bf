import Modeset.Proofs.Commit
import Modeset.Proofs.Walk

/-!
# What a discovery does

All runs of the discovery of a slot's display. What its walk finds is a connector of the configured
kind, and an encoder and a CRTC for it, each as the device described it on the way. A running mode
is then kept, and otherwise the preferred mode is committed.

## Main definitions

* `Output.Found` — what a successful walk has found
* `Output.BroughtUp` — the ways in which bringing a display up can go
* `Output.Discovered` — the ways in which a discovery can go

## Main results

* `Output.Walk.finds` — what a walk leads to has been found on it
* `Output.broughtUp_of_run`, `Output.discovered_of_run` — there are no other ways
-/

namespace Modeset

open Proc

variable {events : List (Event Platform)}

namespace Topology

variable {α : Type} {event : UInt32 → Except Fault α → Event Platform} {wanted : α → Bool}
  {ids : List UInt32} {object : α}

/-- What a search finds is wanted, and has been described on the way. -/
theorem Searched.finds (searched : Searched event wanted ids events (some object)) :
    wanted object = true ∧ ∃ id, event id (.ok object) ∈ events := by
  generalize hfound : some object = found at searched
  induction searched with
  | exhausted => cases hfound
  | empty _ ih => exact ih hfound
  | passed _ _ _ ih =>
    obtain ⟨wants, id, member⟩ := ih hfound
    exact ⟨wants, id, List.mem_cons_of_mem _ member⟩
  | @found id _ _ wants =>
    cases hfound
    exact ⟨wants, id, List.mem_singleton_self _⟩

/-- The object for another one is described on the way, and is wanted if it is not the attached
one. -/
theorem Resolved.finds {id : UInt32}
    (resolved : Resolved event wanted id ids events (some object)) :
    (id ≠ 0 ∧ event id (.ok object) ∈ events) ∨
      wanted object = true ∧ ∃ id, event id (.ok object) ∈ events := by
  cases resolved with
  | attached attached => exact .inl ⟨attached, List.mem_singleton_self _⟩
  | undescribed _ _ searched =>
    obtain ⟨wants, other, member⟩ := searched.finds
    exact .inr ⟨wants, other, List.mem_cons_of_mem _ member⟩
  | detached _ searched => exact .inr searched.finds

end Topology

namespace Output

variable {config : Config} {slot : Slot}

/-- What a successful walk has found for a slot: a connector of the configured kind with a display
in it, an encoder and a CRTC, each as the device has described it on the way. -/
structure Found (config : Config) (slot : Slot) (reads : List (Event Platform))
    (connector : Connector) (encoder : Encoder) (crtc : Crtc) : Prop where
  asks : ∀ event ∈ reads, event.IsRead
  kind : connector.kind = (config.output slot).connector
  connected : connector.connection = .connected
  describes_connector : ∃ id, .kms (.connector id) (.ok connector) ∈ reads
  describes_encoder : ∃ id, .kms (.encoder id) (.ok encoder) ∈ reads
  describes_crtc : ∃ id, .kms (.crtc id) (.ok crtc) ∈ reads
  /-- The CRTC is attached to the encoder, or else it reads nothing out. -/
  fed : (encoder.crtcId ≠ 0 ∧ .kms (.crtc encoder.crtcId) (.ok crtc) ∈ reads) ∨
    crtc.isSpare = true

/-- The ways in which a discovery can go: the calls with their answers, and the result together with
the output behind it. -/
inductive Discovered (config : Config) (slot : Slot) (output : Output) :
    List (Event Platform) → Except Error Outcome × Output → Prop
  /-- The device does not say what it has. -/
  | unlisted (fault : Fault) :
      Discovered config slot output [.kms .resources (.error fault)]
        (.error (.resourceQuery fault.message), output)
  /-- An object that a display needs is not to be found. -/
  | unresolved {reads : List (Event Platform)} (asks : ∀ event ∈ reads, event.IsRead)
      {error : Error} (missing : error.isUnresolved = true) :
      Discovered config slot output reads (.error error, output)
  /-- No display is plugged in. -/
  | unplugged {reads : List (Event Platform)} (asks : ∀ event ∈ reads, event.IsRead) :
      Discovered config slot output reads (.ok .disconnected, output)
  /-- The CRTC is running a mode, which is kept. -/
  | adopted {reads : List (Event Platform)} {connector : Connector} {encoder : Encoder}
      {crtc : Crtc} (found : Found config slot reads connector encoder crtc)
      (running : crtc.modeValid = true) :
      Discovered config slot output reads
        (.ok (.connected crtc.mode),
          { output.withDisplay connector encoder crtc with mode := crtc.mode })
  /-- The CRTC is running no mode, and the connector lists none. -/
  | modeless {reads : List (Event Platform)} {connector : Connector} {encoder : Encoder}
      {crtc : Crtc} (found : Found config slot reads connector encoder crtc)
      (stopped : crtc.modeValid = false)
      (unlisted : Mode.choose? (fun _ => false) connector.modes = none) :
      Discovered config slot output reads
        (.error .noModes, output.withDisplay connector encoder crtc)
  /-- The CRTC is running no mode, and the preferred one is committed. -/
  | committed {reads events : List (Event Platform)} {connector : Connector} {encoder : Encoder}
      {crtc : Crtc} (found : Found config slot reads connector encoder crtc)
      (stopped : crtc.modeValid = false) {mode : Mode}
      (preferred : Mode.choose? (fun _ => false) connector.modes = some mode)
      {outcome : Except Error Unit} {after : Output}
      (commit : Committed config (output.withDisplay connector encoder crtc) mode events
        (outcome, after)) :
      Discovered config slot output (reads ++ events)
        (outcome.map fun () => .connected after.mode, after)

/-- The ways in which bringing a display up can go: the calls with their answers, and the result
together with the output behind it. -/
inductive BroughtUp (config : Config) (output : Output) (connector : Connector) (crtc : Crtc) :
    List (Event Platform) → Except Error Outcome × Output → Prop
  /-- The mode that the CRTC is running is kept. -/
  | adopted (running : crtc.modeValid = true) :
      BroughtUp config output connector crtc []
        (.ok (.connected crtc.mode), { output with mode := crtc.mode })
  /-- The connector lists no mode to set. -/
  | modeless (stopped : crtc.modeValid = false)
      (unlisted : Mode.choose? (fun _ => false) connector.modes = none) :
      BroughtUp config output connector crtc [] (.error .noModes, output)
  /-- The preferred mode is committed. -/
  | committed (stopped : crtc.modeValid = false) {mode : Mode}
      (preferred : Mode.choose? (fun _ => false) connector.modes = some mode)
      {events : List (Event Platform)} {outcome : Except Error Unit} {after : Output}
      (commit : Committed config output mode events (outcome, after)) :
      BroughtUp config output connector crtc events
        (outcome.map fun () => .connected after.mode, after)

theorem broughtUp_of_run {output : Output} {connector : Connector} {crtc : Crtc}
    (held : output.connector = some connector) {result : Except Error Outcome × Output}
    (run : (bringUp config slot crtc output).Run events result) :
    BroughtUp config output connector crtc events result := by
  unfold bringUp at run
  cases running : crtc.modeValid with
  | true =>
    obtain ⟨rfl, rfl⟩ : events = [] ∧ result = _ := by simpa [running] using run
    exact .adopted running
  | false =>
    simp only [running, Bool.false_eq_true, if_false, info, run_log_bind_iff] at run
    obtain ⟨first, ⟨outcome, after⟩, rest, preferred, last, rfl⟩ := run_bind_iff.mp run
    obtain ⟨rfl, rfl⟩ := run_done_iff.mp last
    rw [List.append_nil]
    unfold setPreferred at preferred
    cases choice : Mode.choose? (fun _ => false) connector.modes with
    | none =>
      simp only [held, Option.map_some, Option.getD_some, choice] at preferred
      obtain ⟨rfl, rfl, rfl⟩ : first = [] ∧ outcome = .error .noModes ∧ after = _ := by
        simpa using preferred
      exact .modeless running choice
    | some mode =>
      simp only [held, Option.map_some, Option.getD_some, choice] at preferred
      exact .committed running choice (committed_of_run preferred)

/-- A discovery goes on from what the walk has found to bringing the display up. -/
theorem BroughtUp.discovered {output : Output} {reads : List (Event Platform)}
    {connector : Connector} {encoder : Encoder} {crtc : Crtc}
    (found : Found config slot reads connector encoder crtc)
    {result : Except Error Outcome × Output}
    (way : BroughtUp config (output.withDisplay connector encoder crtc) connector crtc events
      result) :
    Discovered config slot output (reads ++ events) result := by
  cases way with
  | adopted running =>
    rw [List.append_nil]
    exact .adopted found running
  | modeless stopped unlisted =>
    rw [List.append_nil]
    exact .modeless found stopped unlisted
  | committed stopped preferred commit => exact .committed found stopped preferred commit

/-- What a walk leads to has been found on it. -/
theorem Walk.finds {walk : List (Event Platform)} {connector : Connector} {encoder : Encoder}
    {crtc : Crtc} (walked : Walk config slot walk (.found connector encoder crtc)) :
    Found config slot walk connector encoder crtc := by
  have asks := walked.isRead
  cases walked with
  | found sought plugged served fed =>
    obtain ⟨kind, connectorId, hconnector⟩ := sought.finds
    refine {
      asks
      kind := by simpa using kind
      connected := plugged
      describes_connector := ⟨connectorId, by simp [hconnector]⟩
      describes_encoder := ?_
      describes_crtc := ?_
      fed := ?_ }
    · rcases served.finds with ⟨-, member⟩ | ⟨-, id, member⟩
      · exact ⟨connector.encoderId, by simp [member]⟩
      · exact ⟨id, by simp [member]⟩
    · rcases fed.finds with ⟨-, member⟩ | ⟨-, id, member⟩
      · exact ⟨encoder.crtcId, by simp [member]⟩
      · exact ⟨id, by simp [member]⟩
    · rcases fed.finds with ⟨attached, member⟩ | ⟨spare, -⟩
      · exact .inl ⟨attached, by simp [member]⟩
      · exact .inr spare

theorem discovered_of_run {output : Output} {result : Except Error Outcome × Output}
    (run : (discover config slot output).Run events result) :
    Discovered config slot output events result := by
  rw [discover_eq] at run
  obtain ⟨walk, led, rest, walk_run, run, rfl⟩ := run_bind_iff.mp run
  have walked := walk_of_run walk_run
  -- Only a walk that has found a display is followed by anything.
  cases led with
  | found connector encoder crtc =>
    exact BroughtUp.discovered walked.finds (broughtUp_of_run rfl run)
  | unlisted fault =>
    obtain ⟨rfl, rfl⟩ := run_done_iff.mp run
    cases walked
    exact .unlisted fault
  | unresolved error =>
    obtain ⟨rfl, rfl⟩ := run_done_iff.mp run
    rw [List.append_nil]
    exact .unresolved walked.isRead walked.isUnresolved
  | unplugged =>
    obtain ⟨rfl, rfl⟩ := run_done_iff.mp run
    rw [List.append_nil]
    exact .unplugged walked.isRead

/-- A discovery that succeeds has found no display, or one whose mode it keeps, or one for which it
has committed a mode. -/
theorem Discovered.of_ok {output after : Output} {outcome : Outcome}
    (discovered : Discovered config slot output events (.ok outcome, after)) :
    ((∀ event ∈ events, event.IsRead) ∧ after = output) ∨
      ∃ connector encoder crtc reads others, Found config slot reads connector encoder crtc ∧
        events = reads ++ others ∧
        ((crtc.modeValid = true ∧ others = [] ∧
            after = { output.withDisplay connector encoder crtc with mode := crtc.mode }) ∨
          ∃ mode, Mode.choose? (fun _ => false) connector.modes = some mode ∧
            Committed config (output.withDisplay connector encoder crtc) mode others
              (.ok (), after)) := by
  -- The results of some ways are not plainly successes, so each is compared with the one at hand.
  generalize hresult : ((.ok outcome, after) : Except Error Outcome × Output) = result
    at discovered
  cases discovered with
  | unlisted | unresolved | modeless => cases hresult
  | unplugged asks =>
    cases hresult
    exact .inl ⟨asks, rfl⟩
  | @adopted _ connector encoder crtc found running =>
    cases hresult
    exact .inr ⟨connector, encoder, crtc, events, [], found, (List.append_nil _).symm,
      .inl ⟨running, rfl, rfl⟩⟩
  | @committed reads others connector encoder crtc found _ mode preferred result _ commit =>
    cases result with
    | error => cases hresult
    | ok =>
      cases hresult
      exact .inr ⟨connector, encoder, crtc, reads, others, found, rfl,
        .inr ⟨mode, preferred, commit⟩⟩

/-- A discovery that fails leaves no framebuffer behind. -/
theorem Discovered.framebuffer_of_error {output after : Output} {error : Error}
    (discovered : Discovered config slot output events (.error error, after))
    (empty : output.framebuffer = none) : after.framebuffer = none := by
  -- The results of some ways are not plainly errors, so each is compared with the error at hand.
  generalize hresult : ((.error error, after) : Except Error Outcome × Output) = result
    at discovered
  cases discovered with
  | unplugged => cases hresult
  | adopted => cases hresult
  | unlisted | unresolved | modeless =>
    cases hresult
    exact empty
  | @committed _ _ _ _ _ _ _ _ _ outcome last commit =>
    cases outcome with
    | ok => cases hresult
    | error =>
      cases hresult
      rw [commit.eq_of_error]
      exact empty

end Output

end Modeset
