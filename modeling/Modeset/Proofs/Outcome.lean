import Modeset.Proofs.Choice
import Modeset.Proofs.Ledger

/-!
# How a detection ends

A detection walks from the resources of the device to a connector, an encoder and a CRTC, and then
brings a mode up. What it returns can be told from the calls that it has made and from how they were
answered.

If the walk finds no connector, encoder or CRTC, then this is an error for the primary slot, and
means that the external one is disabled. All other failures are errors for both. Unless a display
has been found, the slot is left idle, and whatever was obtained on the way has been given back.

## Main definitions

* `Event.refusal` — what an event that stops a discovery is told by
* `Output.Broken` — what can go wrong besides
* `Manager.Settled` — how a detection has ended

## Main results

* `Output.error_iff_of_run` — how a discovery fails can be told from its calls
* `History.detection_settled` — every detection ends like this
-/

namespace Modeset

open Proc

variable {events others : List (Event Platform)}

/-- The error by which a discovery tells how an event has stopped it. -/
def Event.refusal (event : Event Platform) : Option Error :=
  match event with
  | ⟨.inl (.kms .resources), .error fault⟩ => some (.resourceQuery fault.message)
  | ⟨.inr (.allocate ..), .error fault⟩ => some (.allocation fault.message)
  | ⟨.inr (.allocate ..), .ok buffer⟩ =>
    if buffer.handle = 0 then some (.allocation "allocator returned a null buffer handle") else none
  | ⟨.inl (.kms (.addFramebuffer _)), .error fault⟩ => some (.framebufferRegistration fault.message)
  | ⟨.inl (.kms (.setCrtc ..)), .error fault⟩ => some (.modeCommit fault.message)
  | ⟨.inl (.kms (.setCrtc _ id ..)), .ok ()⟩ =>
    if id = 0 then some (.modeCommit "framebuffer was not registered") else none
  | _ => none

namespace Output

variable {config : Config} {slot : Slot} {output : Output}

/-- Whether a walk leads to a display without a mode: the CRTC runs none, and the connector lists
none. -/
def Survey.IsModeless : Survey → Prop
  | found connector _ crtc => crtc.modeValid = false ∧ connector.modes = []
  | unlisted _ | unresolved _ | unplugged => False

namespace Walk

variable {led other : Survey} {walk rest last : List (Event Platform)}

/-- Once the device has said what it has, nothing stops a walk: asking for the description of an
object may fail, but then the object is passed over. -/
theorem refusal_eq_none (walked : Walk config slot walk led)
    (listed : ∀ fault, led ≠ .unlisted fault) : ∀ event ∈ walk, event.refusal = none :=
  walked.forall_mem (fun fault same => absurd same (listed fault)) (fun _ => rfl) (fun _ _ => rfl)
    (fun _ _ => rfl) (fun _ _ => rfl)

/-- Of a discovery, only what comes after the walk can have been refused. -/
theorem refused_iff (walked : Walk config slot walk led) (listed : ∀ fault, led ≠ .unlisted fault)
    (error : Error) :
    (∃ event ∈ walk ++ rest, event.refusal = some error) ↔
      ∃ event ∈ rest, event.refusal = some error := by
  constructor
  · rintro ⟨event, member, refusal⟩
    rcases List.mem_append.mp member with member | member
    · rw [walked.refusal_eq_none listed event member] at refusal
      cases refusal
    · exact ⟨event, member, refusal⟩
  · rintro ⟨event, member, refusal⟩
    exact ⟨event, List.mem_append_right _ member, refusal⟩

end Walk

/-- An attempt to scan out fails exactly if something is refused, and tells what. -/
theorem ScanOut.error_iff {crtc connector : UInt32} {mode : Mode}
    {result : Except Error Framebuffer}
    (scanned : ScanOut config crtc connector mode events result) (error : Error) :
    result = .error error ↔ ∃ event ∈ events, event.refusal = some error := by
  cases scanned with
  | noMemory fault => simp [Event.refusal, Event.allocated, eq_comm]
  | nullMemory buffer null => simp [Event.refusal, Event.allocated, null, eq_comm]
  | refused buffer memory fault =>
    simp [Event.refusal, Event.allocated, Event.kms, Event.released, memory, eq_comm]
  | unset buffer memory id fault dropped =>
    cases dropped <;>
    simp [Event.refusal, Event.allocated, Event.kms, Event.released, memory, eq_comm]
  | setNull buffer memory =>
    simp [Event.refusal, Event.allocated, Event.kms, Event.released, memory, eq_comm]
  | bound buffer memory id made =>
    simp [Event.refusal, Event.allocated, Event.kms, memory, made, eq_comm]

/-- What stops a discovery that has not walked in vain, and the error that tells of it. -/
inductive Broken (config : Config) (slot : Slot) (events : List (Event Platform)) : Error → Prop
  /-- The device or the pool refuses what is asked of it. -/
  | refused {event : Event Platform} (made : event ∈ events) {error : Error}
      (refusal : event.refusal = some error) : Broken config slot events error
  /-- The display that has been found has no mode. -/
  | modeless {walk rest : List (Event Platform)} (first : events = walk ++ rest) {led : Survey}
      (walked : Walk config slot walk led) (modeless : led.IsModeless) :
      Broken config slot events .noModes

theorem isUnresolved_of_refusal {event : Event Platform} {error : Error}
    (refusal : event.refusal = some error) : error.isUnresolved = false := by
  unfold Event.refusal at refusal
  grind [Error.isUnresolved, Error.root]

theorem Broken.isUnresolved {error : Error} (broken : Broken config slot events error) :
    error.isUnresolved = false := by
  cases broken with
  | refused _ refusal => exact isUnresolved_of_refusal refusal
  | modeless => rfl

/-- After a walk has led somewhere, it is known whether there is a mode to set. -/
theorem Walk.broken_iff {led : Survey} {walk rest : List (Event Platform)}
    (walked : Walk config slot walk led) (error : Error) :
    Broken config slot (walk ++ rest) error ↔
      (∃ event ∈ walk ++ rest, event.refusal = some error) ∨
        led.IsModeless ∧ error = .noModes := by
  constructor
  · intro broken
    generalize whole : walk ++ rest = events at broken
    cases broken with
    | refused made refusal => exact .inl ⟨_, made, refusal⟩
    | modeless first led modeless =>
      obtain ⟨-, rfl⟩ := walked.eq_of_append_eq led (whole.trans first)
      exact .inr ⟨modeless, rfl⟩
  · rintro (⟨event, made, refusal⟩ | ⟨modeless, rfl⟩)
    · exact .refused made refusal
    · exact .modeless rfl walked modeless

/-- Bringing a display up fails exactly if something is refused or there is no mode to set. -/
theorem BroughtUp.error_iff {connector : Connector} {encoder : Encoder} {crtc : Crtc}
    {outcome : Except Error Outcome} {after : Output}
    (way : BroughtUp config (output.withDisplay connector encoder crtc) connector crtc events
      (outcome, after)) (retired : output.framebuffer = none) (error : Error) :
    outcome = .error error ↔ (∃ event ∈ events, event.refusal = some error) ∨
      (crtc.modeValid = false ∧ connector.modes = []) ∧ error = .noModes := by
  generalize hresult : (outcome, after) = result at way
  cases way with
  | adopted running =>
    obtain ⟨rfl, rfl⟩ := Prod.mk.inj hresult
    simp [running]
  | modeless stopped unlisted =>
    obtain ⟨rfl, rfl⟩ := Prod.mk.inj hresult
    have empty := Mode.choose?_eq_none_iff.mp unlisted
    simp [stopped, empty, eq_comm]
  | @committed _ mode preferred _ result _ commit =>
    obtain ⟨rfl, rfl⟩ := Prod.mk.inj hresult
    have listed : connector.modes ≠ [] := List.ne_nil_of_mem (Mode.mem_of_choose? preferred)
    simp only [listed, false_and, and_false, or_false]
    cases commit with
    | unchanged => simp [Except.map]
    | unbound _ missing => simp [withDisplay] at missing
    | failed _ _ _ scanned =>
      rw [← scanned.error_iff]
      simp [Except.map]
    | set _ _ _ scanned before =>
      -- The slot held nothing before, so nothing is given up once the new framebuffer is shown.
      rw [withDisplay, retired] at before
      cases before
      rw [List.append_nil, ← scanned.error_iff]
      simp [Except.map]

/-- A discovery fails exactly if it is stopped or has walked in vain, and tells how. -/
theorem error_iff_of_run {outcome : Except Error Outcome} {after : Output}
    (run : (discover config slot .idle).Run events (outcome, after)) (error : Error) :
    outcome = .error error ↔
      Broken config slot events error ∨ Walk config slot events (.unresolved error) := by
  rw [discover_eq] at run
  obtain ⟨walk, led, rest, walk_run, run, rfl⟩ := run_bind_iff.mp run
  have walked := walk_of_run walk_run
  rw [walked.broken_iff, walked.append_iff]
  cases led with
  | unlisted fault =>
    obtain ⟨rfl, rfl, rfl⟩ :
        rest = [] ∧ outcome = .error (.resourceQuery fault.message) ∧ after = .idle := by
      simpa [conclude] using run
    cases walked
    simp [Event.refusal, Event.kms, Survey.IsModeless, eq_comm]
  | unresolved missing =>
    obtain ⟨rfl, rfl, rfl⟩ : rest = [] ∧ outcome = .error missing ∧ after = .idle := by
      simpa [conclude] using run
    rw [walked.refused_iff (by simp)]
    simp [Survey.IsModeless]
  | unplugged =>
    obtain ⟨rfl, rfl, rfl⟩ : rest = [] ∧ outcome = .ok .disconnected ∧ after = .idle := by
      simpa [conclude] using run
    rw [walked.refused_iff (by simp)]
    simp [Survey.IsModeless]
  | found connector encoder crtc =>
    have way := @broughtUp_of_run rest config slot
      (Output.idle.withDisplay connector encoder crtc) connector crtc rfl _ run
    rw [walked.refused_iff (by simp), way.error_iff rfl]
    simp [Survey.IsModeless]

/-- A discovery that succeeds has found a display, or none and left the output as it was. -/
theorem Discovered.connected_or_disconnected {after : Output} {found : Outcome}
    (discovered : Discovered config slot output events (.ok found, after)) :
    (∃ mode, found = .connected mode) ∨ found = .disconnected ∧ after = output := by
  generalize hresult : ((.ok found, after) : Except Error Outcome × Output) = result at discovered
  cases discovered with
  | unlisted | unresolved | modeless => cases hresult
  | unplugged =>
    cases hresult
    exact .inr ⟨rfl, rfl⟩
  | @adopted _ _ _ crtc =>
    cases hresult
    exact .inl ⟨crtc.mode, rfl⟩
  | @committed _ _ _ _ _ _ _ _ _ result =>
    cases result with
    | error => cases hresult
    | ok =>
      cases hresult
      exact .inl ⟨_, rfl⟩

end Output

namespace Manager

variable {manager after : Manager} {slot : Slot} {walk : List (Event Platform)}
  {result : Except Error Outcome}

/-- How a detection for a slot has ended, by the calls of its discovery and their answers. -/
structure Settled (manager : Manager) (slot : Slot) (walk : List (Event Platform))
    (result : Except Error Outcome) (after : Manager) : Prop where
  /-- Without a display the slot holds nothing. -/
  idle : (∀ mode, result ≠ .ok (.connected mode)) → after.output slot = .idle
  /-- The external output is disabled if it lacks an object; the primary one never is. -/
  disabled : result = .ok .disabled ↔
    slot = .external ∧ ∃ error, Output.Walk manager.config slot walk (.unresolved error)
  /-- What stops a discovery is an error for both slots; a missing object is one for the primary. -/
  failed : ∀ error, result = .error error ↔ Output.Broken manager.config slot walk error ∨
    slot = .primary ∧ Output.Walk manager.config slot walk (.unresolved error)
  /-- No error of the external slot tells of a missing object. -/
  resolved : slot = .external → ∀ error, result = .error error → error.isUnresolved = false

theorem settled_of_ok {found : Outcome} {output : Output}
    (run : (Output.discover manager.config slot .idle).Run walk (.ok found, output)) :
    manager.Settled slot walk (.ok found) (manager.hold slot output) := by
  have discovered := Output.discovered_of_run run
  have none_failed := Output.error_iff_of_run run
  have unbroken (error : Error) : ¬ Output.Broken manager.config slot walk error := fun broken =>
    nomatch (none_failed error).mpr (.inl broken)
  have unmissed (error : Error) : ¬ Output.Walk manager.config slot walk (.unresolved error) :=
    fun walked => nomatch (none_failed error).mpr (.inr walked)
  rcases discovered.connected_or_disconnected with ⟨mode, rfl⟩ | ⟨rfl, rfl⟩
  · exact {
      idle := fun other => absurd rfl (other mode)
      disabled := by simp [unmissed]
      failed := by simp [unbroken, unmissed]
      resolved := by simp }
  · exact {
      idle := fun _ => output_hold_same manager slot .idle
      disabled := by simp [unmissed]
      failed := by simp [unbroken, unmissed]
      resolved := by simp }

theorem settled_of_error {error : Error} {output : Output}
    (run : (Output.discover manager.config slot .idle).Run walk (.error error, output)) :
    manager.Settled slot walk (undetected slot error) (manager.hold slot .idle) := by
  have failed (other : Error) : error = other ↔ Output.Broken manager.config slot walk other ∨
      Output.Walk manager.config slot walk (.unresolved other) := by
    rw [← Output.error_iff_of_run run other, Except.error.injEq]
  -- What stops a discovery and what it lacks are told by different errors.
  have walked_iff (other : Error) : Output.Walk manager.config slot walk (.unresolved other) ↔
      error = other ∧ error.isUnresolved = true := by
    constructor
    · intro walked
      obtain rfl := (failed other).mpr (.inr walked)
      exact ⟨rfl, walked.isUnresolved⟩
    · rintro ⟨rfl, missing⟩
      rcases (failed error).mp rfl with broken | walked
      · exact absurd (broken.isUnresolved.symm.trans missing) nofun
      · exact walked
  have broken_iff (other : Error) : Output.Broken manager.config slot walk other ↔
      error = other ∧ error.isUnresolved = false := by
    constructor
    · intro broken
      obtain rfl := (failed other).mpr (.inl broken)
      exact ⟨rfl, broken.isUnresolved⟩
    · rintro ⟨rfl, stopped⟩
      rcases (failed error).mp rfl with broken | walked
      · exact broken
      · exact absurd (stopped.symm.trans walked.isUnresolved) nofun
  refine ⟨fun _ => output_hold_same manager slot .idle, ?_, fun other => ?_, ?_⟩
  · simp only [walked_iff]
    unfold undetected
    cases slot <;> cases error.isUnresolved <;> simp
  · rw [walked_iff, broken_iff]
    unfold undetected
    cases slot <;> cases error.isUnresolved <;> simp
  · rintro rfl other returned
    unfold undetected at returned
    cases missing : error.isUnresolved <;> simp_all

end Manager

/-- Whatever has been done with a manager before and whatever the calls are answered: a detection
gives up what its slot held and then ends as laid down. Unless it has found a display, all that has
ever been taken and not given back is what the other slot holds. -/
theorem History.detection_settled {config : Config} {past : List (Event Platform)}
    {manager after : Manager} (history : History config past manager)
    (isOpen : manager.isOpen = true) {slot : Slot} {result : Except Error Outcome}
    (run : (manager.detect slot.device).Run events (result, after)) :
    ∃ before walk, events = before ++ walk ∧
      Framebuffer.Retired (manager.output slot).framebuffer before ∧
      manager.Settled slot walk result after ∧
      ((∀ mode, result ≠ .ok (.connected mode)) → ∀ other ≠ slot,
        Ledger.Exact (past ++ events) (after.output other).framebuffer.toList) := by
  have run_slot : (manager.detectSlot slot).Run events (result, after) := by
    simpa [Manager.detect, isOpen] using run
  obtain ⟨before, walk, rfl, retired, way⟩ := Manager.exists_discovery_of_run run_slot
  have settled : manager.Settled slot walk result after := by
    rcases way with ⟨outcome, output, discover, same⟩ | ⟨error, output, discover, same⟩
    · cases same
      exact Manager.settled_of_ok discover
    · cases same
      exact Manager.settled_of_error discover
  refine ⟨before, walk, rfl, retired, settled, fun undetected other differs => ?_⟩
  have later : History config (past ++ (before ++ walk)) after :=
    history.step (.detect slot.device) run
  have exact := later.ledger_exact.1
  -- Of the two slots, the one of the detection has nothing in the ledger.
  have idle := settled.idle undetected
  have held : after.framebuffers = (after.output other).framebuffer.toList := by
    unfold Manager.framebuffers
    cases slot <;> cases other <;> simp_all [Output.idle]
  rwa [held] at exact

namespace Session

/-- The display is looked for again, but the device no longer describes its encoder. -/
def redetection : List (Event Platform) :=
  [.kms (.removeFramebuffer 100) (.ok ()), .released 7, .kms .resources (.ok resources),
    .kms (.connector 20) (.ok connector), .kms (.encoder 30) (.error (.os 5)),
    .kms (.encoder 30) (.error (.os 5))]

/-- The external output is then disabled, and nothing is left of its framebuffer. -/
theorem redetection_settled :
    ∃ before walk, redetection = before ++ walk ∧
      Framebuffer.Retired (manager.output .external).framebuffer before ∧
      manager.Settled .external walk (.ok .disabled) (manager.hold .external .idle) ∧
      ((∀ mode, (.ok .disabled : Except Error Outcome) ≠ .ok (.connected mode)) →
        ∀ other ≠ .external, Ledger.Exact (opening ++ detection ++ redetection)
          ((manager.hold .external .idle).output other).framebuffer.toList) :=
  history.detection_settled rfl (Proc.replay_eq_some_iff.mp rfl)

end Session

end Modeset
