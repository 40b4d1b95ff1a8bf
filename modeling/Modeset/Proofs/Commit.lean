import Modeset.Output.Commit
import Modeset.Proofs.Run

/-!
# What a commit does

All runs of the procedures that make, bind and give up framebuffers. A framebuffer is brought to a
CRTC by three calls, each of which may fail, and a failure gives up what has been obtained. What was
read out before is given up last, and only if all went well.

## Main definitions

* `Framebuffer.Retired` — the events by which a framebuffer is given up
* `Output.ScanOut` — the ways in which bringing a framebuffer to a CRTC can go
* `Output.Committed` — the ways in which a commit can go

## Main results

* `Output.run_reset_iff` — a reset gives up the framebuffer and leaves the slot idle
* `Output.scanOut_of_run`, `Output.committed_of_run` — there are no other ways
* `Output.ScanOut.run`, `Output.Committed.run` — each of these ways can be gone
-/

namespace Modeset

open Proc

variable {events : List (Event Platform)}

namespace Framebuffer

/-- How a framebuffer is given up: first it is taken from the device, whatever the device answers,
and then its memory is given back. Without a framebuffer nothing is done. -/
inductive Retired : Option Framebuffer → List (Event Platform) → Prop
  | none : Retired none []
  | some (framebuffer : Framebuffer) (answer : Except Fault Unit) :
      Retired (some framebuffer)
        [.kms (.removeFramebuffer framebuffer.id) answer, .released framebuffer.handle]

theorem run_release_iff {framebuffer : Framebuffer} {u : Unit} :
    framebuffer.release.Run events u ↔ Retired (some framebuffer) events := by
  simp only [release, Platform.run_kms_bind_iff]
  constructor
  · rintro ⟨answer, rest, rfl, run⟩
    have last : rest = [.released framebuffer.handle] := by cases answer <;> simpa using run
    rw [last]
    exact .some framebuffer answer
  · rintro retired
    cases retired with
    | some _ answer =>
      refine ⟨answer, _, rfl, ?_⟩
      cases answer <;> simp

end Framebuffer

namespace Output

/-- A reset with the device open gives up the framebuffer; otherwise the framebuffer is lost. -/
theorem run_reset_iff {output after : Output} {isOpen : Bool} :
    (output.reset isOpen).Run events after ↔
      (if isOpen then Framebuffer.Retired output.framebuffer events else events = []) ∧
        after = idle := by
  unfold reset
  cases held : output.framebuffer with
  | none =>
    have retired : Framebuffer.Retired none events ↔ events = [] :=
      ⟨fun h => by cases h; rfl, fun h => h ▸ .none⟩
    simp [retired]
  | some framebuffer =>
    cases isOpen with
    | false => simp
    | true =>
      simp only [if_true, run_bind_iff, Framebuffer.run_release_iff]
      constructor
      · rintro ⟨first, _, rest, retired, last, rfl⟩
        obtain ⟨rfl, rfl⟩ := run_done_iff.mp last
        exact ⟨by simpa using retired, rfl⟩
      · rintro ⟨retired, rfl⟩
        exact ⟨events, (), [], retired, .done _, by simp⟩

end Output

/-- From what the framebuffer for a mode is made. -/
def Config.framebufferSpec (config : Config) (mode : Mode) (buffer : Buffer) : FramebufferSpec where
  width := mode.width
  height := mode.height
  pitch := buffer.stride
  bpp := config.framebufferBpp
  depth := config.framebufferDepth
  handle := buffer.handle

namespace Pending

/-- How what is pending is given up: like a framebuffer, if the device has made one of it, and
otherwise only the memory is given back. -/
inductive Dropped (pending : Pending) : List (Event Platform) → Prop
  | registered (made : pending.id ≠ 0) (answer : Except Fault Unit) :
      Dropped pending
        [.kms (.removeFramebuffer pending.id) answer, .released pending.buffer.handle]
  | unregistered (null : pending.id = 0) : Dropped pending [.released pending.buffer.handle]

theorem dropped_of_run {pending : Pending} {u : Unit} (run : pending.drop.Run events u) :
    pending.Dropped events := by
  unfold drop at run
  by_cases null : pending.id = 0
  · obtain rfl : events = [.released pending.buffer.handle] := by simpa [null] using run
    exact .unregistered null
  · simp only [ne_eq, null, not_false_eq_true, if_true, Platform.run_kms_bind_iff] at run
    obtain ⟨answer, rest, rfl, run⟩ := run
    obtain rfl : rest = [.released pending.buffer.handle] := by cases answer <;> simpa using run
    exact .registered null answer

/-- It can be given up in these ways. -/
theorem Dropped.run {pending : Pending} (dropped : pending.Dropped events) :
    pending.drop.Run events () := by
  unfold drop
  cases dropped with
  | registered made answer =>
    simp only [ne_eq, made, not_false_eq_true, if_true, Platform.run_kms_bind_iff]
    refine ⟨answer, _, rfl, ?_⟩
    cases answer <;> simp
  | unregistered null => simp [null]

theorem dropped_of_run_bind {pending : Pending} {β : Type} {b : β} {f : Unit → Proc Platform β}
    (run : (pending.drop >>= f).Run events b) :
    ∃ first rest, events = first ++ rest ∧ pending.Dropped first ∧ (f ()).Run rest b := by
  obtain ⟨first, _, rest, dropped, next, rfl⟩ := run_bind_iff.mp run
  exact ⟨first, rest, rfl, dropped_of_run dropped, next⟩

end Pending

namespace Output

section ScanOut

variable {config : Config} {crtc connector : UInt32} {mode : Mode}

/-- The ways in which bringing a framebuffer for a mode to a CRTC can go: the calls with their
answers, and the result. -/
inductive ScanOut (config : Config) (crtc connector : UInt32) (mode : Mode) :
    List (Event Platform) → Except Error Framebuffer → Prop
  /-- There is no memory. -/
  | noMemory (fault : Fault) :
      ScanOut config crtc connector mode [.allocated mode.width mode.height (.error fault)]
        (.error (.allocation fault.message))
  /-- The pool gives a null handle, which is no memory. -/
  | nullMemory (buffer : Buffer) (null : buffer.handle = 0) :
      ScanOut config crtc connector mode [.allocated mode.width mode.height (.ok buffer)]
        (.error (.allocation "allocator returned a null buffer handle"))
  /-- The device makes no framebuffer. -/
  | refused (buffer : Buffer) (memory : buffer.handle ≠ 0) (fault : Fault) :
      ScanOut config crtc connector mode
        [.allocated mode.width mode.height (.ok buffer),
          .kms (.addFramebuffer (config.framebufferSpec mode buffer)) (.error fault),
          .released buffer.handle]
        (.error (.framebufferRegistration fault.message))
  /-- The CRTC does not take the framebuffer. -/
  | unset (buffer : Buffer) (memory : buffer.handle ≠ 0) (id : UInt32) (fault : Fault)
      {others : List (Event Platform)} (dropped : Pending.Dropped ⟨buffer, id⟩ others) :
      ScanOut config crtc connector mode
        (.allocated mode.width mode.height (.ok buffer) ::
          .kms (.addFramebuffer (config.framebufferSpec mode buffer)) (.ok id) ::
          .kms (.setCrtc crtc id 0 0 [connector] (some mode)) (.error fault) :: others)
        (.error (.modeCommit fault.message))
  /-- The CRTC is set, but the framebuffer has no number. -/
  | setNull (buffer : Buffer) (memory : buffer.handle ≠ 0) :
      ScanOut config crtc connector mode
        [.allocated mode.width mode.height (.ok buffer),
          .kms (.addFramebuffer (config.framebufferSpec mode buffer)) (.ok 0),
          .kms (.setCrtc crtc 0 0 0 [connector] (some mode)) (.ok ()), .released buffer.handle]
        (.error (.modeCommit "framebuffer was not registered"))
  /-- The CRTC reads the framebuffer out. -/
  | bound (buffer : Buffer) (memory : buffer.handle ≠ 0) (id : UInt32) (made : id ≠ 0) :
      ScanOut config crtc connector mode
        [.allocated mode.width mode.height (.ok buffer),
          .kms (.addFramebuffer (config.framebufferSpec mode buffer)) (.ok id),
          .kms (.setCrtc crtc id 0 0 [connector] (some mode)) (.ok ())]
        (.ok ⟨id, buffer.handle, buffer.stride⟩)

theorem scanOut_of_run {result : Except Error Framebuffer}
    (run : (scanOut config crtc connector mode).Run events result) :
    ScanOut config crtc connector mode events result := by
  simp only [scanOut, Pending.allocate, bind_assoc, Platform.run_allocate_bind_iff] at run
  obtain ⟨memory, rest, rfl, run⟩ := run
  cases memory with
  | error fault =>
    obtain ⟨rfl, rfl⟩ : rest = [] ∧ result = _ := by simpa using run
    exact .noMemory fault
  | ok buffer =>
  by_cases null : buffer.handle = 0
  · obtain ⟨rfl, rfl⟩ : rest = [] ∧ result = _ := by simpa [null] using run
    exact .nullMemory buffer null
  simp only [null, if_false, pure_eq, bind_done, Pending.register, bind_assoc,
    Platform.run_kms_bind_iff] at run
  obtain ⟨made, rest, rfl, run⟩ := run
  cases made with
  | error fault =>
    simp only [bind_done, error, run_log_bind_iff] at run
    obtain ⟨first, last, rfl, dropped, run⟩ := Pending.dropped_of_run_bind run
    obtain ⟨rfl, rfl⟩ := run_done_iff.mp run
    -- What the device has refused has no number yet, so only the memory is given back.
    cases dropped with
    | registered made => exact absurd rfl made
    | unregistered => exact .refused buffer null fault
  | ok id =>
  simp only [bind_done, info, run_log_bind_iff, Platform.run_kms_bind_iff] at run
  obtain ⟨set, rest, rfl, run⟩ := run
  cases set with
  | error fault =>
    simp only [error, run_log_bind_iff] at run
    obtain ⟨first, last, rfl, dropped, run⟩ := Pending.dropped_of_run_bind run
    obtain ⟨rfl, rfl⟩ := run_done_iff.mp run
    rw [List.append_nil]
    exact .unset buffer null id fault dropped
  | ok =>
    -- The number 0 stands for no framebuffer, even when the device has given it out.
    by_cases unnumbered : id = 0
    · subst unnumbered
      simp only [Pending.bind, Pending.framebuffer?, if_true, LawfulMonad.bind_assoc] at run
      obtain ⟨first, last, rfl, dropped, run⟩ := Pending.dropped_of_run_bind run
      obtain ⟨rfl, rfl⟩ := run_done_iff.mp run
      cases dropped with
      | registered made => exact absurd rfl made
      | unregistered => exact .setNull buffer null
    · simp only [Pending.bind, Pending.framebuffer?, unnumbered, if_false, pure_eq,
        bind_done] at run
      obtain ⟨rfl, rfl⟩ := run_done_iff.mp run
      exact .bound buffer null id unnumbered

/-- Bringing a framebuffer to a CRTC can go in each of these ways. -/
theorem ScanOut.run {result : Except Error Framebuffer}
    (scanned : ScanOut config crtc connector mode events result) :
    (scanOut config crtc connector mode).Run events result := by
  simp only [scanOut, Pending.allocate, Pending.register, bind_assoc,
    Platform.run_allocate_bind_iff]
  cases scanned with
  | noMemory fault => exact ⟨_, _, rfl, by simp⟩
  | nullMemory buffer null => exact ⟨_, _, rfl, by simp [null, Fault.message]⟩
  | refused buffer memory fault =>
    refine ⟨_, _, rfl, ?_⟩
    simp only [memory, if_false, pure_eq, bind_done, Platform.run_kms_bind_iff]
    refine ⟨_, _, rfl, ?_⟩
    simp only [bind_done, error, run_log_bind_iff]
    exact (Pending.Dropped.unregistered rfl).run.bind_nil (.done _)
  | unset buffer memory id fault dropped =>
    refine ⟨_, _, rfl, ?_⟩
    simp only [memory, if_false, pure_eq, bind_done, Platform.run_kms_bind_iff]
    refine ⟨_, _, rfl, ?_⟩
    simp only [bind_done, error, info, run_log_bind_iff, Platform.run_kms_bind_iff]
    refine ⟨_, _, rfl, ?_⟩
    simp only [run_log_bind_iff]
    exact dropped.run.bind_nil (.done _)
  | setNull buffer memory =>
    refine ⟨_, _, rfl, ?_⟩
    simp only [memory, if_false, pure_eq, bind_done, Platform.run_kms_bind_iff]
    refine ⟨_, _, rfl, ?_⟩
    simp only [bind_done, info, run_log_bind_iff, Platform.run_kms_bind_iff]
    refine ⟨_, _, rfl, ?_⟩
    simp only [Pending.bind, Pending.framebuffer?, if_true, bind_assoc]
    exact (Pending.Dropped.unregistered rfl).run.bind_nil (.done _)
  | bound buffer memory id made =>
    refine ⟨_, _, rfl, ?_⟩
    simp only [memory, if_false, pure_eq, bind_done, Platform.run_kms_bind_iff]
    refine ⟨_, _, rfl, ?_⟩
    simp only [bind_done, info, run_log_bind_iff, Platform.run_kms_bind_iff]
    refine ⟨_, _, rfl, ?_⟩
    simp [Pending.bind, Pending.framebuffer?, made]

end ScanOut

/-- The ways in which a commit can go: the calls with their answers, and the result together with
the output behind it. -/
inductive Committed (config : Config) (output : Output) (mode : Mode) :
    List (Event Platform) → Except Error Unit × Output → Prop
  /-- The active mode already is what is wanted. -/
  | unchanged (satisfied : mode.satisfiedBy output.mode) :
      Committed config output mode [] (.ok (), output)
  /-- The output has no CRTC, or no connector. -/
  | unbound (unsatisfied : ¬ mode.satisfiedBy output.mode)
      (missing : output.crtc = none ∨ output.connector = none) :
      Committed config output mode []
        (.error (.modeCommit "output has no CRTC or connector bound"), output)
  /-- The CRTC could not be brought to read a new framebuffer out. -/
  | failed (unsatisfied : ¬ mode.satisfiedBy output.mode) {crtc : Crtc} {connector : Connector}
      (hcrtc : output.crtc = some crtc) (hconnector : output.connector = some connector)
      {events : List (Event Platform)} {error : Error}
      (scanned : ScanOut config crtc.id connector.id mode events (.error error)) :
      Committed config output mode events (.error error, output)
  /-- The CRTC reads a new framebuffer out, and the one before it has been given up. -/
  | set (unsatisfied : ¬ mode.satisfiedBy output.mode) {crtc : Crtc} {connector : Connector}
      (hcrtc : output.crtc = some crtc) (hconnector : output.connector = some connector)
      {events others : List (Event Platform)} {framebuffer : Framebuffer}
      (scanned : ScanOut config crtc.id connector.id mode events (.ok framebuffer))
      (retired : Framebuffer.Retired output.framebuffer others) :
      Committed config output mode (events ++ others)
        (.ok (), output.withFramebuffer mode framebuffer)

theorem committed_of_run {config : Config} {output : Output} {mode : Mode}
    {result : Except Error Unit × Output} (run : (output.commit config mode).Run events result) :
    Committed config output mode events result := by
  unfold commit at run
  by_cases satisfied : mode.satisfiedBy output.mode
  · obtain ⟨rfl, rfl⟩ : events = [] ∧ result = (.ok (), output) := by simpa [satisfied] using run
    exact .unchanged satisfied
  simp only [satisfied] at run
  cases hcrtc : output.crtc with
  | none =>
    obtain ⟨rfl, rfl⟩ : events = [] ∧ result = _ := by simpa [hcrtc] using run
    exact .unbound satisfied (.inl hcrtc)
  | some crtc =>
  cases hconnector : output.connector with
  | none =>
    obtain ⟨rfl, rfl⟩ : events = [] ∧ result = _ := by simpa [hcrtc, hconnector] using run
    exact .unbound satisfied (.inr hconnector)
  | some connector =>
  simp only [hcrtc, hconnector] at run
  obtain ⟨first, scanned, rest, hscan, run, rfl⟩ := run_bind_iff.mp run
  cases scanned with
  | error error =>
    obtain ⟨rfl, rfl⟩ := run_done_iff.mp run
    rw [List.append_nil]
    exact .failed satisfied hcrtc hconnector (scanOut_of_run hscan)
  | ok framebuffer =>
    -- The old framebuffer goes only now that the CRTC reads the new one out.
    cases held : output.framebuffer with
    | none =>
      obtain ⟨rfl, rfl⟩ : rest = [] ∧ result = _ := by simpa [held] using run
      exact .set satisfied hcrtc hconnector (scanOut_of_run hscan) (held ▸ .none)
    | some previous =>
      simp only [held] at run
      obtain ⟨others, _, last, released, final, rfl⟩ := run_bind_iff.mp run
      obtain ⟨rfl, rfl⟩ := run_done_iff.mp final
      rw [List.append_nil]
      exact .set satisfied hcrtc hconnector (scanOut_of_run hscan)
        (held ▸ Framebuffer.run_release_iff.mp released)

/-- A commit can go in each of these ways. -/
theorem Committed.run {config : Config} {output : Output} {mode : Mode}
    {result : Except Error Unit × Output} (committed : Committed config output mode events result) :
    (output.commit config mode).Run events result := by
  unfold commit
  cases committed with
  | unchanged satisfied => simp [satisfied]
  | unbound unsatisfied missing =>
    rcases missing with missing | missing
    · simp [unsatisfied, missing]
    · cases output.crtc <;> simp [unsatisfied, missing]
  | failed unsatisfied hcrtc hconnector scanned =>
    simp only [unsatisfied, hcrtc, hconnector]
    exact scanned.run.bind_nil (.done _)
  | set unsatisfied hcrtc hconnector scanned retired =>
    simp only [unsatisfied, hcrtc, hconnector]
    refine scanned.run.bind ?_
    cases held : output.framebuffer with
    | none =>
      rw [held] at retired
      cases retired
      exact .done _
    | some previous =>
      rw [held] at retired
      have released : previous.release.Run _ () := Framebuffer.run_release_iff.mpr retired
      exact released.bind_nil (.done _)

/-- The CRTC that a slot has is the one that it reports. -/
theorem crtcId_of_crtc {output : Output} {crtc : Crtc} (held : output.crtc = some crtc) :
    output.status.crtcId = some crtc.id := by
  rw [status, held]
  rfl

/-- A commit that fails leaves the output as it was. -/
theorem Committed.eq_of_error {config : Config} {output after : Output} {mode : Mode}
    {error : Error} (committed : Committed config output mode events (.error error, after)) :
    after = output := by
  cases committed <;> rfl

/-- A commit never gives an output another CRTC. -/
theorem Committed.crtcId_eq {config : Config} {output after : Output} {mode : Mode}
    {result : Except Error Unit} (committed : Committed config output mode events (result, after)) :
    after.status.crtcId = output.status.crtcId := by
  cases committed with
  | unchanged | unbound | failed => rfl
  | set => simp [status, withFramebuffer, Function.comp_def]

/-- A commit never gives an output another encoder. -/
theorem Committed.encoder_eq {config : Config} {output after : Output} {mode : Mode}
    {result : Except Error Unit} (committed : Committed config output mode events (result, after)) :
    after.encoder = output.encoder := by
  cases committed <;> rfl

end Output

end Modeset
