import Modeset.Proofs.Commit
import Modeset.Proofs.Operation

/-!
# The calls of a commit

A commit in which there is something to do takes memory, has a framebuffer made of it, lets the
CRTC read this out, and only then gives up the framebuffer that was read out before. It stops at the
first call that fails, and gives up what it has obtained. If the device never gives out the number 0
for a framebuffer, these are all its ways, one for each place to stop. Each call is laid down with
all that is handed over in it, and each place with the error that comes of it.

## Main definitions

* `Output.Exchange` — the calls of a commit up to each place where it may stop, and what comes of it

## Main results

* `Output.run_commit_iff_exchange` — a commit makes these calls, and no others
-/

namespace Modeset

open Proc

variable {events : List (Event Platform)}

namespace Output

variable {config : Config} {output : Output} {crtc : Crtc} {connector : Connector} {mode : Mode}
  {result : Except Error Unit × Output}

/-- The ways in which the framebuffer of an output is exchanged for one of a mode: the calls with
their answers, and the result together with the output behind it. The framebuffer is made of the
memory just taken, in the size for which it was taken (`Config.framebufferSpec`). -/
inductive Exchange (config : Config) (output : Output) (crtc connector : UInt32) (mode : Mode) :
    List (Event Platform) → Except Error Unit × Output → Prop
  /-- There is no memory. -/
  | noMemory (fault : Fault) :
      Exchange config output crtc connector mode
        [.allocated mode.width mode.height (.error fault)]
        (.error (.allocation fault.message), output)
  /-- A null handle is no memory, and there is nothing to give back. -/
  | nullMemory (buffer : Buffer) (null : buffer.handle = 0) :
      Exchange config output crtc connector mode
        [.allocated mode.width mode.height (.ok buffer)]
        (.error (.allocation "allocator returned a null buffer handle"), output)
  /-- No framebuffer is made, and the memory is given back. -/
  | unregistered (buffer : Buffer) (memory : buffer.handle ≠ 0) (fault : Fault) :
      Exchange config output crtc connector mode
        [.allocated mode.width mode.height (.ok buffer),
          .kms (.addFramebuffer (config.framebufferSpec mode buffer)) (.error fault),
          .released buffer.handle]
        (.error (.framebufferRegistration fault.message), output)
  /-- The CRTC stays as it was, and the new framebuffer is given up, whatever the device says to it,
  before its memory is. -/
  | unset (buffer : Buffer) (memory : buffer.handle ≠ 0) (id : UInt32) (numbered : id ≠ 0)
      (fault : Fault) (answer : Except Fault Unit) :
      Exchange config output crtc connector mode
        [.allocated mode.width mode.height (.ok buffer),
          .kms (.addFramebuffer (config.framebufferSpec mode buffer)) (.ok id),
          .kms (.setCrtc crtc id 0 0 [connector] (some mode)) (.error fault),
          .kms (.removeFramebuffer id) answer,
          .released buffer.handle]
        (.error (.modeCommit fault.message), output)
  /-- The CRTC reads the new framebuffer out. The old one, if any, is given up, whatever the device
  says to it, before its memory is. -/
  | exchanged (buffer : Buffer) (memory : buffer.handle ≠ 0) (id : UInt32) (numbered : id ≠ 0)
      {retirement : List (Event Platform)}
      (retired : Framebuffer.Retired output.framebuffer retirement) :
      Exchange config output crtc connector mode
        (.allocated mode.width mode.height (.ok buffer) ::
          .kms (.addFramebuffer (config.framebufferSpec mode buffer)) (.ok id) ::
          .kms (.setCrtc crtc id 0 0 [connector] (some mode)) (.ok ()) :: retirement)
        (.ok (), output.withFramebuffer mode ⟨id, buffer.handle, buffer.stride⟩)

/-- On a device that never gives out the number 0, a commit that fails to bring a framebuffer to its
CRTC is an exchange: what the device has made can be told from what it has not. -/
theorem ScanOut.exchange_of_error {error : Error}
    (numbered : ∀ spec id, Event.kms (.addFramebuffer spec) (.ok id) ∈ events → id ≠ 0)
    (scanned : ScanOut config crtc.id connector.id mode events (.error error)) :
    Exchange config output crtc.id connector.id mode events (.error error, output) := by
  cases scanned with
  | noMemory fault => exact .noMemory fault
  | nullMemory buffer null => exact .nullMemory buffer null
  | refused buffer memory fault => exact .unregistered buffer memory fault
  | unset buffer memory id fault dropped =>
    cases dropped with
    | registered made answer => exact .unset buffer memory id made fault answer
    | unregistered null =>
      exact absurd null (numbered (config.framebufferSpec mode buffer) id (by simp))
  | setNull buffer memory =>
    exact absurd rfl (numbered (config.framebufferSpec mode buffer) 0 (by simp))

/-- Every exchange is one of the ways in which a commit can go, whatever the device. -/
theorem Exchange.committed (unsatisfied : ¬ mode.satisfiedBy output.mode)
    (hcrtc : output.crtc = some crtc) (hconnector : output.connector = some connector)
    (exchange : Exchange config output crtc.id connector.id mode events result) :
    Committed config output mode events result := by
  cases exchange with
  | noMemory fault => exact .failed unsatisfied hcrtc hconnector (.noMemory fault)
  | nullMemory buffer null => exact .failed unsatisfied hcrtc hconnector (.nullMemory buffer null)
  | unregistered buffer memory fault =>
    exact .failed unsatisfied hcrtc hconnector (.refused buffer memory fault)
  | unset buffer memory id numbered fault answer =>
    have dropped : Pending.Dropped ⟨buffer, id⟩ _ := .registered numbered answer
    exact .failed unsatisfied hcrtc hconnector (.unset buffer memory id fault dropped)
  | exchanged buffer memory id numbered retired =>
    exact .set unsatisfied hcrtc hconnector (.bound buffer memory id numbered) retired

/-- For an output with a CRTC and a connector, and a mode that its active one does not satisfy: on a
device that never gives out the number 0, the runs of a commit are the ways of an exchange. -/
theorem run_commit_iff_exchange (hcrtc : output.crtc = some crtc)
    (hconnector : output.connector = some connector)
    (unsatisfied : mode.satisfiedBy output.mode = false) (config : Config)
    (numbered : ∀ spec id, Event.kms (.addFramebuffer spec) (.ok id) ∈ events → id ≠ 0) :
    (output.commit config mode).Run events result ↔
      Exchange config output crtc.id connector.id mode events result := by
  have differs : ¬ mode.satisfiedBy output.mode := by simp [unsatisfied]
  constructor
  · intro run
    cases committed_of_run run with
    | unchanged satisfied => exact absurd satisfied differs
    | unbound _ missing => simp [hcrtc, hconnector] at missing
    | failed _ hcrtc' hconnector' scanned =>
      obtain rfl := Option.some.inj (hcrtc'.symm.trans hcrtc)
      obtain rfl := Option.some.inj (hconnector'.symm.trans hconnector)
      exact scanned.exchange_of_error numbered
    | set _ hcrtc' hconnector' scanned retired =>
      obtain rfl := Option.some.inj (hcrtc'.symm.trans hcrtc)
      obtain rfl := Option.some.inj (hconnector'.symm.trans hconnector)
      cases scanned with
      | bound buffer memory id made => exact .exchanged buffer memory id made retired
  · intro exchange
    exact (exchange.committed differs hcrtc hconnector).run

end Output

namespace Session

/-- The slow mode is to take the place of the native one, but the CRTC does not take it. -/
def refusedChange : List (Event Platform) :=
  [.allocated 64 48 (.ok ⟨8, 256⟩), .kms (.addFramebuffer ⟨64, 48, 256, 32, 24, 8⟩) (.ok 101),
    .kms (.setCrtc 40 101 0 0 [20] (some slow)) (.error (.os 28)),
    .kms (.removeFramebuffer 101) (.ok ()), .released 8]

theorem numbered_refusedChange (spec : FramebufferSpec) (id : UInt32)
    (answered : Event.kms (.addFramebuffer spec) (.ok id) ∈ refusedChange) : id ≠ 0 := by
  simp only [refusedChange, List.mem_cons, List.not_mem_nil, or_false] at answered
  rcases answered with same | same | same | same | same
  case inr.inl =>
    cases same
    decide
  all_goals cases same

/-- The new framebuffer goes again, and the old one stays. -/
theorem refusedChange_exchange :
    (∀ spec id, Event.kms (.addFramebuffer spec) (.ok id) ∈ refusedChange → id ≠ 0) ∧
      slow.satisfiedBy output.mode = false ∧
      (output.commit .default slow).Run refusedChange
        (.error (.modeCommit "No space left on device (os error 28)"), output) := by
  have exchange : Output.Exchange .default output 40 20 slow refusedChange
      (.error (.modeCommit (Fault.os 28).message), output) :=
    .unset ⟨8, 256⟩ (by decide) 101 (by decide) (.os 28) (.ok ())
  refine ⟨numbered_refusedChange, by decide, ?_⟩
  exact (Output.run_commit_iff_exchange rfl rfl (by decide) .default numbered_refusedChange).mpr
    exchange

end Session

end Modeset
