import Modeset.Proofs.ScanOut
import Modeset.Proofs.Sound

/-!
# Agreement of manager and kernel

What a manager records of its outputs is what the kernel does. A mode that is recorded as active is
the one that the recorded CRTC runs, and a recorded framebuffer is alive and read out by this CRTC.
This needs a kernel that nobody else changes, and two slots that never hold the same CRTC, since
each of them would change the CRTC behind the other's back.

The invariant has to say more: that no other CRTC reads a recorded framebuffer out. For when the
framebuffer is given up, the kernel stops every CRTC that does, and one of them might belong to the
other slot.

## Main definitions

* `Simulation.Kernel.Shows` — a CRTC runs a mode, from a framebuffer if one is given
* `Output.Agrees` — the recorded CRTC runs the recorded mode
* `Output.Tracked` — what holds between kernel and outputs whatever is done with these
* `Manager.Apart` — the two slots hold different CRTCs
* `Joint` — the managers and kernels that some operations lead to

## Main results

* `Simulation.Kernel.Shows.follows` — a CRTC goes on as long as it is spared
* `Manager.tracked_of_effect` — what is tracked of the outputs holds after every operation
* `Joint.tracked` — so it always holds, and manager and kernel always agree
* `Joint.mode_and_framebuffer` — the reported mode and framebuffer are those of the kernel
-/

namespace Modeset

open Simulation (Kernel)
open Simulation.Kernel (Answers)

variable {kernel after : Kernel} {events : List (Event Platform)} {config : Config} {slot : Slot}

namespace Simulation.Kernel

variable {id : UInt32} {mode : Mode} {framebuffer : Option Framebuffer}

/-- A CRTC runs a mode. If a framebuffer is given, it is alive, and this CRTC alone reads it out. -/
def Shows (kernel : Kernel) (id : UInt32) (mode : Mode) (framebuffer : Option Framebuffer) : Prop :=
  ∃ crtc, kernel.findCrtc id = .ok crtc ∧ crtc.modeValid = true ∧ crtc.mode = mode ∧
    ∀ held ∈ framebuffer, crtc.bufferId = held.id ∧ held.id ≠ 0 ∧
      held.id ∈ kernel.framebuffers ∧ kernel.Exclusive held.id id

/-- A CRTC goes on showing what it shows as long as every event spares it. -/
theorem Shows.follows (shows : kernel.Shows id mode framebuffer)
    (path : Follows Answers kernel events after)
    (spare : ∀ crtc, kernel.findCrtc id = .ok crtc →
      ∀ event ∈ events, event.Spares id crtc.bufferId) :
    after.Shows id mode framebuffer := by
  obtain ⟨crtc, found, valid, runs, reads⟩ := shows
  have spared := spare crtc found
  refine ⟨crtc, findCrtc_of_follows path spared found, valid, runs, fun held member => ?_⟩
  obtain ⟨read, nonzero, alive, exclusive⟩ := reads held member
  rw [read] at spared
  exact ⟨read, nonzero, alive_of_follows path spared alive,
    exclusive_of_follows path spared nonzero exclusive⟩

end Simulation.Kernel

namespace Output

variable {output : Output}

/-- An output agrees with a kernel if the recorded CRTC runs the recorded mode, unless no mode is
recorded. -/
def Agrees (kernel : Kernel) (output : Output) : Prop :=
  ∀ crtc ∈ output.crtc, output.mode = .zero ∧ output.framebuffer = none ∨
    kernel.Shows crtc.id output.mode output.framebuffer

/-- An output without a mode agrees with every kernel. -/
theorem agrees_unset {connector : Connector} {encoder : Encoder} {crtc : Crtc} :
    (Output.idle.withDisplay connector encoder crtc).Agrees kernel :=
  fun _ _ => .inl ⟨rfl, rfl⟩

theorem agrees_idle : idle.Agrees kernel := nofun

theorem Agrees.follows (agrees : output.Agrees kernel) (path : Follows Answers kernel events after)
    (spare : ∀ id, output.status.crtcId = some id → ∀ shown, kernel.findCrtc id = .ok shown →
      ∀ event ∈ events, event.Spares id shown.bufferId) :
    output.Agrees after := by
  intro crtc held
  rcases agrees crtc held with unset | shows
  · exact .inl unset
  · exact .inr (shows.follows path (spare crtc.id (crtcId_of_crtc held)))

section Commit

variable {mode : Mode} {last : Output}

/-- Nobody but the slot's CRTC reads its framebuffer out. -/
theorem Agrees.exclusive (agrees : output.Agrees kernel) {crtc : Crtc}
    (hcrtc : output.crtc = some crtc) {framebuffer : Framebuffer}
    (held : output.framebuffer = some framebuffer) :
    framebuffer.id ∈ kernel.framebuffers ∧ kernel.Exclusive framebuffer.id crtc.id := by
  rcases agrees crtc hcrtc with ⟨-, none⟩ | ⟨shown, -, -, -, reads⟩
  · simp [held] at none
  · obtain ⟨-, -, alive, exclusive⟩ := reads framebuffer held
    exact ⟨alive, exclusive⟩

/-- Giving up what an output holds spares every other CRTC. -/
theorem Agrees.retired_spares (agrees : output.Agrees kernel) (sound : output.Sound config slot)
    (retired : Framebuffer.Retired output.framebuffer events) {id : UInt32}
    (other : output.status.crtcId ≠ some id) {shown : Crtc}
    (found : kernel.findCrtc id = .ok shown) :
    ∀ event ∈ events, event.Spares id shown.bufferId := by
  refine retired.spares fun framebuffer held same => ?_
  -- If the other CRTC read this framebuffer out, it would have to be the output's own.
  obtain ⟨-, -, crtc, hcrtc, -⟩ := sound.scanned framebuffer held
  have id_eq := (agrees.exclusive hcrtc held).2 id shown found same.symm
  exact other (id_eq ▸ crtcId_of_crtc hcrtc)

/-- A commit spares every CRTC but that of the output, and this one too if it fails. -/
theorem Committed.spares {result : Except Error Unit} (sound : output.Sound config slot)
    (agrees : output.Agrees kernel)
    (commit : Committed config output mode events (result, last))
    (path : Follows Answers kernel events after) {id : UInt32}
    (other : output.status.crtcId ≠ some id ∨ result.toOption = none) {shown : Crtc}
    (found : kernel.findCrtc id = .ok shown) :
    ∀ event ∈ events, event.Spares id shown.bufferId := by
  have inUse : kernel.InUse shown.bufferId := .inr ⟨id, shown, found, rfl⟩
  cases commit with
  | unchanged | unbound => simp
  | failed unsatisfied hcrtc hconnector scanned => exact scanned.spares path inUse (.inr rfl)
  | set unsatisfied hcrtc hconnector scanned retired =>
    have differs := other.resolve_right nofun
    obtain ⟨between, scanning, -⟩ := Follows.append_iff.mp path
    refine List.forall_mem_append.mpr ⟨?_, agrees.retired_spares sound retired differs found⟩
    have id_ne : id ≠ _ := fun same => differs (same ▸ crtcId_of_crtc hcrtc)
    exact scanned.spares scanning inUse (.inl id_ne)

/-- A commit leaves the output in agreement with the kernel. -/
theorem Agrees.committed {result : Except Error Unit} (sound : output.Sound config slot)
    (agrees : output.Agrees kernel)
    (commit : Committed config output mode events (result, last))
    (path : Follows Answers kernel events after) : last.Agrees after := by
  cases result with
  | error error =>
    obtain rfl := commit.eq_of_error
    refine agrees.follows path fun id held shown found => ?_
    exact commit.spares sound agrees path (.inr rfl) found
  | ok =>
  cases commit with
  | unchanged =>
    obtain rfl := path
    exact agrees
  | @set unsatisfied crtc _ hcrtc hconnector first others new scanned retired =>
    obtain ⟨between, scanning, retiring⟩ := Follows.append_iff.mp path
    obtain ⟨fresh, alive, exclusive, shown, found, reads, valid, runs⟩ := scanned.shown scanning
    have made : new.id ≠ 0 := scanned.ne_zero.1
    have shows : between.Shows crtc.id mode (some new) := by
      refine ⟨shown, found, valid, runs, fun held member => ?_⟩
      obtain rfl := Option.some.inj member
      exact ⟨reads, made, alive, exclusive⟩
    -- The old framebuffer was in use before the new one was made, so they are two.
    have later : after.Shows crtc.id mode (some new) := by
      refine shows.follows retiring fun other found_other => ?_
      obtain rfl : shown = other := Except.ok.inj (found.symm.trans found_other)
      refine retired.spares fun old held same => fresh (.inl ?_)
      rw [← reads, ← same]
      exact (agrees.exclusive hcrtc held).1
    intro recorded held
    obtain rfl : { crtc with bufferId := new.id } = recorded := by
      simpa [withFramebuffer, hcrtc] using held
    exact .inr later

end Commit

section Discovery

variable {last : Output}

/-- What a walk has found is as the kernel has described it on the way. -/
theorem Found.findCrtc {reads : List (Event Platform)} {connector : Connector} {encoder : Encoder}
    {crtc : Crtc} (found : Found config slot reads connector encoder crtc)
    (path : Follows Answers kernel reads after) : after.findCrtc crtc.id = .ok crtc := by
  obtain ⟨id, described⟩ := found.describes_crtc
  have known := Kernel.findCrtc_of_described path
    (fun event member => (found.asks event member).isSteady.spares) described
  rwa [Kernel.id_of_findCrtc known]

/-- A discovery spares every CRTC but the one that it gives to the slot. -/
theorem Discovered.spares {result : Except Error Outcome}
    (discovery : Discovered config slot .idle events (result, last))
    (path : Follows Answers kernel events after) {id : UInt32}
    (other : last.status.crtcId ≠ some id ∨ result.toOption = none) {shown : Crtc}
    (found : kernel.findCrtc id = .ok shown) :
    ∀ event ∈ events, event.Spares id shown.bufferId := by
  have reading {reads : List (Event Platform)} (asks : ∀ event ∈ reads, event.IsRead) :
      ∀ event ∈ reads, event.Spares id shown.bufferId :=
    fun event member => (asks event member).isSteady.spares
  cases discovery with
  | unlisted fault => exact reading (by simpa using Event.isRead_kms rfl)
  | unresolved asks => exact reading asks
  | unplugged asks => exact reading asks
  | adopted walk => exact reading walk.asks
  | modeless walk => exact reading walk.asks
  | @committed _ _ _ _ _ walk stopped _ preferred outcome _ commit =>
    obtain ⟨between, asking, committing⟩ := Follows.append_iff.mp path
    have found_between := Kernel.findCrtc_of_follows asking (reading walk.asks) found
    refine List.forall_mem_append.mpr ⟨reading walk.asks, ?_⟩
    refine commit.spares (.withDisplay walk) agrees_unset committing ?_ found_between
    rw [← commit.crtcId_eq]
    refine other.imp_right fun failed => ?_
    cases outcome with
    | error => rfl
    | ok => cases failed

/-- A discovery leaves the slot in agreement with the kernel. -/
theorem agrees_of_discovered {outcome : Outcome}
    (discovery : Discovered config slot .idle events (.ok outcome, last))
    (path : Follows Answers kernel events after) : last.Agrees after := by
  rcases discovery.of_ok with ⟨-, rfl⟩ |
    ⟨connector, encoder, crtc, reads, others, found, rfl, way⟩
  · exact agrees_idle
  rcases way with ⟨running, rfl, rfl⟩ | ⟨mode, preferred, commit⟩
  · -- What is adopted is what the kernel has described on the way, and nothing has changed since.
    rw [List.append_nil] at path
    intro recorded held
    obtain rfl := Option.some.inj held
    exact .inr ⟨crtc, found.findCrtc path, running, rfl, nofun⟩
  · obtain ⟨between, -, committing⟩ := Follows.append_iff.mp path
    exact .committed (.withDisplay found) agrees_unset commit committing

end Discovery

/-- What holds between a kernel and an output, and goes on to hold whatever is done with the output,
as long as everything else spares its CRTC. -/
structure Tracked (config : Config) (holds : Kernel → Output → Prop) : Prop where
  idle : ∀ kernel, holds kernel .idle
  follows : ∀ {kernel after : Kernel} {events : List (Event Platform)} {output : Output},
    holds kernel output → Follows Answers kernel events after →
    (∀ id, output.status.crtcId = some id → ∀ shown, kernel.findCrtc id = .ok shown →
      ∀ event ∈ events, event.Spares id shown.bufferId) →
    holds after output
  committed : ∀ {slot : Slot} {kernel after : Kernel} {events : List (Event Platform)}
    {output last : Output} {mode : Mode} {result : Except Error Unit},
    output.Sound config slot → output.Agrees kernel → holds kernel output →
    Committed config output mode events (result, last) → Follows Answers kernel events after →
    holds after last
  discovered : ∀ {slot : Slot} {kernel after : Kernel} {events : List (Event Platform)}
    {last : Output} {outcome : Outcome},
    Discovered config slot .idle events (.ok outcome, last) →
    Follows Answers kernel events after → holds after last

theorem tracked_agrees : Tracked config Agrees where
  idle _ := agrees_idle
  follows := Agrees.follows
  committed sound _ := Agrees.committed sound
  discovered := agrees_of_discovered

end Output

namespace Manager

variable {manager last : Manager} {holds : Kernel → Output → Prop}

/-- The two slots hold different CRTCs, or one of them holds none. -/
def Apart (manager : Manager) : Prop :=
  ∀ id, (manager.output .primary).status.crtcId = some id →
    (manager.output .external).status.crtcId ≠ some id

/-- A slot does not hold the CRTC of the other one. -/
theorem Apart.crtcId_ne (apart : manager.Apart) {slot other : Slot} (differs : other ≠ slot)
    {id : UInt32} (held : (manager.output other).status.crtcId = some id) :
    (manager.output slot).status.crtcId ≠ some id := by
  cases slot <;> cases other
  · exact absurd rfl differs
  · exact fun primary => apart id primary held
  · exact apart id held
  · exact absurd rfl differs

/-- A detection spares every CRTC but those that the slot has before and after. -/
theorem Detected.spares {result : Except Error Outcome} (sound : manager.Sound config)
    (agrees : (manager.output slot).Agrees kernel)
    (detected : manager.Detected slot events (result, last))
    (path : Follows Answers kernel events after) {id : UInt32}
    (before : (manager.output slot).status.crtcId ≠ some id)
    (behind : (last.output slot).status.crtcId ≠ some id) {shown : Crtc}
    (found : kernel.findCrtc id = .ok shown) :
    ∀ event ∈ events, event.Spares id shown.bufferId := by
  cases detected with
  | found retired discovered =>
    obtain ⟨between, retiring, finding⟩ := Follows.append_iff.mp path
    have spared := agrees.retired_spares (sound.output slot) retired before found
    have found_between := Kernel.findCrtc_of_follows retiring spared found
    rw [output_hold_same] at behind
    exact List.forall_mem_append.mpr
      ⟨spared, discovered.spares finding (.inl behind) found_between⟩
  | failed retired discovered =>
    obtain ⟨between, retiring, finding⟩ := Follows.append_iff.mp path
    have spared := agrees.retired_spares (sound.output slot) retired before found
    have found_between := Kernel.findCrtc_of_follows retiring spared found
    exact List.forall_mem_append.mpr
      ⟨spared, discovered.spares finding (.inr rfl) found_between⟩

/-- What is tracked of both outputs still holds after a detection. -/
theorem tracked_of_detected (tracked : Output.Tracked config holds) (sound : manager.Sound config)
    (agrees : ∀ slot, (manager.output slot).Agrees kernel)
    (held : ∀ slot, holds kernel (manager.output slot)) (apart : manager.Apart)
    {result : Except Error Outcome} (detected : manager.Detected slot events (result, last))
    (path : Follows Answers kernel events after) (still_apart : last.Apart) (other : Slot) :
    holds after (last.output other) := by
  by_cases same : other = slot
  · subst same
    cases detected with
    | found retired discovered =>
      obtain ⟨between, -, finding⟩ := Follows.append_iff.mp path
      rw [output_hold_same]
      exact tracked.discovered (sound.config_eq ▸ discovered) finding
    | failed =>
      rw [output_hold_same]
      exact tracked.idle after
  · have kept := detected.output_of_ne same
    rw [kept]
    refine tracked.follows (held other) path fun id holds_id shown found => ?_
    -- The slots are apart before and after, so the other one's CRTC is neither given up nor taken.
    have before := apart.crtcId_ne same holds_id
    have behind := still_apart.crtcId_ne same (kept ▸ holds_id)
    exact detected.spares sound (agrees slot) path before behind found

/-- What is tracked of both outputs still holds after every operation. -/
theorem tracked_of_effect (tracked : Output.Tracked config holds) (sound : manager.Sound config)
    (agrees : ∀ slot, (manager.output slot).Agrees kernel)
    (held : ∀ slot, holds kernel (manager.output slot)) (apart : manager.Apart)
    (effect : manager.Effect events last) (path : Follows Answers kernel events after)
    (still_apart : last.Apart) (slot : Slot) : holds after (last.output slot) := by
  have config_eq := sound.config_eq
  cases effect with
  | steady steady =>
    refine tracked.follows (held slot) path fun id holds_id shown found event member => ?_
    exact (steady.isSteady event member).spares
  | unopened shut fault =>
    refine tracked.follows (held slot) path fun id holds_id shown found event member => ?_
    obtain rfl := List.mem_singleton.mp member
    trivial
  | opened =>
    have idle := output_new manager.config slot
    exact (congrArg (holds after) idle).mpr (tracked.idle after)
  | closed =>
    rw [output_new]
    exact tracked.idle after
  | detected isOpen detected =>
    exact tracked_of_detected tracked sound agrees held apart detected path still_apart slot
  | @committed isOpen _ plugged _ listed _ _ output commit =>
    have external := agrees .external
    have external_sound := sound.output .external
    rw [config_eq] at commit
    cases slot with
    | external =>
      rw [output_hold_same]
      exact tracked.committed external_sound external (held .external) commit path
    | primary =>
      have differs : Slot.primary ≠ .external := nofun
      rw [output_hold_of_ne manager output differs]
      refine tracked.follows (held .primary) path fun id holds_id shown found => ?_
      exact commit.spares external_sound external path (.inl (apart id holds_id)) found

end Manager

/-- `Joint config start manager kernel`: some operations on a new manager lead to this manager, and
the kernel `start`, which answers all their calls and which nobody else changes, to this kernel. The
two slots never hold the same CRTC. -/
inductive Joint (config : Config) (start : Kernel) : Manager → Kernel → Prop
  | new : Joint config start (.new config) start
  | step {manager next : Manager} {kernel after : Kernel}
      (joint : Joint config start manager kernel) (operation : Operation)
      {events : List (Event Platform)} {result : operation.Result}
      (run : (operation.run manager).Run events (result, next))
      (path : Follows Answers kernel events after) (apart : next.Apart) :
      Joint config start next after

namespace Joint

variable {start : Kernel} {manager : Manager}

theorem exists_history (joint : Joint config start manager kernel) :
    ∃ events, History config events manager := by
  induction joint with
  | new => exact ⟨[], .new⟩
  | step joint operation run path apart ih =>
    obtain ⟨events, history⟩ := ih
    exact ⟨_, history.step operation run⟩

theorem apart (joint : Joint config start manager kernel) : manager.Apart := by
  cases joint with
  | new => exact fun id held => absurd held (by simp)
  | step joint operation run path apart => exact apart

/-- Manager and kernel always agree, and what is tracked of the outputs always holds. -/
theorem tracked {holds : Kernel → Output → Prop} (tracked : Output.Tracked config holds)
    (joint : Joint config start manager kernel) (slot : Slot) :
    (manager.output slot).Agrees kernel ∧ holds kernel (manager.output slot) := by
  induction joint generalizing slot with
  | new =>
    rw [Manager.output_new]
    exact ⟨Output.agrees_idle, tracked.idle start⟩
  | step joint operation run path apart ih =>
    obtain ⟨events, history⟩ := joint.exists_history
    have effect := Operation.effect_of_run run
    have agrees := fun slot => (ih slot).1
    have held := fun slot => (ih slot).2
    exact ⟨Manager.tracked_of_effect Output.tracked_agrees history.sound agrees agrees joint.apart
        effect path apart slot,
      Manager.tracked_of_effect tracked history.sound agrees held joint.apart effect path apart
        slot⟩

/-- Manager and kernel always agree. -/
theorem agrees (joint : Joint config start manager kernel) (slot : Slot) :
    (manager.output slot).Agrees kernel :=
  (joint.tracked Output.tracked_agrees slot).1

end Joint

/-- Whatever has been done with a manager on a kernel that nobody else changes, as long as the two
slots never held the same CRTC: a mode that is reported for a device is the one that the reported
CRTC runs, and a framebuffer that is reported is alive and read out by this CRTC. -/
theorem Joint.mode_and_framebuffer {start : Kernel} {manager : Manager}
    (joint : Joint config start manager kernel) {device : UInt32} {mode : Mode}
    (active : (manager.mode device).Run [] (some mode)) :
    ∃ status id crtc, (manager.status device).Run [] (some status) ∧ status.crtcId = some id ∧
      kernel.findCrtc id = .ok crtc ∧ crtc.modeValid = true ∧ crtc.mode = mode ∧
      (status.framebufferId ≠ 0 →
        status.framebufferId ∈ kernel.framebuffers ∧ crtc.bufferId = status.framebufferId) := by
  obtain ⟨-, hmode⟩ := Manager.run_output?_iff.mp active
  cases addressed : Slot.ofDevice? device with
  | none => simp [addressed] at hmode
  | some slot =>
    obtain ⟨events, history⟩ := joint.exists_history
    have sound := history.sound.output slot
    have hactive : (manager.output slot).activeMode? = some mode := by
      simpa [addressed] using hmode.symm
    -- A connected slot has a CRTC recorded, and a mode that is reported is not the empty one.
    obtain ⟨connected, nonempty, rfl⟩ := Output.activeMode?_eq_some_iff.mp hactive
    obtain ⟨recorded, hcrtc⟩ := Option.isSome_iff_exists.mp (sound.crtc_isSome.trans connected)
    rcases joint.agrees slot recorded hcrtc with ⟨unset, -⟩ | ⟨crtc, found, valid, runs, reads⟩
    · rw [unset] at nonempty
      cases nonempty
    refine ⟨(manager.output slot).status, recorded.id, crtc, ?_, ?_, found, valid, runs, ?_⟩
    · exact Manager.run_output?_iff.mpr ⟨rfl, by rw [addressed]; rfl⟩
    · rw [Output.status, hcrtc]
      rfl
    · intro nonzero
      cases hframebuffer : (manager.output slot).framebuffer with
      | none => simp [Output.status, hframebuffer] at nonzero
      | some framebuffer =>
        obtain ⟨read, -, alive, -⟩ := reads framebuffer hframebuffer
        have id_eq : (manager.output slot).status.framebufferId = framebuffer.id := by
          rw [Output.status, hframebuffer]
          rfl
        rw [id_eq]
        exact ⟨alive, read⟩

namespace Session

/-- The session keeps to its two slots, as it uses one of them only. -/
theorem joint : Joint .default darkKernel manager litKernel := by
  have alone (id : UInt32) (held : (none : Option UInt32) = some id) : False := nomatch held
  have started : Joint .default darkKernel { Manager.new .default with isOpen := true }
      darkKernel :=
    .step .new .start run_start follows_opening fun id held => (alone id held).elim
  exact started.step (.detect 1) run_detect follows_detection fun id held => (alone id held).elim

/-- After the session the CRTC runs the native mode, with the framebuffer that was made for it. -/
theorem mode_shown : ∃ status id crtc,
    (manager.status 1).Run [] (some status) ∧ status.crtcId = some id ∧
      litKernel.findCrtc id = .ok crtc ∧ crtc.modeValid = true ∧ crtc.mode = native ∧
      (status.framebufferId ≠ 0 →
        status.framebufferId ∈ litKernel.framebuffers ∧ crtc.bufferId = status.framebufferId) :=
  joint.mode_and_framebuffer (Proc.replay_eq_some_iff.mp rfl)

end Session

end Modeset
