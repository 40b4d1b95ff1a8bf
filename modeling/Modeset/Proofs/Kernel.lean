import Modeset.Proofs.Run
import Modeset.Simulation.Kernel

/-!
# Kernels under a run

How the events of a platform change the CRTCs and the framebuffers of a kernel. The kernel behaves
as the scripted one: setting a CRTC stores the framebuffer and the mode, removing a framebuffer
stops the CRTCs that read it out, and a call that fails changes nothing. Of the numbers of
framebuffers it is only known that they are not in use, and of everything else the kernel may
describe anything.

What a CRTC reads out stays as it is as long as every event *spares* it.

## Main definitions

* `Simulation.Kernel.InUse` — a framebuffer is alive, or some CRTC reads it out
* `Simulation.Kernel.Answers` — an event leads from one kernel to another
* `Simulation.Kernel.Exclusive` — no other CRTC reads a framebuffer out
* `Simulation.Kernel.Runs` — a CRTC runs a mode and reads a living framebuffer out
* `Event.Spares` — an event takes no framebuffer from a CRTC

## Main results

* `Simulation.Kernel.findCrtc_setCrtc`, `Simulation.Kernel.findCrtc_removeFramebuffer` — the CRTCs
  after a change
* `Simulation.Kernel.Answers.findCrtc`, `Simulation.Kernel.Answers.alive`,
  `Simulation.Kernel.Answers.exclusive` — what an event keeps that spares a CRTC
* `Simulation.Kernel.findCrtc_of_follows` and its companions — what a run keeps
-/

namespace Modeset

open Simulation (Kernel)

/-- Whether a call neither describes nor changes framebuffers or CRTCs. -/
def Kms.Call.isUnrelated : Kms.Call → Bool
  | .crtc _ | .addFramebuffer _ | .removeFramebuffer _ | .setCrtc .. => false
  | _ => true

namespace Simulation.Kernel

variable {kernel after : Kernel} {id other framebuffer x y : UInt32} {crtc : Crtc}
  {mode : Option Mode}

theorem exists_of_map_eq_ok {α β : Type} {attempt : Except Fault α} {f : α → β} {b : β}
    (h : attempt.map f = .ok b) : ∃ a, attempt = .ok a ∧ f a = b := by
  cases attempt with
  | error => cases h
  | ok a => exact ⟨a, rfl, Except.ok.inj h⟩

theorem findCrtc_eq_ok_iff :
    kernel.findCrtc id = .ok crtc ↔ kernel.crtcs.find? (·.id = id) = some crtc := by
  unfold findCrtc orMissing
  cases kernel.crtcs.find? (·.id = id) <;> simp

/-- A CRTC is found under its own number. -/
theorem id_of_findCrtc (found : kernel.findCrtc id = .ok crtc) : crtc.id = id := by
  simpa using List.find?_some (findCrtc_eq_ok_iff.mp found)

/-- A CRTC that has been set. -/
def settle (framebuffer x y : UInt32) (mode : Option Mode) (crtc : Crtc) : Crtc :=
  { crtc with bufferId := framebuffer, x, y, modeValid := mode.isSome, mode := mode.getD .zero }

theorem find?_changeFirst {change : Crtc → Crtc} (keeps : ∀ crtc, (change crtc).id = crtc.id)
    (crtcs : List Crtc) :
    (changeFirst (·.id = id) change crtcs).find? (·.id = other) =
      (crtcs.find? (·.id = other)).map fun crtc => if other = id then change crtc else crtc := by
  induction crtcs with
  | nil => rfl
  | cons crtc crtcs ih =>
    -- Both the change and the search stop at the first CRTC with the number they look for.
    by_cases first : crtc.id = id
    · by_cases same : other = id
      · simp [changeFirst, first, keeps, same]
      · have differs : id ≠ other := Ne.symm same
        simp [changeFirst, first, keeps, same, differs]
    · by_cases sought : crtc.id = other
      · have differs : other ≠ id := sought ▸ first
        simp [changeFirst, sought, differs]
      · simp [changeFirst, first, sought, ih]

theorem of_setCrtc (set : kernel.setCrtc id framebuffer x y mode = .ok after) :
    after = { kernel with
      crtcs := changeFirst (·.id = id) (settle framebuffer x y mode) kernel.crtcs } := by
  unfold setCrtc at set
  cases found : kernel.findCrtc id with
  | error fault => simp [found, bind, Except.bind] at set
  | ok crtc =>
    simp only [found, bind, Except.bind, pure, Except.pure, Except.ok.injEq] at set
    exact set.symm

/-- After a CRTC has been set, it alone has changed. -/
theorem findCrtc_setCrtc (set : kernel.setCrtc id framebuffer x y mode = .ok after) :
    after.findCrtc other = (kernel.findCrtc other).map fun crtc =>
      if other = id then settle framebuffer x y mode crtc else crtc := by
  have keeps (crtc : Crtc) : (settle framebuffer x y mode crtc).id = crtc.id := rfl
  rw [of_setCrtc set, findCrtc, findCrtc, find?_changeFirst keeps]
  cases kernel.crtcs.find? (·.id = other) <;> rfl

/-- What is set must be there. -/
theorem exists_of_setCrtc (set : kernel.setCrtc id framebuffer x y mode = .ok after) :
    ∃ crtc, kernel.findCrtc id = .ok crtc := by
  unfold setCrtc at set
  cases found : kernel.findCrtc id with
  | error fault => simp [found, bind, Except.bind] at set
  | ok crtc => exact ⟨crtc, rfl⟩

/-- After a framebuffer has been removed, every CRTC that read it out has stopped. -/
theorem findCrtc_removeFramebuffer (removal : kernel.removeFramebuffer framebuffer = .ok after) :
    after.findCrtc id = (kernel.findCrtc id).map (blankCrtc framebuffer) := by
  unfold removeFramebuffer at removal
  split at removal
  case isFalse => cases removal
  cases removal
  -- Blanking keeps the number, so the search finds the same place.
  have keeps : (fun crtc => decide (crtc.id = id)) ∘ blankCrtc framebuffer =
      fun crtc => decide (crtc.id = id) := by
    funext crtc
    unfold blankCrtc
    simp only [Function.comp_apply]
    split <;> rfl
  simp only [findCrtc, List.find?_map, keeps]
  cases kernel.crtcs.find? (·.id = id) <;> rfl

/-- A framebuffer is in use if it is alive or some CRTC reads it out. -/
def InUse (kernel : Kernel) (framebuffer : UInt32) : Prop :=
  framebuffer ∈ kernel.framebuffers ∨
    ∃ id crtc, kernel.findCrtc id = .ok crtc ∧ crtc.bufferId = framebuffer

/-- A number that is not alive and that no CRTC reads out is not in use. -/
theorem not_inUse (dead : framebuffer ∉ kernel.framebuffers)
    (unread : ∀ crtc ∈ kernel.crtcs, crtc.bufferId ≠ framebuffer) :
    ¬ kernel.InUse framebuffer := by
  rintro (alive | ⟨id, crtc, found, reads⟩)
  · exact dead alive
  · exact unread crtc (List.mem_of_find?_eq_some (findCrtc_eq_ok_iff.mp found)) reads

/-- `Answers kernel event after`: the kernel may answer a call as the event says, and is then
`after`. Only what concerns framebuffers and CRTCs is laid down. -/
inductive Answers : Kernel → Event Platform → Kernel → Prop
  /-- A call that fails changes nothing. -/
  | failed (kernel : Kernel) (call : Kms.Call) (fault : Fault) :
      Answers kernel (.kms call (.error fault)) kernel
  | described {kernel : Kernel} {id : UInt32} {crtc : Crtc}
      (found : kernel.findCrtc id = .ok crtc) : Answers kernel (.kms (.crtc id) (.ok crtc)) kernel
  /-- A new framebuffer gets a number that is not in use. -/
  | added {kernel after : Kernel} {spec : FramebufferSpec} {id : UInt32} (nonzero : id ≠ 0)
      (fresh : ¬ kernel.InUse id) (framebuffers : after.framebuffers = bear id kernel.framebuffers)
      (crtcs : after.crtcs = kernel.crtcs) :
      Answers kernel (.kms (.addFramebuffer spec) (.ok id)) after
  | removed {kernel after : Kernel} {id : UInt32}
      (removal : kernel.removeFramebuffer id = .ok after) :
      Answers kernel (.kms (.removeFramebuffer id) (.ok ())) after
  /-- From which place of the framebuffer the CRTC then reads is left open. -/
  | set {kernel after : Kernel} {id framebuffer x y left top : UInt32} {connectors : List UInt32}
      {mode : Option Mode} (set : kernel.setCrtc id framebuffer left top mode = .ok after) :
      Answers kernel (.kms (.setCrtc id framebuffer x y connectors mode) (.ok ())) after
  /-- Every other call leaves framebuffers and CRTCs alone. -/
  | unrelated {kernel after : Kernel} {call : Kms.Call} (unrelated : call.isUnrelated = true)
      {reply : Kms.Reply call} (framebuffers : after.framebuffers = kernel.framebuffers)
      (crtcs : after.crtcs = kernel.crtcs) : Answers kernel (.kms call (.ok reply)) after
  | opened (kernel : Kernel) (path : Path) (answer : Except Fault Unit) :
      Answers kernel (.opened path answer) kernel
  | closed (kernel : Kernel) : Answers kernel .closed kernel
  | allocated (kernel : Kernel) (width height : UInt32) (answer : Except Fault Buffer) :
      Answers kernel (.allocated width height answer) kernel
  | released (kernel : Kernel) (handle : UInt32) : Answers kernel (.released handle) kernel

/-- Whether no other CRTC than `id` reads the framebuffer out. -/
def Exclusive (kernel : Kernel) (framebuffer id : UInt32) : Prop :=
  ∀ other crtc, kernel.findCrtc other = .ok crtc → crtc.bufferId = framebuffer → other = id

end Simulation.Kernel

namespace Event

/-- An event spares a CRTC with a framebuffer if it does not set the CRTC, does not let another CRTC
read the framebuffer out, and does not remove the framebuffer. -/
def Spares (id framebuffer : UInt32) : Event Platform → Prop
  | ⟨.inl (.kms (.setCrtc other new ..)), .ok _⟩ => other ≠ id ∧ new ≠ framebuffer
  | ⟨.inl (.kms (.removeFramebuffer other)), .ok _⟩ => other ≠ framebuffer
  | _ => True

variable {id framebuffer other new : UInt32}

@[simp] theorem spares_allocated {width height : UInt32} {answer : Except Fault Buffer} :
    Spares id framebuffer (allocated width height answer) :=
  trivial

@[simp] theorem spares_released {handle : UInt32} : Spares id framebuffer (released handle) :=
  trivial

@[simp] theorem spares_added {spec : FramebufferSpec} {answer : Except Fault UInt32} :
    Spares id framebuffer (kms (.addFramebuffer spec) answer) :=
  trivial

@[simp] theorem spares_set_iff {x y : UInt32} {connectors : List UInt32} {mode : Option Mode}
    {u : Unit} :
    Spares id framebuffer (kms (.setCrtc other new x y connectors mode) (.ok u)) ↔
      other ≠ id ∧ new ≠ framebuffer :=
  Iff.rfl

theorem spares_removed {answer : Except Fault Unit} (differs : other ≠ framebuffer) :
    Spares id framebuffer (kms (.removeFramebuffer other) answer) := by
  cases answer with
  | error => trivial
  | ok => exact differs

end Event

namespace Simulation.Kernel

variable {kernel after : Kernel} {event : Event Platform} {id framebuffer : UInt32} {crtc : Crtc}

theorem findCrtc_congr (crtcs : after.crtcs = kernel.crtcs) :
    after.findCrtc id = kernel.findCrtc id := by
  rw [findCrtc, findCrtc, crtcs]

namespace Answers

/-- An event that spares a CRTC leaves it as it is. -/
theorem findCrtc (answers : Answers kernel event after)
    (spares : event.Spares id crtc.bufferId) (found : kernel.findCrtc id = .ok crtc) :
    after.findCrtc id = .ok crtc := by
  cases answers with
  | failed | described | opened | closed | allocated | released => exact found
  | added _ _ _ crtcs => rwa [findCrtc_congr crtcs]
  | unrelated _ _ crtcs => rwa [findCrtc_congr crtcs]
  | @removed _ other removal =>
    have other_ne : other ≠ crtc.bufferId := spares
    rw [findCrtc_removeFramebuffer removal, found, Except.map, blankCrtc, if_neg other_ne.symm]
  | @set _ other _ _ _ _ _ _ _ set =>
    have spared : other ≠ id ∧ _ := spares
    rw [findCrtc_setCrtc set, found, Except.map, if_neg spared.1.symm]

/-- An event that spares a framebuffer leaves it alive. -/
theorem alive (answers : Answers kernel event after) (spares : event.Spares id framebuffer)
    (alive : framebuffer ∈ kernel.framebuffers) : framebuffer ∈ after.framebuffers := by
  cases answers with
  | failed | described | opened | closed | allocated | released => exact alive
  | unrelated _ framebuffers => rwa [framebuffers]
  | added _ _ framebuffers =>
    rw [framebuffers, bear]
    split
    · exact alive
    · exact List.mem_append_left _ alive
  | @removed _ other removal =>
    have other_ne : other ≠ framebuffer := spares
    exact (mem_framebuffers_remove removal framebuffer).mpr ⟨alive, other_ne.symm⟩
  | set set => rwa [of_setCrtc set]

/-- After an event that spares a CRTC with a framebuffer, still no other CRTC reads the framebuffer
out. -/
theorem exclusive (answers : Answers kernel event after) (spares : event.Spares id framebuffer)
    (nonzero : framebuffer ≠ 0) (exclusive : kernel.Exclusive framebuffer id) :
    after.Exclusive framebuffer id := by
  intro other crtc found reads
  cases answers with
  | failed | described | opened | closed | allocated | released =>
    exact exclusive other crtc found reads
  | added _ _ _ crtcs => exact exclusive other crtc (findCrtc_congr crtcs ▸ found) reads
  | unrelated _ _ crtcs => exact exclusive other crtc (findCrtc_congr crtcs ▸ found) reads
  | removed removal =>
    rw [findCrtc_removeFramebuffer removal] at found
    obtain ⟨before, was_found, rfl⟩ := exists_of_map_eq_ok found
    refine exclusive other before was_found ?_
    -- A CRTC that has just stopped reads framebuffer 0 out, which is not the one in question.
    unfold blankCrtc at reads
    split at reads
    · exact absurd reads.symm nonzero
    · exact reads
  | @set _ set_id _ _ _ _ _ _ _ set =>
    have spared : set_id ≠ id ∧ _ ≠ framebuffer := spares
    rw [findCrtc_setCrtc set] at found
    obtain ⟨before, was_found, rfl⟩ := exists_of_map_eq_ok found
    refine exclusive other before was_found ?_
    split at reads
    · exact absurd reads spared.2
    · exact reads

end Answers

section Follows

variable {events : List (Event Platform)}

theorem findCrtc_of_follows (path : Follows Answers kernel events after)
    (spare : ∀ event ∈ events, event.Spares id crtc.bufferId)
    (found : kernel.findCrtc id = .ok crtc) : after.findCrtc id = .ok crtc :=
  path.keep (fun _ event member _ answers found => answers.findCrtc (spare event member) found)
    found

theorem alive_of_follows (path : Follows Answers kernel events after)
    (spare : ∀ event ∈ events, event.Spares id framebuffer)
    (alive : framebuffer ∈ kernel.framebuffers) : framebuffer ∈ after.framebuffers :=
  @Follows.keep _ _ Answers _ _ _ (framebuffer ∈ ·.framebuffers) path
    (fun _ event member _ answers alive => answers.alive (spare event member) alive) alive

theorem exclusive_of_follows (path : Follows Answers kernel events after)
    (spare : ∀ event ∈ events, event.Spares id framebuffer) (nonzero : framebuffer ≠ 0)
    (exclusive : kernel.Exclusive framebuffer id) : after.Exclusive framebuffer id :=
  @Follows.keep _ _ Answers _ _ _ (·.Exclusive framebuffer id) path
    (fun _ event member _ answers exclusive =>
      answers.exclusive (spare event member) nonzero exclusive) exclusive

/-- As long as a framebuffer is alive, its number is not given to another one. -/
theorem ne_of_added (path : Follows Answers kernel events after)
    (spare : ∀ event ∈ events, event.Spares id framebuffer)
    (alive : framebuffer ∈ kernel.framebuffers) {spec : FramebufferSpec} {new : UInt32}
    (added : .kms (.addFramebuffer spec) (.ok new) ∈ events) : new ≠ framebuffer := by
  induction events generalizing kernel with
  | nil => cases added
  | cons event events ih =>
    obtain ⟨next, answers, path⟩ := path
    obtain ⟨spared, later⟩ := List.forall_mem_cons.mp spare
    -- The framebuffer has lived up to the moment at which the new number is given out.
    rcases List.mem_cons.mp added with rfl | added
    · rintro rfl
      cases answers with
      | added nonzero fresh => exact fresh (.inl alive)
      | unrelated unrelated => cases unrelated
    · exact ih path later (answers.alive spared alive) added

/-- A CRTC that was described along the way is still as described, if all events spare it. -/
theorem findCrtc_of_described (path : Follows Answers kernel events after)
    (spare : ∀ event ∈ events, event.Spares id crtc.bufferId)
    (described : .kms (.crtc id) (.ok crtc) ∈ events) : after.findCrtc id = .ok crtc := by
  induction events generalizing kernel with
  | nil => cases described
  | cons event events ih =>
    obtain ⟨next, answers, path⟩ := path
    obtain ⟨-, later⟩ := List.forall_mem_cons.mp spare
    rcases List.mem_cons.mp described with rfl | described
    · refine findCrtc_of_follows path later ?_
      cases answers with
      | described found => exact found
      | unrelated unrelated => cases unrelated
    · exact ih path later described

/-- A CRTC runs as described, reading out a framebuffer that is alive. -/
structure Runs (kernel : Kernel) (crtc : Crtc) : Prop where
  found : kernel.findCrtc crtc.id = .ok crtc
  valid : crtc.modeValid = true
  alive : crtc.bufferId ∈ kernel.framebuffers

/-- A CRTC runs on as long as it is spared. -/
theorem Runs.follows (runs : kernel.Runs crtc) (path : Follows Answers kernel events after)
    (spare : ∀ event ∈ events, event.Spares crtc.id crtc.bufferId) : after.Runs crtc :=
  ⟨findCrtc_of_follows path spare runs.found, runs.valid, alive_of_follows path spare runs.alive⟩

end Follows

end Simulation.Kernel

end Modeset
