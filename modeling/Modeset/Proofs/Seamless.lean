import Modeset.Proofs.ScanOut

/-!
# Changes of mode are seamless

While the mode of a display is changed, its CRTC always reads a framebuffer out. Until it takes the
new framebuffer it goes on with the old one, in the old mode; from then on it reads the new one out,
in the new mode. The memory of what is read out is not given back. This holds at every moment of a
change, however far it gets.

## Main definitions

* `Manager.selected` — the mode that a change of mode is to set
* `Manager.Unchanged`, `Manager.Renewed` — what the CRTC reads out before and after it is switched
* `Manager.Seamless` — the course of a change of mode

## Main results

* `Manager.seamless_of_changed` — every change of mode is seamless
* `Manager.modeChange_seamless` — so are `setMode` and `setRefreshRate`
-/

namespace Modeset

open Simulation (Kernel)
open Simulation.Kernel (Answers)

variable {kernel last : Kernel} {events done : List (Event Platform)}

namespace Output.ScanOut

variable {config : Config} {crtc connector : UInt32} {mode : Mode}

/-- What is given back while a framebuffer is brought to a CRTC has been taken for it. -/
theorem taken_of_returned {result : Except Error Framebuffer}
    (scanned : ScanOut config crtc connector mode events result) {handle : UInt32}
    (returned : handle ∈ events.filterMap Event.returned) :
    handle ∈ events.filterMap Event.taken := by
  cases scanned with
  | noMemory | nullMemory | bound => simp [Event.returned, Event.allocated, Event.kms] at returned
  | refused buffer memory | setNull buffer memory =>
    simpa [Event.returned, Event.taken, Event.allocated, Event.kms, Event.released, memory,
      eq_comm] using returned
  | unset buffer memory id fault dropped =>
    cases dropped <;>
      simpa [Event.returned, Event.taken, Event.allocated, Event.kms, Event.released, memory,
        eq_comm] using returned

/-- A framebuffer that a CRTC has taken was made of memory that was taken for it, and that memory is
not given back. -/
theorem registered {new : Framebuffer}
    (scanned : ScanOut config crtc connector mode events (.ok new)) :
    new.handle ∈ events.filterMap Event.taken ∧ new.id ∈ events.filterMap Event.made ∧
      events.filterMap Event.returned = [] ∧
      ∃ spec, spec.handle = new.handle ∧ .kms (.addFramebuffer spec) (.ok new.id) ∈ events := by
  cases scanned with
  | bound buffer memory id made =>
    refine ⟨?_, ?_, rfl, config.framebufferSpec mode buffer, rfl, by simp⟩
    · simp [Event.taken, Event.allocated, Event.kms, memory]
    · simp [Event.made, Event.allocated, Event.kms, made]

/-- Until the CRTC takes the framebuffer, everything is spared. -/
theorem spares_of_prefix {new : Framebuffer}
    (scanned : ScanOut config crtc connector mode events (.ok new)) (start : done <+: events) :
    done = events ∨ ∀ event ∈ done, ∀ id framebuffer, event.Spares id framebuffer := by
  cases scanned with
  | bound buffer memory id made =>
    rcases List.prefix_cons_iff.mp start with rfl | ⟨_, rfl, second⟩
    · exact .inr (by simp)
    rcases List.prefix_cons_iff.mp second with rfl | ⟨_, rfl, third⟩
    · exact .inr (by simp)
    rcases List.prefix_cons_iff.mp third with rfl | ⟨_, rfl, rest⟩
    · exact .inr (by simp)
    · rw [List.prefix_nil.mp rest]
      exact .inl rfl

end Output.ScanOut

/-- What is given back with a framebuffer is its memory. -/
theorem Framebuffer.Retired.handle_of_returned {old : Option Framebuffer}
    (retired : Retired old events) {handle : UInt32}
    (returned : handle ∈ events.filterMap Event.returned) :
    ∃ framebuffer ∈ old, framebuffer.handle = handle := by
  cases retired with
  | none => simp at returned
  | some framebuffer =>
    refine ⟨framebuffer, rfl, ?_⟩
    simpa [Event.returned, Event.kms, Event.released] using returned

namespace Manager

/-- The mode that a change of mode is to set, by the question whether a listed mode is exactly what
is wanted. -/
def selected (manager : Manager) (exact : Mode → Mode → Bool) : Option Mode :=
  (manager.output .external).display?.bind fun connector =>
    Mode.choose? (exact · (manager.output .external).mode) connector.modes

/-- The CRTC still reads out what it did `before`, and if the manager has made this framebuffer, its
memory has not been given back. -/
structure Unchanged (manager : Manager) (before : Crtc) (done : List (Event Platform))
    (now : Crtc) : Prop where
  bufferId_eq : now.bufferId = before.bufferId
  mode_eq : now.mode = before.mode
  unreturned : ∀ framebuffer ∈ manager.framebuffers, framebuffer.id = before.bufferId →
    framebuffer.handle ∉ done.filterMap Event.returned

/-- The CRTC reads a framebuffer out that has been made for the selected mode, and the memory of
which has not been given back. -/
def Renewed (selected : Option Mode) (done : List (Event Platform)) (now : Crtc) : Prop :=
  selected = some now.mode ∧ ∃ spec, .kms (.addFramebuffer spec) (.ok now.bufferId) ∈ done ∧
    spec.handle ∉ done.filterMap Event.returned

/-- The course of a change of mode on a kernel. -/
structure Seamless (manager : Manager) (kernel : Kernel) (before : Crtc) (selected : Option Mode)
    (events : List (Event Platform)) (result : Except Error Unit) (after : Manager) : Prop where
  /-- However far the change has come, the CRTC reads a living framebuffer out, the old or the
  new one. -/
  always : ∀ done between, done <+: events → Follows Answers kernel done between →
    ∃ now, now.id = before.id ∧ between.Runs now ∧
      (manager.Unchanged before done now ∨ Renewed selected done now)
  /-- In the end it is the new one just if the change has succeeded and was needed. -/
  finally_renewed_iff : ∀ last now, Follows Answers kernel events last →
    last.findCrtc before.id = .ok now →
    (Renewed selected events now ↔ result = .ok () ∧
      ∀ mode ∈ selected, mode.satisfiedBy (manager.output .external).mode = false)
  /-- A change that fails leaves the manager as it was. -/
  eq_of_error : ∀ error, result = .error error → after = manager

section Change

variable {manager after : Manager} {before : Crtc} {selected : Option Mode}
  {result : Except Error Unit}

/-- A change that makes no call is seamless. -/
theorem seamless_of_nil (runs : kernel.Runs before)
    (useless : result = .ok () →
      ∃ mode ∈ selected, mode.satisfiedBy (manager.output .external).mode = true) :
    manager.Seamless kernel before selected [] result manager where
  always done between start path := by
    obtain rfl := List.prefix_nil.mp start
    obtain rfl := path
    exact ⟨before, rfl, runs, .inl ⟨rfl, rfl, by simp⟩⟩
  finally_renewed_iff last now _ _ := by
    constructor
    · rintro ⟨-, spec, added, -⟩
      cases added
    · rintro ⟨success, needed⟩
      obtain ⟨mode, chosen, satisfied⟩ := useless success
      exact absurd (needed mode chosen) (by simp [satisfied])
  eq_of_error _ _ := rfl

variable {config : Config} {crtc connector : UInt32} {mode : Mode}

/-- A change that is given up is seamless: what it has obtained it gives up again, and nothing
else. -/
theorem seamless_of_failed (runs : kernel.Runs before) {error : Error}
    (scanned : Output.ScanOut config crtc connector mode events (.error error))
    (path : Follows Answers kernel events last)
    (fresh : ∀ framebuffer ∈ manager.framebuffers,
      framebuffer.handle ∉ events.filterMap Event.taken) :
    manager.Seamless kernel before selected events (.error error) manager := by
  have spared : ∀ event ∈ events, event.Spares before.id before.bufferId :=
    scanned.spares path (.inl runs.alive) (.inr rfl)
  -- What is given back on the way has been taken on the way, so it is nothing that was in use.
  refine ⟨fun done between start done_path => ?_, fun final now final_path found => ?_, ?_⟩
  · have still := runs.follows done_path fun event member => spared event (start.subset member)
    refine ⟨before, rfl, still, .inl ⟨rfl, rfl, fun framebuffer held _ returned => ?_⟩⟩
    have all_returned := (start.filterMap Event.returned).subset returned
    exact fresh framebuffer held (scanned.taken_of_returned all_returned)
  · have still := runs.follows final_path spared
    obtain rfl : before = now := Except.ok.inj (still.found.symm.trans found)
    constructor
    · rintro ⟨-, spec, added, -⟩
      exact absurd rfl (Kernel.ne_of_added path spared runs.alive added)
    · rintro ⟨success, -⟩
      cases success
  · exact fun _ _ => rfl

/-- Once the CRTC has taken the new framebuffer, it keeps it while the old one is given up. -/
theorem renewed_of_retiring {between : Kernel} {new : Framebuffer}
    {first rest others : List (Event Platform)}
    (scanned : Output.ScanOut config before.id connector mode first (.ok new))
    (scanning : Follows Answers kernel first between) {old : Option Framebuffer}
    (retired : Framebuffer.Retired old rest) (start : others <+: rest)
    (retiring : Follows Answers between others last)
    (fresh : ∀ framebuffer ∈ old, framebuffer.handle ∉ first.filterMap Event.taken ∧
      framebuffer.id ∉ first.filterMap Event.made) :
    ∃ now, now.id = before.id ∧ last.Runs now ∧ Renewed (some mode) (first ++ others) now := by
  obtain ⟨taken, made, unreturned, spec, of_new, added⟩ := scanned.registered
  obtain ⟨-, alive, -, now, found, reads, valid, runs_mode⟩ := scanned.shown scanning
  have id_eq : now.id = before.id := Kernel.id_of_findCrtc found
  have runs : between.Runs now := ⟨id_eq ▸ found, valid, reads ▸ alive⟩
  -- The old framebuffer is not the new one, since the number of the new one was not in use.
  have spared : ∀ event ∈ rest, event.Spares now.id now.bufferId := by
    refine retired.spares fun framebuffer held same => (fresh framebuffer held).2 ?_
    rwa [same, reads]
  refine ⟨now, id_eq, runs.follows retiring fun event member => spared event (start.subset member),
    by rw [runs_mode], spec, ?_, fun returned => ?_⟩
  · rw [reads]
    exact List.mem_append_left _ added
  · rw [List.filterMap_append, unreturned, List.nil_append] at returned
    have returned_rest := (start.filterMap Event.returned).subset returned
    obtain ⟨framebuffer, held, same⟩ := retired.handle_of_returned returned_rest
    refine (fresh framebuffer held).1 ?_
    rwa [same, of_new]

/-- A change that succeeds is seamless: only after the CRTC has taken the new framebuffer is the old
one given up. -/
theorem seamless_of_set (runs : kernel.Runs before) {new : Framebuffer}
    {first rest : List (Event Platform)}
    (scanned : Output.ScanOut config before.id connector mode first (.ok new))
    {old : Option Framebuffer} (retired : Framebuffer.Retired old rest)
    (fresh : ∀ framebuffer ∈ old, framebuffer.handle ∉ first.filterMap Event.taken ∧
      framebuffer.id ∉ first.filterMap Event.made)
    (needed : mode.satisfiedBy (manager.output .external).mode = false) :
    manager.Seamless kernel before (some mode) (first ++ rest) (.ok ()) after := by
  have renewed {done : List (Event Platform)} {between : Kernel} (start : done <+: rest)
      (path : Follows Answers kernel (first ++ done) between) :
      ∃ now, now.id = before.id ∧ between.Runs now ∧ Renewed (some mode) (first ++ done) now := by
    obtain ⟨switched, scanning, retiring⟩ := Follows.append_iff.mp path
    exact renewed_of_retiring scanned scanning retired start retiring fresh
  refine ⟨fun done between start path => ?_, fun final now path found => ?_, nofun⟩
  · -- Any moment lies before the CRTC has taken the new framebuffer, or after.
    have phase : (done <+: first ∧ ∀ event ∈ done, ∀ id framebuffer, event.Spares id framebuffer) ∨
        first <+: done := by
      rcases List.prefix_or_prefix_of_prefix start (List.prefix_append first rest) with early | late
      · rcases scanned.spares_of_prefix early with rfl | spared
        · exact .inr List.prefix_rfl
        · exact .inl ⟨early, spared⟩
      · exact .inr late
    rcases phase with ⟨early, spared⟩ | ⟨others, rfl⟩
    · have still := runs.follows path fun event member => spared event member _ _
      refine ⟨before, rfl, still, .inl ⟨rfl, rfl, fun framebuffer held _ returned => ?_⟩⟩
      obtain ⟨-, -, unreturned, -⟩ := scanned.registered
      have returned_first := (early.filterMap Event.returned).subset returned
      rw [unreturned] at returned_first
      cases returned_first
    · have part := (List.prefix_append_right_inj first).mp start
      obtain ⟨now, id_eq, still, new⟩ := renewed part path
      exact ⟨now, id_eq, still, .inr new⟩
  · obtain ⟨shown, id_eq, still, new⟩ := renewed (List.prefix_refl rest) path
    obtain rfl : shown = now := Except.ok.inj (still.found.symm.trans (id_eq ▸ found))
    refine ⟨fun _ => ⟨rfl, fun chosen same => ?_⟩, fun _ => new⟩
    obtain rfl := Option.some.inj same
    exact needed

/-- Every change of mode of a display is seamless, if what the pool and the device hand out is not
in use already. -/
theorem seamless_of_changed {recorded : Crtc}
    (held : (manager.output .external).crtc = some recorded) (id_eq : before.id = recorded.id)
    (runs : kernel.Runs before) {device : UInt32} {exact : Mode → Mode → Bool}
    (changed : manager.Changed device exact events (result, after))
    (path : Follows Answers kernel events last)
    (fresh : ∀ framebuffer ∈ manager.framebuffers,
      framebuffer.handle ∉ events.filterMap Event.taken ∧
        framebuffer.id ∉ events.filterMap Event.made) :
    manager.Seamless kernel before (manager.selected exact) events result after := by
  cases changed with
  | shut | misaddressed | unplugged | modeless => exact seamless_of_nil runs nofun
  | @committed isOpen addressed display plugged mode choice _ _ output commit =>
    have chosen : manager.selected exact = some mode := by
      rw [selected, plugged]
      exact choice
    rw [chosen]
    cases commit with
    | unchanged satisfied =>
      rw [hold_output]
      exact seamless_of_nil runs fun _ => ⟨mode, rfl, satisfied⟩
    | unbound =>
      rw [hold_output]
      exact seamless_of_nil runs nofun
    | failed _ _ _ scanned =>
      rw [hold_output]
      have untaken := fun framebuffer owned => (fresh framebuffer owned).1
      exact seamless_of_failed runs scanned path untaken
    | @set unsatisfied crtc connector hcrtc hconnector first rest new scanned retired =>
      obtain rfl := Option.some.inj (held.symm.trans hcrtc)
      rw [← id_eq] at scanned
      have needed := Bool.eq_false_iff.mpr unsatisfied
      refine seamless_of_set runs scanned retired (fun framebuffer owned => ?_) needed
      have owned_by_manager : framebuffer ∈ manager.framebuffers :=
        List.mem_append_right _ (Option.mem_toList.mpr owned)
      obtain ⟨untaken, unmade⟩ := fresh framebuffer owned_by_manager
      rw [List.filterMap_append, List.mem_append, not_or] at untaken unmade
      exact ⟨untaken.1, unmade.1⟩

end Change

/-- While `setMode` or `setRefreshRate` changes the mode of a display whose CRTC reads a living
framebuffer out, the CRTC never stops, whatever calls fail. It is only assumed that what the pool
and the device hand out is not in use already. -/
theorem modeChange_seamless {manager after : Manager} {recorded before : Crtc}
    (held : (manager.output .external).crtc = some recorded)
    (found : kernel.findCrtc recorded.id = .ok before) (valid : before.modeValid = true)
    (alive : before.bufferId ∈ kernel.framebuffers) {device : UInt32}
    {result : Except Error Unit} (path : Follows Answers kernel events last)
    (fresh : ∀ framebuffer ∈ manager.framebuffers,
      framebuffer.handle ∉ events.filterMap Event.taken ∧
        framebuffer.id ∉ events.filterMap Event.made) :
    (∀ wanted, (manager.setMode device wanted).Run events (result, after) →
      manager.Seamless kernel before
        (manager.selected fun candidate _ => wanted.satisfiedBy candidate) events result after) ∧
    ∀ hz, (manager.setRefreshRate device hz).Run events (result, after) →
      manager.Seamless kernel before
        (manager.selected fun candidate active => candidate.hdisplay = active.hdisplay ∧
          candidate.vdisplay = active.vdisplay ∧ candidate.vrefresh = hz) events result after := by
  have id_eq := Kernel.id_of_findCrtc found
  have runs : kernel.Runs before := ⟨id_eq ▸ found, valid, alive⟩
  constructor
  · intro wanted run
    exact seamless_of_changed held id_eq runs (changed_of_run run) path fresh
  · intro hz run
    exact seamless_of_changed held id_eq runs (changed_of_run run) path fresh

end Manager

namespace Session

/-- The slow mode takes the place of the native one. -/
def change : List (Event Platform) :=
  [.allocated 64 48 (.ok ⟨8, 256⟩), .kms (.addFramebuffer ⟨64, 48, 256, 32, 24, 8⟩) (.ok 101),
    .kms (.setCrtc 40 101 0 0 [20] (some slow)) (.ok ()),
    .kms (.removeFramebuffer 100) (.ok ()), .released 7]

/-- The kernel after the change. -/
def slowKernel : Kernel where
  crtcs := [Kernel.settle 101 0 0 (some slow) crtc]
  framebuffers := [101]

theorem follows_change : Follows Answers litKernel change slowKernel := by
  have fresh : ¬ litKernel.InUse 101 := Kernel.not_inUse (by decide) (by decide)
  -- For a while both framebuffers are alive.
  let both : Kernel := { litKernel with framebuffers := [100, 101] }
  let switched : Kernel := { slowKernel with framebuffers := [100, 101] }
  have added : Answers litKernel (.kms (.addFramebuffer ⟨64, 48, 256, 32, 24, 8⟩) (.ok 101)) both :=
    .added (by decide) fresh rfl rfl
  have set : Answers both (.kms (.setCrtc 40 101 0 0 [20] (some slow)) (.ok ())) switched :=
    @Answers.set both switched 40 101 0 0 0 0 [20] (some slow) rfl
  exact ⟨_, .allocated _ _ _ _, _, added, _, set, _, .removed rfl, _, .released _ _, rfl⟩

theorem run_change :
    (manager.setMode 1 slow).Run change
      (.ok (), manager.hold .external (output.withFramebuffer slow ⟨101, 8, 256⟩)) :=
  Proc.replay_eq_some_iff.mp rfl

/-- The change is seamless. -/
theorem change_seamless :
    manager.Seamless litKernel (Kernel.settle 100 0 0 (some native) crtc)
      (manager.selected fun candidate _ => slow.satisfiedBy candidate) change (.ok ())
      (manager.hold .external (output.withFramebuffer slow ⟨101, 8, 256⟩)) :=
  (Manager.modeChange_seamless rfl rfl rfl (by decide) follows_change (by decide)).1 slow run_change

end Session

end Modeset
