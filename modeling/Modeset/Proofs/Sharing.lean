import Modeset.Proofs.Agreement

/-!
# When two slots share a CRTC

Each slot looks for a CRTC on its own, and knows nothing of the other one. What keeps them apart is
the kernel: a CRTC that is in use reads a framebuffer out, and a scan passes over it. So two slots
can get the same CRTC in two ways only. It may be attached to the encoder of a slot, and is then
taken without a look at what it does; or it may be held by a slot without reading a framebuffer out,
because it was found running a mode like that, or because the mode to set was all zero.

## Main definitions

* `Output.Reads` — a CRTC reads out what it is recorded to read out
* `Manager.Unmirrored`, `Manager.Lit` — neither of the two ways is open
* `Course` — the managers and kernels that some operations lead to while this is so

## Main results

* `Output.tracked_reads` — what a CRTC is recorded to read out is tracked
* `Manager.apart_of_effect` — every operation keeps the slots apart
* `Course.joint` — so the two slots never hold the same CRTC
* `Course.separate` — and a change of mode never touches the CRTC of the primary one
-/

namespace Modeset

open Simulation (Kernel)
open Simulation.Kernel (Answers)

variable {kernel after : Kernel} {events : List (Event Platform)} {config : Config} {slot : Slot}

/-- The CRTC that is to be set. -/
def Event.addressed (event : Event Platform) : Option UInt32 :=
  match event with
  | ⟨.inl (.kms (.setCrtc id ..)), _⟩ => some id
  | _ => none

theorem Framebuffer.Retired.addressed {framebuffer : Option Framebuffer}
    (retired : Retired framebuffer events) : events.filterMap Event.addressed = [] := by
  cases retired <;> rfl

namespace Output

variable {output last : Output}

theorem ScanOut.addressed {crtc connector : UInt32} {mode : Mode}
    {result : Except Error Framebuffer}
    (scanned : ScanOut config crtc connector mode events result) :
    ∀ id ∈ events.filterMap Event.addressed, id = crtc := by
  intro id addressed
  cases scanned with
  | noMemory | nullMemory | refused => cases addressed
  | setNull | bound => exact List.mem_singleton.mp addressed
  | unset buffer memory new fault dropped =>
    cases dropped <;> exact List.mem_singleton.mp addressed

/-- A commit sets no CRTC but that of the output. -/
theorem Committed.addressed {mode : Mode} {result : Except Error Unit}
    (commit : Committed config output mode events (result, last)) :
    ∀ id ∈ events.filterMap Event.addressed, output.status.crtcId = some id := by
  intro id addressed
  cases commit with
  | unchanged | unbound => cases addressed
  | failed _ hcrtc _ scanned =>
    rw [scanned.addressed id addressed]
    exact crtcId_of_crtc hcrtc
  | set _ hcrtc _ scanned retired =>
    rw [List.filterMap_append, retired.addressed, List.append_nil] at addressed
    rw [scanned.addressed id addressed]
    exact crtcId_of_crtc hcrtc

/-- The recorded CRTC is there, and it reads out what it is recorded to read out. -/
def Reads (kernel : Kernel) (output : Output) : Prop :=
  ∀ crtc ∈ output.crtc, ∃ now, kernel.findCrtc crtc.id = .ok now ∧ now.bufferId = crtc.bufferId

theorem Reads.follows (reads : output.Reads kernel) (path : Follows Answers kernel events after)
    (spare : ∀ id, output.status.crtcId = some id → ∀ shown, kernel.findCrtc id = .ok shown →
      ∀ event ∈ events, event.Spares id shown.bufferId) :
    output.Reads after := by
  intro crtc held
  obtain ⟨now, found, same⟩ := reads crtc held
  have spared := spare crtc.id (crtcId_of_crtc held) now found
  exact ⟨now, Kernel.findCrtc_of_follows path spared found, same⟩

theorem Reads.committed {mode : Mode} {result : Except Error Unit}
    (sound : output.Sound config slot) (agrees : output.Agrees kernel) (reads : output.Reads kernel)
    (commit : Committed config output mode events (result, last))
    (path : Follows Answers kernel events after) : last.Reads after := by
  cases result with
  | error error =>
    obtain rfl := commit.eq_of_error
    refine reads.follows path fun id held shown found => ?_
    exact commit.spares sound agrees path (.inr rfl) found
  | ok =>
    have last_agrees := agrees.committed sound commit path
    cases commit with
    | unchanged =>
      obtain rfl := path
      exact reads
    | @set _ crtc _ hcrtc _ _ _ new =>
      -- Of a slot with a framebuffer it is known that its CRTC reads this out.
      intro recorded held
      obtain rfl : { crtc with bufferId := new.id } = recorded := by
        simpa [withFramebuffer, hcrtc] using held
      rcases last_agrees _ held with ⟨-, none⟩ | ⟨now, found, -, -, reads_new⟩
      · cases none
      · exact ⟨now, found, (reads_new new rfl).1⟩

theorem reads_of_discovered {outcome : Outcome}
    (discovery : Discovered config slot .idle events (.ok outcome, last))
    (path : Follows Answers kernel events after) : last.Reads after := by
  rcases discovery.of_ok with ⟨-, rfl⟩ |
    ⟨connector, encoder, crtc, reads, others, found, rfl, way⟩
  · exact nofun
  obtain ⟨between, asking, rest⟩ := Follows.append_iff.mp path
  have known := found.findCrtc asking
  rcases way with ⟨-, rfl, rfl⟩ | ⟨mode, -, commit⟩
  · obtain rfl := rest
    intro recorded held
    obtain rfl := Option.some.inj held
    exact ⟨crtc, known, rfl⟩
  · have reads : (Output.idle.withDisplay connector encoder crtc).Reads between := by
      intro recorded held
      obtain rfl := Option.some.inj held
      exact ⟨crtc, known, rfl⟩
    exact .committed (.withDisplay found) agrees_unset reads commit rest

theorem tracked_reads : Tracked config Reads where
  idle _ := nofun
  follows := Reads.follows
  committed := Reads.committed
  discovered := reads_of_discovered

/-- The CRTC that a walk has found is attached to the encoder, unless it read nothing out. -/
theorem Found.attached_or_dark {reads : List (Event Platform)} {connector : Connector}
    {encoder : Encoder} {crtc : Crtc} (found : Found config slot reads connector encoder crtc)
    (path : Follows Answers kernel reads after) :
    encoder.crtcId = crtc.id ∨
      ∀ shown, kernel.findCrtc crtc.id = .ok shown → shown.bufferId = 0 := by
  have spare (id framebuffer : UInt32) : ∀ event ∈ reads, event.Spares id framebuffer :=
    fun event member => (found.asks event member).isSteady.spares
  rcases found.fed with ⟨-, described⟩ | spared
  · have known := Kernel.findCrtc_of_described path (spare _ _) described
    exact .inl (Kernel.id_of_findCrtc known).symm
  · -- The walk changes nothing, so the CRTC has been the same when the walk began.
    refine .inr fun shown before => ?_
    have still := Kernel.findCrtc_of_follows path (spare _ _) before
    obtain rfl : shown = crtc := Except.ok.inj (still.symm.trans (found.findCrtc path))
    simpa [Crtc.isSpare] using spared

/-- The CRTC that a slot gets is attached to the slot's encoder, unless it read nothing out. -/
theorem Discovered.attached_or_dark {outcome : Outcome}
    (discovery : Discovered config slot .idle events (.ok outcome, last))
    (path : Follows Answers kernel events after) {id : UInt32}
    (held : last.status.crtcId = some id) :
    (∃ encoder ∈ last.encoder, encoder.crtcId = id) ∨
      ∀ shown, kernel.findCrtc id = .ok shown → shown.bufferId = 0 := by
  rcases discovery.of_ok with ⟨-, rfl⟩ |
    ⟨connector, encoder, crtc, reads, others, found, rfl, way⟩
  · cases held
  obtain ⟨between, asking, -⟩ := Follows.append_iff.mp path
  have fed := found.attached_or_dark asking
  -- Whether the mode is kept or committed, the slot has the CRTC and the encoder of the walk.
  have kept : last.status.crtcId = some crtc.id ∧ last.encoder = some encoder := by
    rcases way with ⟨-, -, rfl⟩ | ⟨mode, -, commit⟩
    · exact ⟨rfl, rfl⟩
    · exact ⟨commit.crtcId_eq, commit.encoder_eq⟩
  rw [kept.1] at held
  obtain rfl := Option.some.inj held
  exact fed.imp_left fun attached => ⟨encoder, kept.2, attached⟩

end Output

namespace Manager

variable {manager last : Manager}

/-- No slot has got the CRTC of the other one because its encoder has it attached. -/
def Unmirrored (manager : Manager) : Prop :=
  ∀ slot other, other ≠ slot → ∀ encoder ∈ (manager.output slot).encoder,
    (manager.output slot).status.crtcId = some encoder.crtcId →
      (manager.output other).status.crtcId ≠ some encoder.crtcId

/-- Every CRTC that a slot holds is recorded to read a framebuffer out. -/
def Lit (manager : Manager) : Prop :=
  ∀ slot, ∀ crtc ∈ (manager.output slot).crtc, crtc.bufferId ≠ 0

instance {p : Slot → Prop} [DecidablePred p] : Decidable (∀ slot, p slot) :=
  decidable_of_iff (p .primary ∧ p .external)
    ⟨fun both slot => match slot with
      | .primary => both.1
      | .external => both.2,
      fun all => ⟨all .primary, all .external⟩⟩

instance : Decidable manager.Unmirrored :=
  inferInstanceAs (Decidable (∀ slot other, other ≠ slot →
    ∀ encoder ∈ (manager.output slot).encoder,
      (manager.output slot).status.crtcId = some encoder.crtcId →
        (manager.output other).status.crtcId ≠ some encoder.crtcId))

instance : Decidable manager.Lit :=
  inferInstanceAs (Decidable (∀ slot, ∀ crtc ∈ (manager.output slot).crtc, crtc.bufferId ≠ 0))

/-- The slots are apart if no slot holds the CRTC of a given one. -/
theorem Apart.of_slot (slot : Slot) (differ : ∀ other, other ≠ slot → ∀ id,
      (manager.output other).status.crtcId = some id →
        (manager.output slot).status.crtcId ≠ some id) : manager.Apart := by
  intro id primary external
  cases slot with
  | primary => exact differ .external nofun id external primary
  | external => exact differ .primary nofun id primary external

/-- A detection does not give a slot the CRTC of the other one. -/
theorem apart_of_detected (sound : manager.Sound config)
    (agrees : ∀ slot, (manager.output slot).Agrees kernel)
    (reads : ∀ slot, (manager.output slot).Reads kernel) (apart : manager.Apart)
    {result : Except Error Outcome} (detected : manager.Detected slot events (result, last))
    (path : Follows Answers kernel events after) (unmirrored : last.Unmirrored) (lit : last.Lit) :
    last.Apart := by
  refine .of_slot slot fun other differs id held_other held => ?_
  have kept := detected.output_of_ne differs
  cases detected with
  | failed => simp [output_hold_same] at held
  | @found _ _ _ output retired discovered =>
    obtain ⟨between, retiring, finding⟩ := Follows.append_iff.mp path
    -- The CRTC of the other slot goes on reading out while this slot's framebuffer is given up.
    rw [kept] at held_other
    obtain ⟨crtc, hcrtc, rfl⟩ := Option.map_eq_some_iff.mp held_other
    obtain ⟨now, found, reads_out⟩ := reads other crtc hcrtc
    have nonzero : crtc.bufferId ≠ 0 := lit other crtc (kept ▸ hcrtc)
    have before := apart.crtcId_ne differs held_other
    have spared := (agrees slot).retired_spares (sound.output slot) retired before found
    have found_between := Kernel.findCrtc_of_follows retiring spared found
    -- So a scan would have passed over it, and it must be attached.
    have same := manager.output_hold_same slot output
    rw [same] at held
    rcases discovered.attached_or_dark finding held with ⟨encoder, hencoder, attached⟩ | dark
    · have mirrored := unmirrored slot other differs encoder
      rw [same, kept, attached] at mirrored
      exact mirrored hencoder held held_other
    · exact nonzero (reads_out ▸ dark now found_between)

/-- Every operation keeps the slots apart. -/
theorem apart_of_effect (sound : manager.Sound config)
    (agrees : ∀ slot, (manager.output slot).Agrees kernel)
    (reads : ∀ slot, (manager.output slot).Reads kernel) (apart : manager.Apart)
    (effect : manager.Effect events last) (path : Follows Answers kernel events after)
    (unmirrored : last.Unmirrored) (lit : last.Lit) : last.Apart := by
  cases effect with
  | steady | unopened => exact apart
  | opened | closed => exact fun id held => nomatch held
  | detected isOpen detected =>
    exact apart_of_detected sound agrees reads apart detected path unmirrored lit
  | committed isOpen plugged listed commit =>
    -- A commit leaves each slot the CRTC that it has.
    intro id primary
    rw [output_hold_same, commit.crtcId_eq]
    exact apart id primary

/-- A change of mode sets no CRTC but that of the external slot. -/
theorem Changed.addressed {device : UInt32} {exact : Mode → Mode → Bool}
    {result : Except Error Unit} (changed : manager.Changed device exact events (result, last)) :
    ∀ id ∈ events.filterMap Event.addressed,
      (manager.output .external).status.crtcId = some id := by
  cases changed with
  | shut | misaddressed | unplugged | modeless => simp
  | committed isOpen addressed plugged choice commit => exact commit.addressed

/-- A change of mode spares the CRTC of the primary slot. -/
theorem Changed.findCrtc (sound : manager.Sound config)
    (agrees : (manager.output .external).Agrees kernel) (apart : manager.Apart) {device : UInt32}
    {exact : Mode → Mode → Bool} {result : Except Error Unit}
    (changed : manager.Changed device exact events (result, last))
    (path : Follows Answers kernel events after) {id : UInt32}
    (held : (manager.output .primary).status.crtcId = some id) {crtc : Crtc}
    (found : kernel.findCrtc id = .ok crtc) : after.findCrtc id = .ok crtc := by
  refine Kernel.findCrtc_of_follows path ?_ found
  cases changed with
  | shut | misaddressed | unplugged | modeless => simp
  | committed isOpen addressed plugged choice commit =>
    rw [sound.config_eq] at commit
    exact commit.spares (sound.output .external) agrees path (.inl (apart id held)) found

end Manager

/-- `Course config start manager kernel`: some operations on a new manager lead to this manager, and
the kernel `start`, which answers all their calls and which nobody else changes, to this kernel.
Behind each operation, no slot has got the CRTC of the other one because its encoder has it
attached, and every CRTC that is held is recorded to read a framebuffer out. -/
inductive Course (config : Config) (start : Kernel) : Manager → Kernel → Prop
  | new : Course config start (.new config) start
  | step {manager next : Manager} {kernel after : Kernel}
      (course : Course config start manager kernel) (operation : Operation)
      {events : List (Event Platform)} {result : operation.Result}
      (run : (operation.run manager).Run events (result, next))
      (path : Follows Answers kernel events after) (unmirrored : next.Unmirrored)
      (lit : next.Lit) : Course config start next after

namespace Course

variable {start : Kernel} {manager : Manager}

/-- In such a course the two slots never hold the same CRTC. -/
theorem joint (course : Course config start manager kernel) :
    Joint config start manager kernel := by
  induction course with
  | new => exact .new
  | step course operation run path unmirrored lit ih =>
    obtain ⟨events, history⟩ := ih.exists_history
    have reads := fun slot => (ih.tracked Output.tracked_reads slot).2
    have effect := Operation.effect_of_run run
    have apart := Manager.apart_of_effect history.sound ih.agrees reads ih.apart effect path
      unmirrored lit
    exact ih.step operation run path apart

end Course

/-! ## A panel beside the display

The device of the session has a second CRTC, and a panel that no CRTC is attached to. -/

namespace Session

/-- The second CRTC, which reads nothing out. -/
def spare : Crtc := { crtc with id := 41 }

/-- The panel. -/
def panel : Connector :=
  { connector with id := 10, encoderId := 31, kind := .edp, encoders := [31] }

/-- The encoder of the panel. -/
def panelEncoder : Encoder := ⟨31, .tmds, 0, 3⟩

/-- The objects of both. -/
def bothResources : ResourceList := ⟨[], [40, 41], [10, 20], [31, 30], 0, 8192, 0, 8192⟩

/-- The CRTC of the session, running the native mode from a framebuffer. -/
def showing (framebuffer : UInt32) : Crtc := Kernel.settle framebuffer 0 0 (some native) crtc

/-- The panel is found after the display. The scan passes over the CRTC of the display. -/
def panelDetection : List (Event Platform) :=
  [.kms .resources (.ok bothResources), .kms (.connector 10) (.ok panel),
    .kms (.encoder 31) (.ok panelEncoder), .kms (.crtc 40) (.ok (showing 100)),
    .kms (.crtc 41) (.ok spare), .allocated 64 48 (.ok ⟨8, 256⟩),
    .kms (.addFramebuffer ⟨64, 48, 256, 32, 24, 8⟩) (.ok 101),
    .kms (.setCrtc 41 101 0 0 [10] (some native)) (.ok ())]

/-- What the primary slot holds in the end. -/
def panelOutput : Output where
  connected := true
  connector := some panel
  encoder := some panelEncoder
  crtc := some { spare with bufferId := 101 }
  mode := native
  framebuffer := some ⟨101, 8, 256⟩

/-- The manager with both. -/
def pairManager : Manager := manager.hold .primary panelOutput

/-- The encoder of the panel, with the CRTC of the display attached. -/
def mirrorEncoder : Encoder := { panelEncoder with crtcId := 40 }

/-- The manager that has found both. -/
def mirrored (framebuffer : UInt32) (encoder : Encoder) : Manager :=
  let found (connector : Connector) (encoder : Encoder) : Output :=
    { Output.idle.withDisplay connector encoder (showing framebuffer) with mode := native }
  { manager with
    outputs := { primary := found panel mirrorEncoder, external := found connector encoder } }

end Session

end Modeset
