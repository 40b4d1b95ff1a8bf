import Modeset.Proofs.Operation

/-!
# What is never noted

A note stands in the tree of a procedure, so whether one of some kind can ever be left is a question
about the whole tree, for all answers that its calls may get. The notes on the topic of outputs are
of one kind only: that a framebuffer has outlived its device and is lost. A reset leaves this note
if the device is shut while the slot holds a framebuffer, and nothing else does.

## Main definitions

* `Proc.Silent` — no note on a topic is left, whatever the calls are answered

## Main results

* `Proc.Silent.bind` — a sequence of silent procedures is silent
* `Output.silent_reset_iff` — a reset is silent unless a framebuffer is lost
* `Operation.silent_run`, `Manager.silent_drop` — so is everything that a manager does, if it holds
  nothing without a device
-/

namespace Modeset

namespace Proc

variable {S : Signature} {α β : Type} {topic other : Topic}

/-- Whatever its calls are answered, a procedure leaves no note on the topic. -/
def Silent (topic : Topic) : Proc S α → Prop
  | done _ => True
  | call _ next => ∀ answer, (next answer).Silent topic
  | note entry next => entry.topic ≠ topic ∧ next.Silent topic

@[simp] theorem silent_done {a : α} : (done a : Proc S α).Silent topic := trivial

@[simp] theorem silent_ask {c : S.Call} : (ask c).Silent topic := fun _ => trivial

@[simp] theorem silent_log_iff {level : Level} {text : String} :
    (log level other text : Proc S Unit).Silent topic ↔ other ≠ topic :=
  and_iff_left trivial

/-- A sequence of silent procedures is silent. -/
theorem Silent.bind {p : Proc S α} {f : α → Proc S β} (first : p.Silent topic)
    (rest : ∀ a, (f a).Silent topic) : (p >>= f).Silent topic := by
  induction p with
  | done a => exact rest a
  | call c next ih => exact fun answer => ih answer (first answer)
  | note entry next ih => exact ⟨first.1, ih first.2⟩

@[simp] theorem silent_ask_bind_iff {c : S.Call} {f : S.Answer c → Proc S β} :
    (ask c >>= f).Silent topic ↔ ∀ answer, (f answer).Silent topic :=
  Iff.rfl

@[simp] theorem silent_log_bind_iff {level : Level} {text : String} {f : Unit → Proc S β} :
    (log level other text >>= f).Silent topic ↔ other ≠ topic ∧ (f ()).Silent topic :=
  Iff.rfl

end Proc

open Proc

variable {config : Config} {slot : Slot}

namespace Platform

variable {topic : Topic} {β : Type}

@[simp] theorem silent_kms {call : Kms.Call} :
    (@Proc.Silent Platform (no_index (Kms.Answer call)) topic (kms call)) :=
  silent_ask

/- The answer's type is left out of the index, since for a known call it is unfolded there. -/
@[simp] theorem silent_kms_bind_iff {call : Kms.Call} {f : Kms.Answer call → Proc Platform β} :
    (@Bind.bind (Proc Platform) _ (no_index (Kms.Answer call)) β (kms call) f).Silent topic ↔
      ∀ answer, (f answer).Silent topic :=
  Iff.rfl

@[simp] theorem silent_allocate_bind_iff {width height : UInt32}
    {f : Except Fault Buffer → Proc Platform β} :
    (allocate width height >>= f).Silent topic ↔ ∀ answer, (f answer).Silent topic :=
  Iff.rfl

@[simp] theorem silent_release_bind_iff {handle : UInt32} {f : Unit → Proc Platform β} :
    (release handle >>= f).Silent topic ↔ (f ()).Silent topic :=
  ⟨fun silent => silent (), fun silent _ => silent⟩

@[simp] theorem silent_openNode_bind_iff {path : Path} {f : Except Fault Unit → Proc Platform β} :
    (openNode path >>= f).Silent topic ↔ ∀ answer, (f answer).Silent topic :=
  Iff.rfl

@[simp] theorem silent_closeNode : closeNode.Silent topic := silent_ask

@[simp] theorem silent_closeNode_bind_iff {f : Unit → Proc Platform β} :
    (closeNode >>= f).Silent topic ↔ (f ()).Silent topic :=
  ⟨fun silent => silent (), fun silent _ => silent⟩

end Platform

theorem Framebuffer.silent_release (framebuffer : Framebuffer) :
    framebuffer.release.Silent .output := by
  simp only [release, Platform.silent_kms_bind_iff]
  intro answer
  cases answer <;> simp

theorem Pending.silent_drop (pending : Pending) : pending.drop.Silent .output := by
  unfold drop
  by_cases null : pending.id = 0
  · simp [null]
  · simp only [ne_eq, null, not_false_eq_true, if_true, Platform.silent_kms_bind_iff]
    intro answer
    cases answer <;> simp

namespace Output

/-- A reset is silent unless a framebuffer has outlived its device. -/
theorem silent_reset_iff {output : Output} {isOpen : Bool} :
    (output.reset isOpen).Silent .output ↔ (isOpen = false → output.framebuffer = none) := by
  unfold reset
  cases held : output.framebuffer with
  | none => simp
  | some framebuffer =>
    cases isOpen with
    | false => simp
    | true =>
      have silent : (framebuffer.release >>= fun _ => pure idle : Proc Platform Output).Silent
          .output := framebuffer.silent_release.bind fun _ => trivial
      simpa using silent

theorem silent_scanOut {crtc connector : UInt32} {mode : Mode} :
    (scanOut config crtc connector mode).Silent .output := by
  simp only [scanOut, Pending.allocate, bind_assoc, Platform.silent_allocate_bind_iff]
  intro memory
  cases memory with
  | error => simp
  | ok buffer =>
  by_cases null : buffer.handle = 0
  · simp [null]
  simp only [null, if_false, pure_eq, bind_done, Pending.register, bind_assoc,
    Platform.silent_kms_bind_iff]
  intro made
  -- Whatever goes wrong from here on, what is pending is dropped.
  have dropping (pending : Pending) (error : Error) :
      (pending.drop >>= fun _ => (done (.error error) : Proc Platform (Except Error Framebuffer))
        ).Silent .output := pending.silent_drop.bind fun _ => trivial
  cases made with
  | error => simpa using dropping _ _
  | ok id =>
  simp only [bind_done, info, silent_log_bind_iff, Platform.silent_kms_bind_iff]
  refine ⟨by decide, fun set => ?_⟩
  cases set with
  | error => simpa using dropping _ _
  | ok =>
    by_cases unnumbered : id = 0
    · simp only [Pending.bind, Pending.framebuffer?, unnumbered, if_true, LawfulMonad.bind_assoc]
      exact dropping _ _
    · simp [Pending.bind, Pending.framebuffer?, unnumbered]

theorem silent_commit {output : Output} {mode : Mode} :
    (output.commit config mode).Silent .output := by
  unfold commit
  by_cases satisfied : mode.satisfiedBy output.mode
  · simp [satisfied]
  cases hcrtc : output.crtc with
  | none => simp [satisfied]
  | some crtc =>
  cases hconnector : output.connector with
  | none => simp [satisfied]
  | some connector =>
  simp only [satisfied]
  refine silent_scanOut.bind fun scanned => ?_
  cases scanned with
  | error => trivial
  | ok framebuffer =>
    cases held : output.framebuffer with
    | none => trivial
    | some previous => exact previous.silent_release.bind fun _ => trivial

end Output

namespace Topology

theorem silent_listResources : listResources.Silent .output := by
  simp only [listResources, Platform.silent_kms_bind_iff]
  intro answer
  cases answer <;> simp

section Description

variable {α : Type} {what : String} {describe : UInt32 → Proc Platform (Except Fault α)}

theorem silent_describeEntry (silent : ∀ id, (describe id).Silent .output) (id : UInt32) :
    (describeEntry what describe id).Silent .output := by
  unfold describeEntry
  by_cases empty : id = 0
  · simp [empty]
  · simp only [empty, if_false, pure_eq]
    refine (silent id).bind fun answer => ?_
    cases answer <;> simp

theorem silent_describeAll (silent : ∀ id, (describe id).Silent .output) (ids : List UInt32) :
    (describeAll what describe ids).Silent .output := by
  induction ids with
  | nil => trivial
  | cons id ids ih =>
    refine (silent_describeEntry silent id).bind fun entry => ?_
    cases entry with
    | none => exact ih
    | some object => exact ih.bind fun _ => trivial

theorem silent_findDescribed (silent : ∀ id, (describe id).Silent .output) (wanted : α → Bool)
    (ids : List UInt32) : (findDescribed what describe wanted ids).Silent .output := by
  induction ids with
  | nil => trivial
  | cons id ids ih =>
    refine (silent_describeEntry silent id).bind fun entry => ?_
    cases entry with
    | none => exact ih
    | some object =>
      by_cases hwanted : wanted object
      · simp [hwanted]
      · simpa [hwanted] using ih

theorem silent_attachedOr (silent : ∀ id, (describe id).Silent .output) {id : UInt32}
    {attached : String} {undescribed : Fault → String} {scan : Proc Platform (Option α)}
    (scanning : scan.Silent .output) :
    (attachedOr describe id attached undescribed scan).Silent .output := by
  unfold attachedOr
  by_cases detached : id = 0
  · simpa [detached] using scanning
  · simp only [detached, if_false, info, silent_log_bind_iff]
    refine ⟨by decide, (silent id).bind fun answer => ?_⟩
    cases answer with
    | ok => trivial
    | error => simpa using scanning

end Description

theorem silent_connector (id : UInt32) : (connector id).Silent .output := Platform.silent_kms

theorem silent_encoder (id : UInt32) : (encoder id).Silent .output := Platform.silent_kms

theorem silent_crtc (id : UInt32) : (crtc id).Silent .output := Platform.silent_kms

theorem silent_read : read.Silent .output := by
  refine silent_listResources.bind fun listed => ?_
  cases listed with
  | error => trivial
  | ok resources =>
    refine (silent_describeAll silent_connector _).bind fun connectors => ?_
    refine (silent_describeAll silent_encoder _).bind fun encoders => ?_
    exact (silent_describeAll silent_crtc _).bind fun crtcs => trivial

end Topology

namespace Output

theorem silent_resolveEncoder {resources : ResourceList} {connector : Connector}
    {wanted : EncoderKind} : (resolveEncoder resources connector wanted).Silent .output :=
  Topology.silent_attachedOr Topology.silent_encoder
    (by simpa using Topology.silent_findDescribed Topology.silent_encoder _ _)

theorem silent_resolveCrtc {resources : ResourceList} {encoder : Encoder} :
    (resolveCrtc resources encoder).Silent .output :=
  Topology.silent_attachedOr Topology.silent_crtc
    (by simpa using Topology.silent_findDescribed Topology.silent_crtc _ _)

theorem silent_bringUp {crtc : Crtc} {output : Output} :
    (bringUp config slot crtc output).Silent .output := by
  unfold bringUp
  cases running : crtc.modeValid with
  | true => simp
  | false =>
    simp only [Bool.false_eq_true, if_false, info, silent_log_bind_iff]
    refine ⟨by decide, Silent.bind ?_ fun _ => trivial⟩
    unfold setPreferred
    cases choice : Mode.choose? (fun _ => false) ((output.connector.map (·.modes)).getD []) with
    | none => trivial
    | some mode => exact silent_commit

theorem silent_discover {output : Output} : (discover config slot output).Silent .output := by
  refine Topology.silent_listResources.bind fun listed => ?_
  cases listed with
  | error => trivial
  | ok resources =>
  refine (Topology.silent_findDescribed Topology.silent_connector _ _).bind fun sought => ?_
  cases sought with
  | none => trivial
  | some connector =>
  by_cases plugged : connector.isConnected
  case neg => simp [plugged]
  simp only [plugged, if_true]
  refine silent_resolveEncoder.bind fun served => ?_
  cases served with
  | none => trivial
  | some encoder =>
  refine silent_resolveCrtc.bind fun fed => ?_
  cases fed with
  | none => trivial
  | some crtc => exact silent_bringUp

end Output

theorem Outputs.silent_reset {outputs : Outputs} {isOpen : Bool}
    (held : isOpen = false → outputs = {}) : (outputs.reset isOpen).Silent .output := by
  refine Silent.bind (Output.silent_reset_iff.mpr fun shut => by rw [held shut]; rfl) fun _ => ?_
  exact Silent.bind (Output.silent_reset_iff.mpr fun shut => by rw [held shut]; rfl) fun _ =>
    trivial

namespace Manager

variable {manager : Manager}

theorem silent_start : manager.start.Silent .output := by
  unfold start
  cases isOpen : manager.isOpen with
  | true => simp
  | false =>
    simp only [Bool.false_eq_true, if_false, Platform.silent_openNode_bind_iff]
    intro answer
    cases answer <;> simp

theorem silent_stop (shut : manager.isOpen = false → manager.outputs = {}) :
    manager.stop.Silent .output := by
  refine (Outputs.silent_reset shut).bind fun outputs => ?_
  cases isOpen : manager.isOpen <;> simp

theorem silent_drop : manager.drop.Silent .output := by
  unfold drop
  cases isOpen : manager.isOpen with
  | false => trivial
  | true =>
    have reset : (manager.outputs.reset true).Silent .output := Outputs.silent_reset nofun
    simpa using reset.bind fun _ => Platform.silent_closeNode

theorem silent_detect {device : UInt32} : (manager.detect device).Silent .output := by
  have reset (output : Output) : (output.reset true).Silent .output :=
    Output.silent_reset_iff.mpr nofun
  unfold detect
  cases isOpen : manager.isOpen with
  | false => trivial
  | true =>
  cases addressed : Slot.ofDevice? device with
  | none => trivial
  | some slot =>
  refine (reset _).bind fun output => Output.silent_discover.bind fun (outcome, last) => ?_
  cases outcome with
  | ok outcome => cases outcome <;> simp
  | error error =>
    refine (reset last).bind fun output => ?_
    by_cases disabled : slot = .external ∧ error.isUnresolved <;> simp [disabled]

theorem silent_changeMode {device : UInt32} {exact : Mode → Mode → Bool} :
    (manager.changeMode device exact).Silent .output := by
  unfold changeMode
  cases isOpen : manager.isOpen with
  | false => trivial
  | true =>
  by_cases addressed : Slot.ofDevice? device = some .external
  case neg => simp [addressed]
  simp only [addressed]
  cases plugged : (manager.output .external).display? with
  | none => trivial
  | some connector =>
  cases choice : Mode.choose? (exact · (manager.output .external).mode) connector.modes with
  | none => simp [choice]
  | some mode =>
    simp only [choice]
    exact Output.silent_commit.bind fun _ => trivial

theorem silent_setPower {device : UInt32} {power : Power} :
    (manager.setPower device power).Silent .output := by
  have switch (connector : Connector) (ids : List UInt32) :
      (setPowerProperty connector power ids).Silent .output := by
    induction ids with
    | nil => trivial
    | cons id ids ih =>
      simp only [setPowerProperty, Platform.silent_kms_bind_iff]
      intro answer
      cases answer with
      | error => exact ih
      | ok property =>
        by_cases other : property.name ≠ powerProperty
        · simpa [other] using ih
        · simp only [other, if_false, Platform.silent_kms_bind_iff]
          intro answer
          cases answer <;> simp
  unfold setPower
  by_cases powerless : manager.config.powerControl = false
  · simp [powerless]
  cases isOpen : manager.isOpen with
  | false => simp [powerless]
  | true =>
  cases addressed : Slot.ofDevice? device with
  | none => simp [powerless]
  | some slot =>
  cases plugged : (manager.output slot).display? with
  | none => simp [powerless, plugged]
  | some connector => simpa [powerless, plugged] using switch connector _

theorem silent_passOn {α : Type} {command : UInt32} {payload : List UInt8}
    {call : Proc Platform (Except Fault α)} (silent : call.Silent .output) :
    (manager.passOn command payload call).Silent .output := by
  unfold passOn
  cases isOpen : manager.isOpen with
  | false => trivial
  | true =>
  by_cases empty : payload.isEmpty
  · simp [empty]
  simp only [empty]
  refine silent.bind fun answer => ?_
  cases answer with
  | ok => trivial
  | error fault =>
    have report : (commandError command fault).Silent .output := by
      unfold commandError
      cases errno : fault.errno? <;> simp
    exact report.bind fun _ => trivial

theorem silent_topology : manager.topology.Silent .output := by
  unfold topology
  cases isOpen : manager.isOpen with
  | false => trivial
  | true => exact Topology.silent_read

/-- A question about a slot is silent. -/
theorem silent_output? {device : UInt32} {α : Type} {answer : Option Output → α} :
    (manager.output? device >>= fun output => pure (answer output)).Silent .output := by
  unfold output? slot?
  cases Slot.ofDevice? device <;> simp

end Manager

namespace Operation

variable {manager : Manager}

theorem silent_keeping {α : Type} {query : Proc Platform α} (silent : query.Silent .output) :
    (keeping manager query).Silent .output :=
  silent.bind fun _ => trivial

/-- No operation on a manager that holds nothing without a device loses a framebuffer. -/
theorem silent_run (shut : manager.isOpen = false → manager.outputs = {}) (operation : Operation) :
    (operation.run manager).Silent .output := by
  cases operation with
  | start => exact Manager.silent_start
  | stop => exact (Manager.silent_stop shut).bind fun _ => trivial
  | detect device => exact Manager.silent_detect
  | setMode device mode =>
    have change : (manager.setMode device mode).Silent .output := Manager.silent_changeMode
    exact change
  | setRefreshRate device hz =>
    have change : (manager.setRefreshRate device hz).Silent .output := Manager.silent_changeMode
    exact change
  | setPower device power => exact silent_keeping Manager.silent_setPower
  | topology => exact silent_keeping Manager.silent_topology
  | write command payload | writeRead command payload =>
    exact silent_keeping (Manager.silent_passOn Platform.silent_kms)
  | mode device | modes device | physicalSize device | isConnected device | status device =>
    exact silent_keeping Manager.silent_output?

end Operation

end Modeset
