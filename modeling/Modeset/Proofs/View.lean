import Modeset.Proofs.Kernel
import Modeset.Proofs.Outcome
import Modeset.Simulation.Device

/-!
# What a device shows

The objects of a device are described on two occasions. The topology goes through all its lists. A
detection goes through a list only as far as it needs to, and not at all where an object is attached
that the device can describe, be it listed or not. If what the device describes depends on its state
alone, and describing it does not change that, then what either of them returns is a function of
what the device shows.

## Main definitions

* `View` — what a device describes
* `View.topology`, `View.survey` — all that is described, and where this leads for a slot
* `Observed` — what is described depends on the state alone
* `Yields` — what a procedure returns that only asks for descriptions
* `Simulation.Kernel.Describes` — a scripted kernel that is observed

## Main results

* `Observed.yields_topology`, `Observed.yields_survey` — both walks return what the view says
* `Simulation.Kernel.observed` — of a scripted kernel, the view is known
-/

namespace Modeset

open Proc

/-- What a device answers when it is asked for a description. -/
structure View where
  resources : Except Fault ResourceList
  connector : UInt32 → Except Fault Connector
  encoder : UInt32 → Except Fault Encoder
  crtc : UInt32 → Except Fault Crtc

namespace View

variable {α : Type} {config : Config} {slot : Slot}

/-- The answer to a call that asks for one of these descriptions. -/
def answer? (view : View) : (call : Kms.Call) → Option (Kms.Answer call)
  | .resources => some view.resources
  | .connector id => some (view.connector id)
  | .encoder id => some (view.encoder id)
  | .crtc id => some (view.crtc id)
  | _ => none

/-- The object with a number, unless the number is 0 or the object cannot be described. -/
def object? (tell : UInt32 → Except Fault α) (id : UInt32) : Option α :=
  if id = 0 then none else (tell id).toOption

/-- The objects of a list that can be described. -/
def objects (tell : UInt32 → Except Fault α) (ids : List UInt32) : List α :=
  ids.filterMap (object? tell)

/-- The objects that are listed and can be described. -/
def describe (view : View) (resources : ResourceList) : Topology where
  resources
  connectors := objects view.connector resources.connectors
  encoders := objects view.encoder resources.encoders
  crtcs := objects view.crtc resources.crtcs

/-- Everything that is described. -/
def topology (view : View) : Except Error Topology :=
  match view.resources with
  | .error fault => .error (.resourceQuery fault.message)
  | .ok resources => .ok (view.describe resources)

/-- The first connector of the kind that is configured for a slot. -/
def connectorFor (config : Config) (slot : Slot) (topology : Topology) : Option Connector :=
  topology.connectors.find? (·.kind = (config.output slot).connector)

/-- The encoder that is attached to a connector, or else the first one of the configured kind. -/
def encoderFor (view : View) (config : Config) (slot : Slot) (topology : Topology)
    (connector : Connector) : Option Encoder :=
  (object? view.encoder connector.encoderId).or
    (topology.encoders.find? (·.kind = (config.output slot).encoder))

/-- The CRTC that is attached to an encoder, or else the first one that reads nothing out. -/
def crtcFor (view : View) (topology : Topology) (encoder : Encoder) : Option Crtc :=
  (object? view.crtc encoder.crtcId).or (topology.crtcs.find? Crtc.isSpare)

/-- Where the objects lead that serve a connector with a display. -/
def leadFrom (view : View) (config : Config) (slot : Slot) (topology : Topology)
    (connector : Connector) : Output.Survey :=
  match view.encoderFor config slot topology connector with
  | none => .unresolved (.encoderResolution s!"no usable encoder for {connector.name}")
  | some encoder =>
    match view.crtcFor topology encoder with
    | none => .unresolved (.crtcResolution s!"no usable CRTC for encoder {encoder.id}")
    | some crtc => .found connector encoder crtc

/-- Where the objects of a topology lead for a slot. -/
def lead (view : View) (config : Config) (slot : Slot) (topology : Topology) : Output.Survey :=
  match connectorFor config slot topology with
  | none => .unresolved (.connectorNotFound slot.device (config.output slot).connector.title)
  | some connector =>
    if connector.isConnected then view.leadFrom config slot topology connector else .unplugged

/-- Where a walk leads for a slot. -/
def survey (view : View) (config : Config) (slot : Slot) : Output.Survey :=
  match view.resources with
  | .error fault => .unlisted fault
  | .ok resources => view.lead config slot (view.describe resources)

variable {view : View} {topology : Topology} {connector : Connector} {encoder : Encoder}
  {crtc : Crtc}

/-- To which objects the objects of a topology lead. -/
theorem lead_eq_found_iff :
    view.lead config slot topology = .found connector encoder crtc ↔
      connectorFor config slot topology = some connector ∧ connector.isConnected = true ∧
        view.encoderFor config slot topology connector = some encoder ∧
        view.crtcFor topology encoder = some crtc := by
  constructor
  · intro found
    unfold lead at found
    cases sought : connectorFor config slot topology with
    | none => simp [sought] at found
    | some other =>
    by_cases plugged : other.isConnected = true
    case neg => simp [sought, plugged] at found
    simp only [sought, plugged, if_true, leadFrom] at found
    cases serving : view.encoderFor config slot topology other with
    | none => simp [serving] at found
    | some server =>
    cases feeding : view.crtcFor topology server with
    | none => simp [serving, feeding] at found
    | some feeder =>
      simp only [serving, feeding] at found
      obtain ⟨rfl, rfl, rfl⟩ := Output.Survey.found.inj found
      exact ⟨rfl, plugged, serving, feeding⟩
  · rintro ⟨sought, plugged, serving, feeding⟩
    simp only [lead, sought, plugged, if_true, leadFrom, serving, feeding]

end View

/-- Whatever happens to the device, what it describes depends on its state alone, and describing it
does not change what it describes. All other calls may be answered in any way. -/
structure Observed {σ : Type} (step : σ → Event Platform → σ → Prop) (view : σ → View) : Prop where
  answered : ∀ {s call answer}, (view s).answer? call = some answer →
    ∃ t, step s (.kms call answer) t
  truthful : ∀ {s call answer told t}, (view s).answer? call = some answer →
    step s (.kms call told) t → told = answer ∧ view t = view s

/-- Whenever the device shows `shown`, the procedure comes to an end, returns `a`, and the device
still shows the same. -/
def Yields {σ α : Type} (step : σ → Event Platform → σ → Prop) (view : σ → View) (shown : View)
    (p : Proc Platform α) (a : α) : Prop :=
  ∀ s, view s = shown → p.Ends step s fun result t => result = a ∧ view t = shown

section Observation

variable {σ : Type} {step : σ → Event Platform → σ → Prop} {view : σ → View} {shown : View}

namespace Yields

variable {α β : Type} {p : Proc Platform α} {f : α → Proc Platform β} {a : α} {b : β}

theorem done (a : α) : Yields step view shown (.done a) a :=
  fun _ same => .done ⟨rfl, same⟩

/-- A note shows nothing. -/
theorem log {level : Level} {topic : Topic} {text : String} :
    Yields step view shown (Proc.log level topic text) () :=
  fun _ same => .note (.done ⟨rfl, same⟩)

theorem bind (first : Yields step view shown p a) (next : Yields step view shown (f a) b) :
    Yields step view shown (p >>= f) b := by
  intro s same
  refine (first s same).bind ?_
  rintro _ t ⟨rfl, kept⟩
  exact next t kept

section Description

open View

variable {what : String} {describe : UInt32 → Proc Platform (Except Fault α)}
  {tell : UInt32 → Except Fault α}

/-- An entry is described if it is that of an object which can be described. -/
theorem describeEntry (tells : ∀ id, Yields step view shown (describe id) (tell id)) (id : UInt32) :
    Yields step view shown (Topology.describeEntry what describe id) (object? tell id) := by
  unfold Topology.describeEntry object?
  by_cases empty : id = 0
  · simp only [empty, if_true]
    exact Yields.log.bind (.done _)
  · simp only [empty, if_false]
    refine (tells id).bind ?_
    cases tell id with
    | ok object => exact .done _
    | error fault => exact Yields.log.bind (.done _)

theorem describeAll (tells : ∀ id, Yields step view shown (describe id) (tell id))
    (ids : List UInt32) :
    Yields step view shown (Topology.describeAll what describe ids) (objects tell ids) := by
  induction ids with
  | nil => exact .done _
  | cons id ids ih =>
    refine (describeEntry tells id).bind ?_
    cases entry : object? tell id with
    | none => simpa [objects, entry] using ih
    | some object => simpa [objects, entry] using ih.bind (.done (object :: objects tell ids))

/-- The search stops early, but finds what is found among all objects. -/
theorem findDescribed (tells : ∀ id, Yields step view shown (describe id) (tell id))
    (wanted : α → Bool) (ids : List UInt32) :
    Yields step view shown (Topology.findDescribed what describe wanted ids)
      ((objects tell ids).find? wanted) := by
  induction ids with
  | nil => exact .done _
  | cons id ids ih =>
    refine (describeEntry tells id).bind ?_
    cases entry : object? tell id with
    | none => simpa [objects, entry] using ih
    | some object =>
      by_cases wants : wanted object = true
      · simpa [objects, entry, wants] using .done (some object)
      · simpa [objects, entry, wants] using ih

/-- An attached object that can be described comes before what a scan finds. -/
theorem attachedOr (tells : ∀ id, Yields step view shown (describe id) (tell id)) (id : UInt32)
    {attached : String} {undescribed : Fault → String} {scan : Proc Platform (Option α)}
    {found : Option α} (scans : Yields step view shown scan found) :
    Yields step view shown (Topology.attachedOr describe id attached undescribed scan)
      ((object? tell id).or found) := by
  unfold Topology.attachedOr object?
  by_cases detached : id = 0
  · simpa only [detached, if_true, Option.none_or] using scans
  · simp only [detached, if_false]
    refine Yields.log.bind ((tells id).bind ?_)
    cases tell id with
    | ok object => exact .done _
    | error fault => exact Yields.log.bind scans

end Description

end Yields

namespace Observed

variable (observed : Observed step view)

include observed

/-- A description is given as the view has it. -/
theorem yields_kms {call : Kms.Call} {answer : Kms.Answer call}
    (shows : shown.answer? call = some answer) :
    Yields step view shown (Platform.kms call) answer := by
  rintro s rfl
  obtain ⟨t, first⟩ := observed.answered shows
  refine .call ⟨answer, t, first⟩ fun told t first => ?_
  obtain ⟨rfl, kept⟩ := observed.truthful shows first
  exact .done ⟨rfl, kept⟩

theorem yields_resources : Yields step view shown (Platform.kms .resources) shown.resources :=
  observed.yields_kms rfl

theorem yields_connector (id : UInt32) :
    Yields step view shown (Topology.connector id) (shown.connector id) :=
  observed.yields_kms rfl

theorem yields_encoder (id : UInt32) :
    Yields step view shown (Topology.encoder id) (shown.encoder id) :=
  observed.yields_kms rfl

theorem yields_crtc (id : UInt32) : Yields step view shown (Topology.crtc id) (shown.crtc id) :=
  observed.yields_kms rfl

/-- Reading the topology returns all that is described. -/
theorem yields_read : Yields step view shown Topology.read shown.topology := by
  unfold Topology.read Topology.listResources View.topology
  rw [LawfulMonad.bind_assoc]
  refine observed.yields_resources.bind ?_
  cases shown.resources with
  | error fault =>
    rw [LawfulMonad.bind_assoc]
    exact Yields.log.bind (.done _)
  | ok resources =>
    refine (Yields.describeAll observed.yields_connector _).bind ?_
    refine (Yields.describeAll observed.yields_encoder _).bind ?_
    exact (Yields.describeAll observed.yields_crtc _).bind (.done _)

variable {config : Config} {slot : Slot}

theorem yields_findConnector (resources : ResourceList) :
    Yields step view shown
      (Topology.findDescribed "connector" Topology.connector
        (·.kind = (config.output slot).connector) resources.connectors)
      (View.connectorFor config slot (shown.describe resources)) :=
  Yields.findDescribed observed.yields_connector _ _

theorem yields_resolveEncoder (resources : ResourceList) (connector : Connector) :
    Yields step view shown
      (Output.resolveEncoder resources connector (config.output slot).encoder)
      (shown.encoderFor config slot (shown.describe resources) connector) :=
  Yields.attachedOr observed.yields_encoder _
    (Yields.log.bind (Yields.findDescribed observed.yields_encoder _ _))

theorem yields_resolveCrtc (resources : ResourceList) (encoder : Encoder) :
    Yields step view shown (Output.resolveCrtc resources encoder)
      (shown.crtcFor (shown.describe resources) encoder) :=
  Yields.attachedOr observed.yields_crtc _
    (Yields.log.bind (Yields.findDescribed observed.yields_crtc _ _))

/-- The walk of a discovery leads where the view says. -/
theorem yields_survey :
    Yields step view shown (Output.survey config slot) (shown.survey config slot) := by
  unfold Output.survey View.survey
  refine observed.yields_resources.bind ?_
  cases shown.resources with
  | error fault => exact Yields.log.bind (.done _)
  | ok resources =>
    change Yields step view shown _ (shown.lead config slot (shown.describe resources))
    -- The walk and where it leads are split by the same searches, one after the other.
    unfold View.lead
    refine (observed.yields_findConnector resources).bind ?_
    cases View.connectorFor config slot (shown.describe resources) with
    | none => exact .done _
    | some connector =>
    by_cases plugged : connector.isConnected = true
    case neg =>
      simp only [plugged]
      exact Yields.log.bind (.done _)
    simp only [plugged, if_true]
    unfold View.leadFrom
    refine (observed.yields_resolveEncoder resources connector).bind ?_
    cases shown.encoderFor config slot (shown.describe resources) connector with
    | none => exact .done _
    | some encoder =>
    dsimp only
    refine (observed.yields_resolveCrtc resources encoder).bind ?_
    cases shown.crtcFor (shown.describe resources) encoder with
    | none => exact .done _
    | some crtc => exact .done _

/-- The topology that the manager gives is all that is described. -/
theorem yields_topology {manager : Manager} (isOpen : manager.isOpen = true) :
    Yields step view shown manager.topology shown.topology := by
  unfold Manager.topology
  rw [if_pos isOpen]
  exact observed.yields_read

end Observed

end Observation

/-- Whether an event is a call to the open device. -/
def Event.isKms (event : Event Platform) : Bool :=
  match event with
  | ⟨.inl (.kms _), _⟩ => true
  | _ => false

namespace Simulation.Kernel

/-- What a scripted kernel describes. -/
def view (kernel : Kernel) : View where
  resources := .ok kernel.listResources
  connector id := (kernel.findConnector id).map describeConnector
  encoder id := (kernel.findEncoder id).map describeEncoder
  crtc id := kernel.findCrtc id

/-- How a scripted kernel answers if its descriptions can be relied on. -/
inductive Describes : Kernel → Event Platform → Kernel → Prop
  | shown {kernel : Kernel} {call : Kms.Call} {answer : Kms.Answer call}
      (told : kernel.view.answer? call = some answer) : Describes kernel (.kms call answer) kernel
  /-- A call that asks for nothing that is shown. -/
  | unshown {kernel after : Kernel} {call : Kms.Call} {answer : Kms.Answer call}
      (unshown : kernel.view.answer? call = none)
      (answers : Answers kernel (.kms call answer) after) :
      Describes kernel (.kms call answer) after
  /-- A call that is not made to the open device. -/
  | elsewhere {kernel after : Kernel} {event : Event Platform} (elsewhere : event.isKms = false)
      (answers : Answers kernel event after) : Describes kernel event after

/-- The view of a scripted kernel is observed. -/
theorem observed : Observed Describes view where
  answered told := ⟨_, .shown told⟩
  truthful := by
    intro s call answer told t shows answers
    generalize made : Event.kms call told = event at answers
    cases answers with
    | shown same =>
      cases made
      exact ⟨Option.some.inj (same.symm.trans shows), rfl⟩
    | unshown unshown =>
      cases made
      rw [unshown] at shows
      cases shows
    | elsewhere elsewhere =>
      subst made
      cases elsewhere

end Simulation.Kernel

end Modeset
