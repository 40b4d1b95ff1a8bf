import Modeset.Proofs.Detection

/-!
# What a scan pays attention to

Not every encoder can drive every connector, and not every CRTC can feed every encoder. A connector
names the encoders that could drive it, and an encoder says at which places of the list of the
device the CRTCs stand that could feed it. Where nothing is attached, a detection scans for an
encoder and for a CRTC, but does not consult these data: it takes the first encoder of the
configured kind and the first spare CRTC. So what it binds fits together if all candidates do, and
otherwise it may not.

## Main definitions

* `View.at?` — what stands at a place of a list
* `Encoder.couldUse` — whether the CRTC at a place could feed an encoder
* `Wired` — how the objects that serve a display have been chosen

## Main results

* `View.exists_place_of_find?` — the place of what a scan finds
* `Observed.detection_wired` — what a detection binds
-/

namespace Modeset

open Proc

/-- Whether the CRTC at a place of the list of the device could feed an encoder. -/
def Encoder.couldUse (encoder : Encoder) (place : Nat) : Bool :=
  encoder.possibleCrtcs.toNat.testBit place

namespace View

variable {α : Type} {tell : UInt32 → Except Fault α} {ids : List UInt32} {wanted : α → Bool}
  {object : α} {view : View} {config : Config} {slot : Slot} {topology : Topology}
  {connector : Connector} {encoder : Encoder} {crtc : Crtc}

/-- The object at a place of a list, if the number there is that of an object which can be
described. -/
def at? (tell : UInt32 → Except Fault α) (ids : List UInt32) (place : Nat) : Option α :=
  ids[place]?.bind (object? tell)

/-- What a scan finds stands at a place, and nothing before it is wanted. -/
theorem exists_place_of_find? (found : (objects tell ids).find? wanted = some object) :
    ∃ place, at? tell ids place = some object ∧ wanted object = true ∧
      ∀ earlier < place, ∀ other, at? tell ids earlier = some other → wanted other = false := by
  have wants : wanted object = true := List.find?_some found
  -- To look among the objects is to look for the first number with a wanted object.
  rw [objects, List.find?_filterMap, Option.bind_eq_some_iff] at found
  obtain ⟨id, first, entry⟩ := found
  obtain ⟨-, place, bound, rfl, before⟩ := List.find?_eq_some_iff_getElem.mp first
  refine ⟨place, by simp [at?, bound, entry], wants, fun earlier lower other stands => ?_⟩
  have listed : ids[earlier]? = some ids[earlier] := List.getElem?_eq_getElem (lower.trans bound)
  have described : object? tell ids[earlier] = some other := by simpa [at?, listed] using stands
  simpa [described] using before earlier lower

end View

/-- How the objects that serve a display have been chosen where nothing was attached. -/
structure Wired (config : Config) (slot : Slot) (view : View) (topology : Topology)
    (connector : Connector) (encoder : Encoder) (crtc : Crtc) : Prop where
  /-- An encoder is scanned for by its kind alone. -/
  encoder_scanned : View.object? view.encoder connector.encoderId = none →
    topology.encoders.find? (·.kind = (config.output slot).encoder) = some encoder
  /-- So it could drive the connector if every encoder of this kind could. -/
  encoder_possible : View.object? view.encoder connector.encoderId = none →
    (∀ other ∈ topology.encoders, other.kind = (config.output slot).encoder →
      other.id ∈ connector.encoders) → encoder.id ∈ connector.encoders
  /-- A CRTC is scanned for by its being spare alone. So it could feed the encoder if every spare
  CRTC could. -/
  crtc_scanned : View.object? view.crtc encoder.crtcId = none →
    ∃ place, View.at? view.crtc topology.resources.crtcs place = some crtc ∧ crtc.isSpare = true ∧
      (∀ earlier < place, ∀ other,
        View.at? view.crtc topology.resources.crtcs earlier = some other →
          other.isSpare = false) ∧
      ((∀ elsewhere other, View.at? view.crtc topology.resources.crtcs elsewhere = some other →
        other.isSpare = true → encoder.couldUse elsewhere = true) → encoder.couldUse place = true)

namespace View

variable {view : View} {resources : ResourceList} {config : Config} {slot : Slot}
  {connector : Connector} {encoder : Encoder} {crtc : Crtc}

/-- What a walk leads to has been chosen like this. -/
theorem wired_of_lead_eq_found
    (found : view.lead config slot (view.describe resources) = .found connector encoder crtc) :
    Wired config slot view (view.describe resources) connector encoder crtc := by
  obtain ⟨-, -, serving, feeding⟩ := lead_eq_found_iff.mp found
  have scanned (detached : object? view.encoder connector.encoderId = none) :
      (view.describe resources).encoders.find? (·.kind = (config.output slot).encoder) =
        some encoder := by
    rwa [encoderFor, detached, Option.none_or] at serving
  refine ⟨scanned, fun detached possible => ?_, fun detached => ?_⟩
  · have first := scanned detached
    exact possible encoder (List.mem_of_find?_eq_some first) (by simpa using List.find?_some first)
  · rw [crtcFor, detached, Option.none_or] at feeding
    obtain ⟨place, stands, spare, before⟩ := exists_place_of_find? feeding
    exact ⟨place, stands, spare, before, fun possible => possible place crtc stands spare⟩

end View

namespace Output

variable {config : Config} {slot : Slot} {events : List (Event Platform)} {led : Survey}
  {found : Outcome} {mode : Mode} {output : Output} {connector : Connector} {encoder : Encoder}
  {crtc : Crtc}

/-- A display that has been brought up is bound to what the walk has led to. -/
theorem BroughtUp.bound (way : BroughtUp config (Output.idle.withDisplay connector encoder crtc)
      connector crtc events (.ok found, output)) :
    output.connector = some connector ∧ output.encoder = some encoder ∧
      output.status.crtcId = some crtc.id := by
  generalize hresult : ((.ok found, output) : Except Error Outcome × Output) = result at way
  cases way with
  | adopted =>
    cases hresult
    exact ⟨rfl, rfl, rfl⟩
  | modeless => cases hresult
  | @committed _ _ _ _ outcome after commit =>
    obtain rfl : output = after := (Prod.mk.inj hresult).2
    refine ⟨?_, commit.encoder_eq, commit.crtcId_eq⟩
    cases commit <;> rfl

/-- A display has been found only if the walk has led to it. -/
theorem exists_found_of_run_conclude
    (run : (conclude config slot .idle led).Run events (.ok (.connected mode), output)) :
    ∃ connector encoder crtc, led = .found connector encoder crtc ∧
      output.connector = some connector ∧ output.encoder = some encoder ∧
      output.status.crtcId = some crtc.id := by
  cases led with
  | unlisted | unresolved | unplugged => simp [conclude] at run
  | found connector encoder crtc =>
    have way := @broughtUp_of_run events config slot
      (Output.idle.withDisplay connector encoder crtc) connector crtc rfl _ run
    exact ⟨connector, encoder, crtc, rfl, way.bound⟩

end Output

/-- Whatever a detection does on a device that is observed: if it finds a display, it binds the
objects that have been chosen like this, by what the device shows once the slot has been given
up. -/
theorem Observed.detection_wired {σ : Type} {step : σ → Event Platform → σ → Prop} {view : σ → View}
    {manager after : Manager} {slot : Slot} {events : List (Event Platform)} {mode : Mode} {s t : σ}
    (observed : Observed step view) (isOpen : manager.isOpen = true)
    (run : (manager.detect slot.device).Run events (.ok (.connected mode), after))
    (path : Follows step s events t) :
    ∃ before others u, events = before ++ others ∧
      Framebuffer.Retired (manager.output slot).framebuffer before ∧ Follows step s before u ∧
      manager.topology.Ends step u fun told _ => ∃ topology connector encoder crtc,
        told = .ok topology ∧ (after.output slot).connector = some connector ∧
          (after.output slot).encoder = some encoder ∧
          (after.output slot).status.crtcId = some crtc.id ∧
          Wired manager.config slot (view u) topology connector encoder crtc := by
  obtain ⟨before, walk, rest, u, outcome, output, rfl, retired, reset, -, conclude, reports⟩ :=
    observed.exists_survey_of_run isOpen run path
  refine ⟨before, walk ++ rest, u, rfl, retired, reset, ?_⟩
  refine (observed.yields_topology isOpen u rfl).mono ?_
  rintro told - ⟨rfl, -⟩
  -- A display is only reported if the discovery has found one.
  generalize hresult : (.ok (.connected mode) : Except Error Outcome) = result at reports
  cases reports with
  | failed error =>
    unfold Manager.undetected at hresult
    split at hresult <;> cases hresult
  | found =>
    cases hresult
    obtain ⟨connector, encoder, crtc, led, bound⟩ := Output.exists_found_of_run_conclude conclude
    rw [Manager.output_hold_same]
    unfold View.survey at led
    unfold View.topology
    cases listed : (view u).resources with
    | error fault => simp [listed] at led
    | ok resources =>
      simp only [listed] at led
      obtain ⟨hconnector, hencoder, hcrtc⟩ := bound
      exact ⟨_, connector, encoder, crtc, rfl, hconnector, hencoder, hcrtc,
        View.wired_of_lead_eq_found led⟩

/-! ## A crossed device

The connector can only be driven by the second encoder, and either encoder can only be fed by the
CRTC at the second place. Nothing is attached. -/

namespace Session

open Simulation Simulation.Kernel

/-- The connector of the crossed device. -/
def loose : Connector := { connector with encoderId := 0, encoders := [31] }

/-- The first encoder of the crossed device. -/
def unfed : Encoder := ⟨30, .tmds, 0, 2⟩

/-- The crossed device. -/
def crossed : Kernel where
  connectors := [⟨20, ⟨0, 11, 1, 1, ⟨160, 90⟩, [native, slow], [31]⟩, [], []⟩]
  encoders := [⟨30, ⟨2, 0, 2⟩⟩, ⟨31, ⟨2, 0, 2⟩⟩]
  crtcs := [crtc, { crtc with id := 41 }]
  listedFramebuffers := some []

/-- The display is found, and its native mode is set by way of the first encoder and CRTC. -/
def crossing : List (Event Platform) :=
  [.kms .resources (.ok crossed.listResources), .kms (.connector 20) (.ok loose),
    .kms (.encoder 30) (.ok unfed), .kms (.crtc 40) (.ok crtc),
    .allocated 64 48 (.ok ⟨7, 256⟩), .kms (.addFramebuffer ⟨64, 48, 256, 32, 24, 7⟩) (.ok 100),
    .kms (.setCrtc 40 100 0 0 [20] (some native)) (.ok ())]

/-- The manager that has opened the node. -/
def opened : Manager := { Manager.new .default with isOpen := true }

/-- The manager that has found the display of the crossed device. -/
def miswired : Manager :=
  { manager with
    outputs.external := { output with connector := some loose, encoder := some unfed } }

theorem run_crossing :
    (opened.detect Slot.external.device).Run crossing
      (.ok (.connected native), miswired) :=
  Proc.replay_eq_some_iff.mp rfl

/-- The crossed device that shows the native mode. -/
def crossedLit : Kernel :=
  { crossed with
    crtcs := [settle 100 0 0 (some native) crtc, { crtc with id := 41 }], framebuffers := [100] }

theorem follows_crossing : Follows Describes crossed crossing crossedLit := by
  have fresh : ¬ crossed.InUse 100 := Kernel.not_inUse (by decide) (by decide)
  let made : Kernel := { crossed with framebuffers := [100] }
  have added : Answers crossed (.kms (.addFramebuffer ⟨64, 48, 256, 32, 24, 7⟩) (.ok 100)) made :=
    .added (by decide) fresh rfl rfl
  have set : Answers made (.kms (.setCrtc 40 100 0 0 [20] (some native)) (.ok ())) crossedLit :=
    @Answers.set made crossedLit 40 100 0 0 0 0 [20] (some native) rfl
  exact ⟨_, .shown rfl, _, .shown rfl, _, .shown rfl, _, .shown rfl, _,
    .elsewhere rfl (.allocated _ _ _ _), _, .unshown rfl added, _, .unshown rfl set, rfl⟩

/-- What has been found on the crossed device has been chosen by kind and by being spare. -/
theorem crossing_wired :
    ∃ before others u, crossing = before ++ others ∧ Framebuffer.Retired none before ∧
      Follows Describes crossed before u ∧
      opened.topology.Ends Describes u fun told _ =>
        ∃ topology connector encoder crtc, told = .ok topology ∧
          (miswired.output .external).connector = some connector ∧
          (miswired.output .external).encoder = some encoder ∧
          (miswired.output .external).status.crtcId = some crtc.id ∧
          Wired .default .external u.view topology connector encoder crtc :=
  observed.detection_wired rfl run_crossing follows_crossing

/-- With nothing attached to it, the connector is bound to an encoder that it does not name, and the
encoder to a CRTC at a place that it does not have among its possible ones. -/
theorem crossing_miswired :
    History .default opening opened ∧
      (opened.detect Slot.external.device).Run crossing (.ok (.connected native), miswired) ∧
      Follows Describes crossed crossing crossedLit ∧
      (miswired.output .external).connector = some loose ∧ loose.encoderId = 0 ∧
      (miswired.output .external).encoder = some unfed ∧ unfed.crtcId = 0 ∧
      unfed.id ∉ loose.encoders ∧
      (miswired.output .external).status.crtcId = some 40 ∧
      crossed.listResources.crtcs = [40, 41] ∧ unfed.couldUse 0 = false :=
  ⟨.step .new .start run_start, run_crossing, follows_crossing, rfl, rfl, rfl, rfl, by decide, rfl,
    rfl, by decide⟩

end Session

end Modeset
