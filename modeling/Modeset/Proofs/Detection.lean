import Modeset.Proofs.View

/-!
# Detection and topology

A detection looks only at some of the objects that the topology describes, and at some that are not
in the topology, since an attached object need not be listed. All the same it comes to what can be
picked from the topology: to the first connector of the configured kind, then to the encoder that is
attached to it or else the first one of the configured kind, then to the CRTC that is attached to
this or else the first spare one. The topology is the one that would be read after the slot has been
given up, since giving it up may stop a CRTC.

## Main definitions

* `Output.Resolution` — how a discovery ends, in terms of a topology and of attached objects
* `Manager.Reports` — what a detection makes of that

## Main results

* `Output.resolution_of_run_conclude` — what follows on a walk agrees with the topology
* `Observed.detection_agrees` — every detection agrees with the topology
-/

namespace Modeset

open Proc

namespace Output

variable {config : Config} {slot : Slot} {events : List (Event Platform)}
  {outcome : Except Error Outcome} {output : Output} {connector : Connector} {encoder : Encoder}
  {crtc : Crtc} {topology : Topology}

/-- How a display that a walk has found gets its first mode, by what its CRTC is running and by what
its connector lists. -/
structure Begun (config : Config) (connector : Connector) (encoder : Encoder) (crtc : Crtc)
    (events : List (Event Platform)) (outcome : Except Error Outcome) (output : Output) : Prop where
  /-- A running mode is adopted, and nothing but descriptions has been asked for. -/
  adopted : crtc.modeValid = true → (∀ event ∈ events, event.IsRead) ∧
    outcome = .ok (.connected crtc.mode) ∧
    output = { Output.idle.withDisplay connector encoder crtc with mode := crtc.mode }
  /-- Otherwise the favourite is committed. -/
  committed : crtc.modeValid = false → ∀ mode, Mode.favourite? connector.modes = some mode →
    ∃ walk rest result, events = walk ++ rest ∧ (∀ event ∈ walk, event.IsRead) ∧
      Committed config (Output.idle.withDisplay connector encoder crtc) mode rest
        (result, output) ∧
      outcome = result.map fun () => .connected output.mode
  /-- There is a favourite unless no mode is listed. -/
  modeless : crtc.modeValid = false → connector.modes = [] →
    (∀ event ∈ events, event.IsRead) ∧ outcome = .error .noModes

/-- How a discovery ends that has found a display at a connector, by the objects that serve it. -/
structure Served (config : Config) (slot : Slot) (view : View) (topology : Topology)
    (connector : Connector) (events : List (Event Platform)) (outcome : Except Error Outcome)
    (output : Output) : Prop where
  noEncoder :
    outcome = .error (.encoderResolution s!"no usable encoder for {connector.name}") ↔
      view.encoderFor config slot topology connector = none
  noCrtc : ∀ encoder, view.encoderFor config slot topology connector = some encoder →
    (outcome = .error (.crtcResolution s!"no usable CRTC for encoder {encoder.id}") ↔
      view.crtcFor topology encoder = none)
  begun : ∀ encoder, view.encoderFor config slot topology connector = some encoder →
    ∀ crtc, view.crtcFor topology encoder = some crtc →
      Begun config connector encoder crtc events outcome output

/-- How a discovery for an idle slot ends, in terms of a topology and of the objects that are
attached. -/
structure Resolution (config : Config) (slot : Slot) (view : View) (topology : Topology)
    (events : List (Event Platform)) (outcome : Except Error Outcome) (output : Output) :
    Prop where
  noConnector :
    outcome = .error (.connectorNotFound slot.device (config.output slot).connector.title) ↔
      View.connectorFor config slot topology = none
  unplugged : outcome = .ok .disconnected ↔
    ∃ connector, View.connectorFor config slot topology = some connector ∧
      connector.connection ≠ .connected
  served : ∀ connector, View.connectorFor config slot topology = some connector →
    connector.connection = .connected →
      Served config slot view topology connector events outcome output

/-- Bringing a display up after a walk gives it its first mode in this way. -/
theorem BroughtUp.begun {walk rest : List (Event Platform)}
    (reads : ∀ event ∈ walk, event.IsRead)
    (way : BroughtUp config (Output.idle.withDisplay connector encoder crtc) connector crtc rest
      (outcome, output)) :
    Begun config connector encoder crtc (walk ++ rest) outcome output := by
  cases way with
  | adopted running =>
    exact {
      adopted := fun _ => ⟨by simpa using reads, rfl, rfl⟩
      committed := fun stopped => by simp [running] at stopped
      modeless := fun stopped => by simp [running] at stopped }
  | modeless stopped unlisted =>
    have empty := Mode.choose?_eq_none_iff.mp unlisted
    exact {
      adopted := fun running => by simp [stopped] at running
      committed := fun _ mode favourite => by simp [empty, Mode.favourite?] at favourite
      modeless := fun _ _ => ⟨by simpa using reads, rfl⟩ }
  | @committed stopped chosen preferred _ result _ commit =>
    have listed : connector.modes ≠ [] := List.ne_nil_of_mem (Mode.mem_of_choose? preferred)
    -- No listed mode is asked for in particular, so the choice falls on the favourite.
    rw [Mode.choose?_eq_favourite? fun _ _ => rfl] at preferred
    refine {
      adopted := fun running => by simp [stopped] at running
      committed := fun _ mode favourite => ?_
      modeless := fun _ empty => absurd empty listed }
    obtain rfl := Option.some.inj (preferred.symm.trans favourite)
    exact ⟨walk, rest, result, rfl, reads, commit, rfl⟩

/-- To bring a display up may fail, but not for want of an object. -/
theorem BroughtUp.isUnresolved_eq_false {error : Error}
    (way : BroughtUp config (Output.idle.withDisplay connector encoder crtc) connector crtc events
      (.error error, output)) : error.isUnresolved = false := by
  rcases (way.error_iff rfl error).mp rfl with ⟨event, -, refusal⟩ | ⟨-, rfl⟩
  · exact isUnresolved_of_refusal refusal
  · rfl

/-- A display that has been brought up is not missing. -/
theorem BroughtUp.ne_disconnected {after : Output}
    (way : BroughtUp config output connector crtc events (outcome, after)) :
    outcome ≠ .ok .disconnected := by
  cases way with
  | adopted | modeless => nofun
  | @committed _ _ _ _ result => cases result <;> nofun

/-- With a display at a connector, what is done with what a walk has found agrees with the topology,
and there is no telling that the display is missing. -/
theorem served_of_run_conclude {view : View} {walk rest : List (Event Platform)}
    (reads : ∀ event ∈ walk, event.IsRead)
    (run : (conclude config slot .idle (view.leadFrom config slot topology connector)).Run rest
      (outcome, output)) :
    Served config slot view topology connector (walk ++ rest) outcome output ∧
      outcome ≠ .error (.connectorNotFound slot.device (config.output slot).connector.title) ∧
      outcome ≠ .ok .disconnected := by
  unfold View.leadFrom at run
  cases serving : view.encoderFor config slot topology connector with
  | none =>
    obtain ⟨rfl, rfl, rfl⟩ : rest = [] ∧ outcome = .error
        (.encoderResolution s!"no usable encoder for {connector.name}") ∧ output = .idle := by
      simpa [serving, conclude] using run
    refine ⟨?_, by simp, by simp⟩
    exact {
      noEncoder := iff_of_true rfl serving
      noCrtc := by simp [serving]
      begun := by simp [serving] }
  | some encoder =>
  cases feeding : view.crtcFor topology encoder with
  | none =>
    obtain ⟨rfl, rfl, rfl⟩ : rest = [] ∧ outcome = .error
        (.crtcResolution s!"no usable CRTC for encoder {encoder.id}") ∧ output = .idle := by
      simpa [serving, feeding, conclude] using run
    refine ⟨?_, by simp, by simp⟩
    exact {
      noEncoder := by simp [serving]
      noCrtc := by simp [serving, feeding]
      begun := by simp [serving, feeding] }
  | some crtc =>
    simp only [serving, feeding, conclude] at run
    have way := @broughtUp_of_run rest config slot
      (Output.idle.withDisplay connector encoder crtc) connector crtc rfl _ run
    -- What goes wrong from here on does not tell of a missing object.
    have resolved (error : Error) (missing : error.isUnresolved = true) :
        outcome ≠ .error error := by
      rintro rfl
      rw [way.isUnresolved_eq_false] at missing
      cases missing
    refine ⟨?_, resolved _ rfl, way.ne_disconnected⟩
    exact {
      noEncoder := iff_of_false (resolved _ rfl) (by simp [serving])
      noCrtc := by simpa [serving, feeding] using resolved _ rfl
      begun := by simpa [serving, feeding] using way.begun reads }

/-- What is done with what a walk has found agrees with the topology. -/
theorem resolution_of_run_conclude {view : View} {walk rest : List (Event Platform)}
    (reads : ∀ event ∈ walk, event.IsRead)
    (run : (conclude config slot .idle (view.lead config slot topology)).Run rest
      (outcome, output)) :
    Resolution config slot view topology (walk ++ rest) outcome output := by
  unfold View.lead at run
  cases sought : View.connectorFor config slot topology with
  | none =>
    obtain ⟨rfl, rfl, rfl⟩ : rest = [] ∧ outcome = .error
        (.connectorNotFound slot.device (config.output slot).connector.title) ∧ output = .idle := by
      simpa [sought, conclude] using run
    exact {
      noConnector := iff_of_true rfl sought
      unplugged := by simp [sought]
      served := by simp [sought] }
  | some connector =>
  simp only [sought] at run
  by_cases plugged : connector.isConnected = true
  case neg =>
    obtain ⟨rfl, rfl, rfl⟩ : rest = [] ∧ outcome = .ok .disconnected ∧ output = .idle := by
      simpa [plugged, conclude] using run
    have unplugged : connector.connection ≠ .connected := by
      simpa [Connector.isConnected] using plugged
    exact {
      noConnector := by simp [sought]
      unplugged := iff_of_true rfl ⟨connector, sought, unplugged⟩
      served := by simp [sought, unplugged] }
  rw [if_pos plugged] at run
  have connected : connector.connection = .connected := by
    simpa [Connector.isConnected] using plugged
  obtain ⟨served, noConnector, unplugged⟩ := served_of_run_conclude reads run
  exact {
    noConnector := iff_of_false noConnector (by simp [sought])
    unplugged := iff_of_false unplugged (by simp [sought, connected])
    served := by simpa [sought] using fun _ => served }

end Output

namespace Manager

variable {manager after : Manager} {slot : Slot} {events : List (Event Platform)}
  {result : Except Error Outcome}

/-- What a detection reports of its discovery. -/
inductive Reports (manager : Manager) (slot : Slot) :
    Except Error Outcome → Output → Except Error Outcome → Manager → Prop
  /-- The slot holds what the discovery has found. -/
  | found (outcome : Outcome) (output : Output) :
      Reports manager slot (.ok outcome) output (.ok outcome) (manager.hold slot output)
  /-- The slot is idle, and for the external one a missing object is no error. -/
  | failed (error : Error) (output : Output) :
      Reports manager slot (.error error) output (undetected slot error) (manager.hold slot .idle)

/-- A detection gives up what its slot held, makes a discovery for the idle slot, and reports it. -/
theorem exists_reports_of_run (isOpen : manager.isOpen = true)
    (run : (manager.detect slot.device).Run events (result, after)) :
    ∃ before walk outcome output, events = before ++ walk ∧
      Framebuffer.Retired (manager.output slot).framebuffer before ∧
      (Output.discover manager.config slot .idle).Run walk (outcome, output) ∧
      manager.Reports slot outcome output result after := by
  have run_slot : (manager.detectSlot slot).Run events (result, after) := by
    simpa [detect, isOpen] using run
  obtain ⟨before, walk, rfl, retired, way⟩ := exists_discovery_of_run run_slot
  rcases way with ⟨outcome, output, discover, same⟩ | ⟨error, output, discover, same⟩
  · obtain ⟨rfl, rfl⟩ := Prod.mk.inj same
    exact ⟨before, walk, _, output, rfl, retired, discover, .found outcome output⟩
  · obtain ⟨rfl, rfl⟩ := Prod.mk.inj same
    exact ⟨before, walk, _, output, rfl, retired, discover, .failed error output⟩

end Manager

namespace Observed

variable {σ : Type} {step : σ → Event Platform → σ → Prop} {view : σ → View}
  {manager after : Manager} {slot : Slot} {events : List (Event Platform)}
  {result : Except Error Outcome} {s t : σ}

/-- A detection gives its slot up, walks, and concludes from where the walk has led. It leads where
the view says that the device shows once the slot has been given up. -/
theorem exists_stages_of_run (observed : Observed step view) (isOpen : manager.isOpen = true)
    (run : (manager.detect slot.device).Run events (result, after))
    (path : Follows step s events t) :
    ∃ before walk rest u r outcome output, events = before ++ (walk ++ rest) ∧
      Framebuffer.Retired (manager.output slot).framebuffer before ∧ Follows step s before u ∧
      (∀ event ∈ walk, event.IsRead) ∧ Follows step u walk r ∧
      (Output.conclude manager.config slot .idle ((view u).survey manager.config slot)).Run rest
        (outcome, output) ∧ Follows step r rest t ∧
      manager.Reports slot outcome output result after := by
  obtain ⟨before, others, outcome, output, rfl, retired, discover, reports⟩ :=
    Manager.exists_reports_of_run isOpen run
  obtain ⟨u, reset, onward⟩ := Follows.append_iff.mp path
  -- The walk starts in the state that the reset has left.
  rw [Output.discover_eq] at discover
  obtain ⟨walk, led, rest, walk_run, conclude, rfl⟩ := run_bind_iff.mp discover
  obtain ⟨r, walked, last⟩ := Follows.append_iff.mp onward
  obtain ⟨rfl, -⟩ := (observed.yields_survey u rfl).holds walk_run walked
  exact ⟨before, walk, rest, u, r, outcome, output, rfl, retired, reset,
    (Output.walk_of_run walk_run).isRead, walked, conclude, last, reports⟩

/-- The walk of a detection leads where the view says that the device shows once the slot has been
given up. -/
theorem exists_survey_of_run (observed : Observed step view) (isOpen : manager.isOpen = true)
    (run : (manager.detect slot.device).Run events (result, after))
    (path : Follows step s events t) :
    ∃ before walk rest u outcome output, events = before ++ (walk ++ rest) ∧
      Framebuffer.Retired (manager.output slot).framebuffer before ∧ Follows step s before u ∧
      (∀ event ∈ walk, event.IsRead) ∧
      (Output.conclude manager.config slot .idle ((view u).survey manager.config slot)).Run rest
        (outcome, output) ∧
      manager.Reports slot outcome output result after := by
  obtain ⟨before, walk, rest, u, _, outcome, output, parts, retired, reset, reads, -, conclude, -,
    reports⟩ := observed.exists_stages_of_run isOpen run path
  exact ⟨before, walk, rest, u, outcome, output, parts, retired, reset, reads, conclude, reports⟩

/-- Whatever a detection does on a device that is observed, it agrees with the topology that would
be read once its slot has been given up. If that cannot be read, the detection fails in the same
way. Otherwise the objects that serve the display, and its first mode, are those that can be picked
from it. -/
theorem detection_agrees (observed : Observed step view) (isOpen : manager.isOpen = true)
    (run : (manager.detect slot.device).Run events (result, after))
    (path : Follows step s events t) :
    ∃ before others u outcome output, events = before ++ others ∧
      Framebuffer.Retired (manager.output slot).framebuffer before ∧ Follows step s before u ∧
      manager.Reports slot outcome output result after ∧
      manager.topology.Ends step u fun told _ =>
        (∀ error, told = .error error →
          (∃ fault : Fault, error = .resourceQuery fault.message) ∧ result = .error error) ∧
        ∀ topology, told = .ok topology →
          Output.Resolution manager.config slot (view u) topology others outcome output := by
  obtain ⟨before, walk, rest, u, outcome, output, rfl, retired, reset, reads, conclude, reports⟩ :=
    observed.exists_survey_of_run isOpen run path
  refine ⟨before, walk ++ rest, u, outcome, output, rfl, retired, reset, reports, ?_⟩
  -- Both the topology and where the walk has led are known from what is shown in this state.
  refine (observed.yields_topology isOpen u rfl).mono ?_
  rintro told - ⟨rfl, -⟩
  unfold View.survey at conclude
  unfold View.topology
  cases listed : (view u).resources with
  | error fault =>
    obtain ⟨rfl, rfl, rfl⟩ :
        rest = [] ∧ outcome = .error (.resourceQuery fault.message) ∧ output = .idle := by
      simpa [listed, Output.conclude] using conclude
    have failed : result = .error (.resourceQuery fault.message) := by
      cases reports
      simp [Manager.undetected, Error.isUnresolved, Error.root]
    refine ⟨?_, by simp⟩
    rintro error same
    obtain rfl := Except.error.inj same
    exact ⟨⟨fault, rfl⟩, failed⟩
  | ok resources =>
    simp only [listed] at conclude
    refine ⟨by simp, ?_⟩
    rintro topology same
    obtain rfl := Except.ok.inj same
    exact Output.resolution_of_run_conclude reads conclude

end Observed

/-! ## A display that is looked for again

The display of the session shows its native mode when it is looked for. Since its framebuffer is
given up first, its CRTC is found running no mode. -/

namespace Session

open Simulation Simulation.Kernel

/-- The kernel of the session while it shows the native mode. Its list of connectors has an empty
entry and one that it cannot describe. -/
def holed : Kernel where
  connectors := [⟨20, ⟨30, 11, 1, 1, ⟨160, 90⟩, [native, slow], [30]⟩, [], []⟩]
  encoders := [⟨30, ⟨2, 40, 1⟩⟩]
  crtcs := [settle 100 0 0 (some native) crtc]
  listedConnectors := some [0, 9, 20]
  listedFramebuffers := some []
  framebuffers := [100]

/-- The kernel after the framebuffer has been given up. -/
def blanked : Kernel := { holed with crtcs := [crtc], framebuffers := [] }

/-- The kernel that shows the native mode again. -/
def relit : Kernel :=
  { holed with crtcs := [settle 101 0 0 (some native) crtc], framebuffers := [101] }

/-- The display is looked for again, and gets its mode again. -/
def relighting : List (Event Platform) :=
  [.kms (.removeFramebuffer 100) (.ok ()), .released 7,
    .kms .resources (.ok blanked.listResources), .kms (.connector 9) (.error .noEntry),
    .kms (.connector 20) (.ok connector), .kms (.encoder 30) (.ok encoder),
    .kms (.crtc 40) (.ok crtc), .allocated 64 48 (.ok ⟨7, 256⟩),
    .kms (.addFramebuffer ⟨64, 48, 256, 32, 24, 7⟩) (.ok 101),
    .kms (.setCrtc 40 101 0 0 [20] (some native)) (.ok ())]

theorem run_relighting :
    (manager.detect Slot.external.device).Run relighting (.ok (.connected native),
      manager.hold .external { output with
        crtc := some { crtc with bufferId := 101 }
        framebuffer := some ⟨101, 7, 256⟩ }) :=
  Proc.replay_eq_some_iff.mp rfl

theorem follows_relighting : Follows Describes holed relighting relit := by
  have fresh : ¬ blanked.InUse 101 := Kernel.not_inUse (by decide) (by decide)
  let made : Kernel := { blanked with framebuffers := [101] }
  have added : Answers blanked (.kms (.addFramebuffer ⟨64, 48, 256, 32, 24, 7⟩) (.ok 101)) made :=
    .added (by decide) fresh rfl rfl
  have set : Answers made (.kms (.setCrtc 40 101 0 0 [20] (some native)) (.ok ())) relit :=
    @Answers.set made relit 40 101 0 0 0 0 [20] (some native) rfl
  exact ⟨blanked, .unshown rfl (.removed rfl), _, .elsewhere rfl (.released _ _), _, .shown rfl,
    _, .shown rfl, _, .shown rfl, _, .shown rfl, _, .shown rfl, _,
    .elsewhere rfl (.allocated _ _ _ _), _, .unshown rfl added, _, .unshown rfl set, rfl⟩

/-- What has been found agrees with the topology of the kernel that has lost the framebuffer. -/
theorem relighting_agrees :
    ∃ before others u outcome output, relighting = before ++ others ∧
      Framebuffer.Retired (manager.output .external).framebuffer before ∧
      Follows Describes holed before u ∧
      manager.topology.Ends Describes u fun told _ => ∀ topology, told = .ok topology →
        Output.Resolution .default .external u.view topology others outcome output := by
  obtain ⟨before, others, u, outcome, output, parts, retired, reset, -, ends⟩ :=
    observed.detection_agrees rfl run_relighting follows_relighting
  exact ⟨before, others, u, outcome, output, parts, retired, reset,
    ends.mono fun _ _ told => told.2⟩

end Session

end Modeset
