import Modeset.Output.Discovery
import Modeset.Proofs.Run

/-!
# The walk through the objects of a device

On the way to the display of a slot the device is only asked for descriptions. The walk is laid down
here as a relation between its calls and where they lead: of a list every object is asked for until
one is wanted, and an attached object comes before those of a list. A discovery is such a walk and
what is done with what it has found.

## Main definitions

* `Event.IsRead` — a call that only asks for a description
* `Topology.Searched`, `Topology.Resolved` — how an object is looked for
* `Output.Walk` — where a walk has led
* `Output.survey`, `Output.conclude` — the two parts of a discovery

## Main results

* `Topology.isRead_of_run_read` — reading the topology only asks for descriptions
* `Output.discover_eq` — a discovery is made up of its two parts
* `Output.run_survey_iff` — the walk of a discovery goes as laid down, and can go in all these ways
-/

namespace Modeset

open Proc

variable {events others : List (Event Platform)}

/-- Whether a call only asks the device for a description. -/
def Kms.Call.isRead : Kms.Call → Bool
  | .resources | .connector _ | .encoder _ | .crtc _ | .property _ => true
  | .addFramebuffer _ | .removeFramebuffer _ | .setCrtc .. | .setConnectorProperty ..
  | .createDumb .. | .destroyDumb _ | .commandWrite .. | .commandWriteRead .. => false

/-- An event that only asks the device for a description. -/
def Event.IsRead (event : Event Platform) : Prop :=
  ∃ call answer, call.isRead = true ∧ event = .kms call answer

theorem Event.isRead_kms {call : Kms.Call} {answer : Kms.Answer call} (read : call.isRead = true) :
    (Event.kms call answer).IsRead :=
  ⟨call, answer, read, rfl⟩

namespace Topology

section Search

variable {α : Type} {what : String} {describe : UInt32 → Proc Platform (Except Fault α)}
  {event : UInt32 → Except Fault α → Event Platform} {wanted : α → Bool} {ids : List UInt32}
  {found : Option α}

/-- How a list is searched for an object that is wanted. -/
inductive Searched (event : UInt32 → Except Fault α → Event Platform) (wanted : α → Bool) :
    List UInt32 → List (Event Platform) → Option α → Prop
  /-- The whole list has been gone through in vain. -/
  | exhausted : Searched event wanted [] [] none
  /-- An empty entry is passed over. -/
  | empty {ids : List UInt32} {events : List (Event Platform)} {found : Option α}
      (later : Searched event wanted ids events found) :
      Searched event wanted (0 :: ids) events found
  /-- An object that cannot be described, or that is not wanted, is passed over. -/
  | passed {id : UInt32} (listed : id ≠ 0) {answer : Except Fault α}
      (unwanted : ∀ object, answer = .ok object → wanted object = false) {ids : List UInt32}
      {events : List (Event Platform)} {found : Option α}
      (later : Searched event wanted ids events found) :
      Searched event wanted (id :: ids) (event id answer :: events) found
  /-- An object that is wanted ends the search. -/
  | found {id : UInt32} (listed : id ≠ 0) {object : α} (wants : wanted object = true)
      (ids : List UInt32) :
      Searched event wanted (id :: ids) [event id (.ok object)] (some object)

/-- A search goes through the list as laid down, and can go in all these ways. -/
theorem run_findDescribed_iff
    (asks : ∀ id events answer, (describe id).Run events answer ↔ events = [event id answer]) :
    (findDescribed what describe wanted ids).Run events found ↔
      Searched event wanted ids events found := by
  constructor
  · intro run
    induction ids generalizing events with
    | nil =>
      obtain ⟨rfl, rfl⟩ := run_done_iff.mp run
      exact .exhausted
    | cons id ids ih =>
      unfold findDescribed describeEntry at run
      by_cases empty : id = 0
      · subst empty
        exact .empty (ih (by simpa using run))
      simp only [empty, if_false, LawfulMonad.bind_assoc] at run
      obtain ⟨first, answer, rest, asked, next, rfl⟩ := run_bind_iff.mp run
      obtain rfl := (asks id first answer).mp asked
      cases answer with
      | error fault => exact .passed empty (by simp) (ih (by simpa using next))
      | ok object =>
        by_cases wants : wanted object = true
        · obtain ⟨rfl, rfl⟩ : rest = [] ∧ found = some object := by simpa [wants] using next
          exact .found empty wants ids
        · exact .passed empty (by simpa using wants) (ih (by simpa [wants] using next))
  · intro searched
    have described (id : UInt32) (answer : Except Fault α) :
        (describe id).Run [event id answer] answer := (asks id _ answer).mpr rfl
    induction searched with
    | exhausted => exact .done _
    | empty later ih => simpa [findDescribed, describeEntry] using ih
    | @passed id listed answer unwanted _ _ _ later ih =>
      unfold findDescribed describeEntry
      simp only [listed, if_false, LawfulMonad.bind_assoc]
      refine (described id answer).bind ?_
      cases answer with
      | error fault => simpa using ih
      | ok object => simpa [unwanted object rfl] using ih
    | @found id listed object wants ids =>
      unfold findDescribed describeEntry
      simp only [listed, if_false, LawfulMonad.bind_assoc]
      exact (described id _).bind (by simp [wants])

/-- How the object for another one is looked for: the attached one is taken if the device can
describe it, and otherwise a list is searched. -/
inductive Resolved (event : UInt32 → Except Fault α → Event Platform) (wanted : α → Bool)
    (id : UInt32) (ids : List UInt32) : List (Event Platform) → Option α → Prop
  | attached (attached : id ≠ 0) (object : α) :
      Resolved event wanted id ids [event id (.ok object)] (some object)
  | undescribed (attached : id ≠ 0) (fault : Fault) {events : List (Event Platform)}
      {found : Option α} (searched : Searched event wanted ids events found) :
      Resolved event wanted id ids (event id (.error fault) :: events) found
  | detached (detached : id = 0) {events : List (Event Platform)} {found : Option α}
      (searched : Searched event wanted ids events found) :
      Resolved event wanted id ids events found

/-- What holds of every description holds of events that only ask for descriptions. -/
theorem forall_mem_of_asks {good : Event Platform → Prop}
    (asks : ∀ e ∈ events, ∃ id answer, e = event id answer)
    (holds : ∀ id answer, good (event id answer)) : ∀ e ∈ events, good e := by
  intro e member
  obtain ⟨id, answer, rfl⟩ := asks e member
  exact holds id answer

/-- All that a search does is to ask for descriptions. -/
theorem Searched.asks (searched : Searched event wanted ids events found) :
    ∀ e ∈ events, ∃ id answer, e = event id answer := by
  induction searched with
  | exhausted => simp
  | empty _ ih => exact ih
  | @passed id _ answer _ _ _ _ _ ih => exact List.forall_mem_cons.mpr ⟨⟨id, answer, rfl⟩, ih⟩
  | @found id _ object => exact List.forall_mem_singleton.mpr ⟨id, .ok object, rfl⟩

theorem Resolved.asks {id : UInt32} (resolved : Resolved event wanted id ids events found) :
    ∀ e ∈ events, ∃ id answer, e = event id answer := by
  cases resolved with
  | attached _ object => exact List.forall_mem_singleton.mpr ⟨id, .ok object, rfl⟩
  | undescribed _ fault searched =>
    exact List.forall_mem_cons.mpr ⟨⟨id, .error fault, rfl⟩, searched.asks⟩
  | detached _ searched => exact searched.asks

/-- The object for another one is looked for as laid down, and can be in all these ways. -/
theorem run_attachedOr_iff
    (asks : ∀ id events answer, (describe id).Run events answer ↔ events = [event id answer])
    {id : UInt32} {told : String} {undescribed : Fault → String} {scan : Proc Platform (Option α)}
    (scans : ∀ events found, scan.Run events found ↔ Searched event wanted ids events found) :
    (attachedOr describe id told undescribed scan).Run events found ↔
      Resolved event wanted id ids events found := by
  unfold attachedOr
  by_cases detached : id = 0
  · simp only [detached, if_true]
    rw [scans]
    constructor
    · exact .detached rfl
    · rintro (absent | absent | ⟨-, searched⟩)
      · exact absurd rfl absent
      · exact absurd rfl absent
      · exact searched
  simp only [detached, if_false, info, run_log_bind_iff]
  constructor
  · intro run
    obtain ⟨first, answer, rest, asked, next, rfl⟩ := run_bind_iff.mp run
    obtain rfl := (asks id first answer).mp asked
    cases answer with
    | ok object =>
      obtain ⟨rfl, rfl⟩ := run_done_iff.mp next
      exact .attached detached object
    | error fault => exact .undescribed detached fault ((scans rest found).mp (by simpa using next))
  · rintro (⟨-, object⟩ | ⟨-, fault, searched⟩ | ⟨absent, -⟩)
    · exact ((asks id _ (.ok object)).mpr rfl).bind (.done _)
    · refine ((asks id _ (.error fault)).mpr rfl).bind ?_
      simpa using (scans _ found).mpr searched
    · exact absurd absent detached

/-- Describing a whole list only asks for descriptions. -/
theorem asks_of_run_describeAll
    (asks : ∀ id events answer, (describe id).Run events answer ↔ events = [event id answer])
    {all : List α} (run : (describeAll what describe ids).Run events all) :
    ∀ e ∈ events, ∃ id answer, e = event id answer := by
  induction ids generalizing events all with
  | nil =>
    obtain ⟨rfl, rfl⟩ := run_done_iff.mp run
    simp
  | cons id ids ih =>
    unfold describeAll describeEntry at run
    by_cases empty : id = 0
    · exact ih (by simpa [empty] using run)
    simp only [empty, if_false, LawfulMonad.bind_assoc] at run
    obtain ⟨first, answer, rest, asked, next, rfl⟩ := run_bind_iff.mp run
    obtain rfl := (asks id first answer).mp asked
    refine List.forall_mem_cons.mpr ⟨⟨id, answer, rfl⟩, ?_⟩
    cases answer with
    | error fault => exact ih (by simpa using next)
    | ok object =>
      obtain ⟨others, objects, last, later, final, rfl⟩ := run_bind_iff.mp (by simpa using next)
      obtain ⟨rfl, rfl⟩ := run_done_iff.mp final
      rw [List.append_nil]
      exact ih later

end Search

theorem run_connector_iff (id : UInt32) (events : List (Event Platform))
    (answer : Except Fault Connector) :
    (connector id).Run events answer ↔ events = [.kms (.connector id) answer] :=
  Platform.run_kms_iff

theorem run_encoder_iff (id : UInt32) (events : List (Event Platform))
    (answer : Except Fault Encoder) :
    (encoder id).Run events answer ↔ events = [.kms (.encoder id) answer] :=
  Platform.run_kms_iff

theorem run_crtc_iff (id : UInt32) (events : List (Event Platform))
    (answer : Except Fault Crtc) :
    (crtc id).Run events answer ↔ events = [.kms (.crtc id) answer] :=
  Platform.run_kms_iff

/-- Reading everything that the device describes only asks for descriptions. -/
theorem isRead_of_run_read {result : Except Error Topology} (run : read.Run events result) :
    ∀ event ∈ events, event.IsRead := by
  unfold read listResources at run
  simp only [LawfulMonad.bind_assoc, Platform.run_kms_bind_iff] at run
  obtain ⟨listed, events, rfl, run⟩ := run
  refine List.forall_mem_cons.mpr ⟨Event.isRead_kms rfl, ?_⟩
  cases listed with
  | error fault =>
    obtain ⟨rfl, rfl⟩ : events = [] ∧ result = _ := by simpa using run
    simp
  | ok resources =>
  simp only [pure_eq, bind_done] at run
  obtain ⟨first, connectors, _, first_run, next, rfl⟩ := run_bind_iff.mp run
  obtain ⟨second, encoders, _, second_run, last, rfl⟩ := run_bind_iff.mp next
  obtain ⟨third, crtcs, _, third_run, final, rfl⟩ := run_bind_iff.mp last
  obtain ⟨rfl, rfl⟩ := run_done_iff.mp final
  have first_asks := asks_of_run_describeAll run_connector_iff first_run
  have second_asks := asks_of_run_describeAll run_encoder_iff second_run
  have third_asks := asks_of_run_describeAll run_crtc_iff third_run
  simp only [List.append_nil, List.forall_mem_append]
  exact ⟨forall_mem_of_asks first_asks fun _ _ => Event.isRead_kms rfl,
    forall_mem_of_asks second_asks fun _ _ => Event.isRead_kms rfl,
    forall_mem_of_asks third_asks fun _ _ => Event.isRead_kms rfl⟩

end Topology

namespace Output

variable {config : Config} {slot : Slot} {output : Output} {resources : ResourceList}

/-- How a connector of the configured kind is looked for. -/
abbrev SeeksConnector (config : Config) (slot : Slot) (resources : ResourceList) :
    List (Event Platform) → Option Connector → Prop :=
  Topology.Searched (fun id answer => .kms (.connector id) answer)
    (fun connector => connector.kind = (config.output slot).connector) resources.connectors

/-- How an encoder for a connector is looked for: the attached one, or one of the configured
kind. -/
abbrev SeeksEncoder (config : Config) (slot : Slot) (resources : ResourceList)
    (connector : Connector) : List (Event Platform) → Option Encoder → Prop :=
  Topology.Resolved (fun id answer => .kms (.encoder id) answer)
    (fun encoder => encoder.kind = (config.output slot).encoder) connector.encoderId
    resources.encoders

/-- How a CRTC for an encoder is looked for: the attached one, or a spare one. -/
abbrev SeeksCrtc (resources : ResourceList) (encoder : Encoder) :
    List (Event Platform) → Option Crtc → Prop :=
  Topology.Resolved (fun id answer => .kms (.crtc id) answer) Crtc.isSpare encoder.crtcId
    resources.crtcs

/-- Where a walk can lead. -/
inductive Survey
  /-- The device does not say what it has. -/
  | unlisted (fault : Fault)
  /-- There is no connector, no encoder or no CRTC. -/
  | unresolved (error : Error)
  /-- No display is plugged in. -/
  | unplugged
  /-- A display is served by these objects. -/
  | found (connector : Connector) (encoder : Encoder) (crtc : Crtc)

/-- Where a walk has led, by its calls and their answers. -/
inductive Walk (config : Config) (slot : Slot) : List (Event Platform) → Survey → Prop
  | unlisted (fault : Fault) :
      Walk config slot [.kms .resources (.error fault)] (.unlisted fault)
  | noConnector {resources : ResourceList} {search : List (Event Platform)}
      (missed : SeeksConnector config slot resources search none) :
      Walk config slot (.kms .resources (.ok resources) :: search)
        (.unresolved (.connectorNotFound slot.device (config.output slot).connector.title))
  | unplugged {resources : ResourceList} {search : List (Event Platform)} {connector : Connector}
      (listed : SeeksConnector config slot resources search (some connector))
      (unplugged : connector.connection ≠ .connected) :
      Walk config slot (.kms .resources (.ok resources) :: search) .unplugged
  | noEncoder {resources : ResourceList} {search first : List (Event Platform)}
      {connector : Connector}
      (listed : SeeksConnector config slot resources search (some connector))
      (plugged : connector.connection = .connected)
      (missed : SeeksEncoder config slot resources connector first none) :
      Walk config slot (.kms .resources (.ok resources) :: (search ++ first))
        (.unresolved (.encoderResolution s!"no usable encoder for {connector.name}"))
  | noCrtc {resources : ResourceList} {search first second : List (Event Platform)}
      {connector : Connector}
      (listed : SeeksConnector config slot resources search (some connector))
      (plugged : connector.connection = .connected) {encoder : Encoder}
      (served : SeeksEncoder config slot resources connector first (some encoder))
      (missed : SeeksCrtc resources encoder second none) :
      Walk config slot (.kms .resources (.ok resources) :: (search ++ (first ++ second)))
        (.unresolved (.crtcResolution s!"no usable CRTC for encoder {encoder.id}"))
  | found {resources : ResourceList} {search first second : List (Event Platform)}
      {connector : Connector}
      (listed : SeeksConnector config slot resources search (some connector))
      (plugged : connector.connection = .connected) {encoder : Encoder}
      (served : SeeksEncoder config slot resources connector first (some encoder)) {crtc : Crtc}
      (fed : SeeksCrtc resources encoder second (some crtc)) :
      Walk config slot (.kms .resources (.ok resources) :: (search ++ (first ++ second)))
        (.found connector encoder crtc)

/-- The walk of a discovery, apart from what is done with what it has found. -/
def survey (config : Config) (slot : Slot) : Proc Platform Survey := do
  match ← Platform.kms .resources with
  | .error fault =>
    Proc.error .discovery s!"Failed to get DRM resources: {fault.message}"
    return .unlisted fault
  | .ok resources =>
    let wanted := config.output slot
    match ← Topology.findDescribed "connector" Topology.connector (·.kind = wanted.connector)
        resources.connectors with
    | none => return .unresolved (.connectorNotFound slot.device wanted.connector.title)
    | some connector =>
      if connector.isConnected then
        match ← resolveEncoder resources connector wanted.encoder with
        | none => return .unresolved (.encoderResolution s!"no usable encoder for {connector.name}")
        | some encoder =>
          match ← resolveCrtc resources encoder with
          | none => return .unresolved (.crtcResolution s!"no usable CRTC for encoder {encoder.id}")
          | some crtc => return .found connector encoder crtc
      else
        Proc.info .discovery s!"{slot.text} output ({connector.name}) is not connected"
        return .unplugged

/-- What is done with what the walk has found. -/
def conclude (config : Config) (slot : Slot) (output : Output) :
    Survey → Proc Platform (Except Error Outcome × Output)
  | .unlisted fault => return (.error (.resourceQuery fault.message), output)
  | .unresolved error => return (.error error, output)
  | .unplugged => return (.ok .disconnected, output)
  | .found connector encoder crtc =>
    bringUp config slot crtc (output.withDisplay connector encoder crtc)

/-- A discovery is a walk and what is done with what it has found. -/
theorem discover_eq :
    discover config slot output = survey config slot >>= conclude config slot output := by
  unfold discover survey Topology.listResources
  simp only [LawfulMonad.bind_assoc]
  -- Both sides ask the same, so the cases are those of the answers.
  congr 1
  funext answer
  cases answer with
  | error fault => rfl
  | ok resources =>
    simp only [pure_eq, bind_done, LawfulMonad.bind_assoc]
    congr 1
    funext sought
    cases sought with
    | none => rfl
    | some connector =>
      by_cases plugged : connector.isConnected
      case neg => simp [plugged, conclude]
      simp only [plugged, if_true, LawfulMonad.bind_assoc]
      congr 1
      funext served
      cases served with
      | none => rfl
      | some encoder =>
        simp only [LawfulMonad.bind_assoc]
        congr 1
        funext fed
        cases fed <;> rfl

theorem run_connectorSearch_iff {search : List (Event Platform)} {found : Option Connector} :
    (Topology.findDescribed "connector" Topology.connector
        (·.kind = (config.output slot).connector) resources.connectors).Run search found ↔
      SeeksConnector config slot resources search found :=
  Topology.run_findDescribed_iff Topology.run_connector_iff

theorem run_resolveEncoder_iff {connector : Connector} {first : List (Event Platform)}
    {found : Option Encoder} :
    (resolveEncoder resources connector (config.output slot).encoder).Run first found ↔
      SeeksEncoder config slot resources connector first found := by
  refine Topology.run_attachedOr_iff Topology.run_encoder_iff fun events found => ?_
  simp only [debug, run_log_bind_iff]
  exact Topology.run_findDescribed_iff Topology.run_encoder_iff

theorem run_resolveCrtc_iff {encoder : Encoder} {second : List (Event Platform)}
    {found : Option Crtc} :
    (resolveCrtc resources encoder).Run second found ↔
      SeeksCrtc resources encoder second found := by
  refine Topology.run_attachedOr_iff Topology.run_crtc_iff fun events found => ?_
  simp only [debug, run_log_bind_iff]
  exact Topology.run_findDescribed_iff Topology.run_crtc_iff

/-- The walk goes as laid down. -/
theorem walk_of_run {led : Survey} (run : (survey config slot).Run events led) :
    Walk config slot events led := by
  simp only [survey, Platform.run_kms_bind_iff] at run
  obtain ⟨listed, events, rfl, run⟩ := run
  cases listed with
  | error fault =>
    obtain ⟨rfl, rfl⟩ : events = [] ∧ led = _ := by simpa using run
    exact .unlisted fault
  | ok resources =>
  obtain ⟨search, sought, events, search_run, run, rfl⟩ := run_bind_iff.mp run
  have searched := run_connectorSearch_iff.mp search_run
  cases sought with
  | none =>
    obtain ⟨rfl, rfl⟩ := run_done_iff.mp run
    rw [List.append_nil]
    exact .noConnector searched
  | some connector =>
  by_cases plugged : connector.isConnected
  case neg =>
    obtain ⟨rfl, rfl⟩ : events = [] ∧ led = _ := by simpa [plugged] using run
    rw [List.append_nil]
    exact .unplugged searched (by simpa [Connector.isConnected] using plugged)
  simp only [plugged, if_true] at run
  have plugged : connector.connection = .connected := by
    simpa [Connector.isConnected] using plugged
  obtain ⟨first, served, events, first_run, run, rfl⟩ := run_bind_iff.mp run
  have resolved := run_resolveEncoder_iff.mp first_run
  cases served with
  | none =>
    obtain ⟨rfl, rfl⟩ := run_done_iff.mp run
    rw [List.append_nil]
    exact .noEncoder searched plugged resolved
  | some encoder =>
  obtain ⟨second, fed, events, second_run, run, rfl⟩ := run_bind_iff.mp run
  have fed_by := run_resolveCrtc_iff.mp second_run
  cases fed with
  | none =>
    obtain ⟨rfl, rfl⟩ := run_done_iff.mp run
    rw [List.append_nil]
    exact .noCrtc searched plugged resolved fed_by
  | some crtc =>
    obtain ⟨rfl, rfl⟩ := run_done_iff.mp run
    rw [List.append_nil]
    exact .found searched plugged resolved fed_by

/-- Every walk that is laid down is one that a discovery can go. -/
theorem Walk.run {led : Survey} (walk : Walk config slot events led) :
    (survey config slot).Run events led := by
  simp only [survey, Platform.run_kms_bind_iff]
  cases walk with
  | unlisted fault => exact ⟨_, _, rfl, by simp⟩
  | noConnector missed =>
    exact ⟨_, _, rfl, (run_connectorSearch_iff.mpr missed).bind_nil (.done _)⟩
  | unplugged listed unplugged =>
    refine ⟨_, _, rfl, (run_connectorSearch_iff.mpr listed).bind_nil ?_⟩
    simp [Connector.isConnected, unplugged]
  | noEncoder listed plugged missed =>
    refine ⟨_, _, rfl, (run_connectorSearch_iff.mpr listed).bind ?_⟩
    simp only [Connector.isConnected, plugged, decide_true, if_true]
    exact (run_resolveEncoder_iff.mpr missed).bind_nil (.done _)
  | noCrtc listed plugged served missed =>
    refine ⟨_, _, rfl, (run_connectorSearch_iff.mpr listed).bind ?_⟩
    simp only [Connector.isConnected, plugged, decide_true, if_true]
    refine (run_resolveEncoder_iff.mpr served).bind ?_
    exact (run_resolveCrtc_iff.mpr missed).bind_nil (.done _)
  | found listed plugged served fed =>
    refine ⟨_, _, rfl, (run_connectorSearch_iff.mpr listed).bind ?_⟩
    simp only [Connector.isConnected, plugged, decide_true, if_true]
    refine (run_resolveEncoder_iff.mpr served).bind ?_
    exact (run_resolveCrtc_iff.mpr fed).bind_nil (.done _)

/-- The walk of a discovery goes as laid down, and can go in all these ways. -/
theorem run_survey_iff {led : Survey} :
    (survey config slot).Run events led ↔ Walk config slot events led :=
  ⟨walk_of_run, Walk.run⟩

namespace Walk

variable {led other : Survey} {walk rest last : List (Event Platform)}

/-- Where a walk leads is determined by its calls and their answers. -/
theorem eq_of_append_eq (first : Walk config slot walk led) (second : Walk config slot others other)
    (same : walk ++ rest = others ++ last) : walk = others ∧ led = other :=
  first.run.eq_of_append_eq second.run same

/-- What holds of every answer to a question of a walk holds all along the walk. -/
theorem forall_mem {good : Event Platform → Prop} (walked : Walk config slot walk led)
    (unlisted : ∀ fault, led = .unlisted fault → good (.kms .resources (.error fault)))
    (listed : ∀ resources, good (.kms .resources (.ok resources)))
    (connectors : ∀ id answer, good (.kms (.connector id) answer))
    (encoders : ∀ id answer, good (.kms (.encoder id) answer))
    (crtcs : ∀ id answer, good (.kms (.crtc id) answer)) : ∀ event ∈ walk, good event := by
  cases walked with
  | unlisted fault => exact List.forall_mem_singleton.mpr (unlisted fault rfl)
  | noConnector sought | unplugged sought =>
    exact List.forall_mem_cons.mpr ⟨listed _, Topology.forall_mem_of_asks sought.asks connectors⟩
  | noEncoder sought _ served =>
    simp only [List.forall_mem_cons, List.forall_mem_append]
    exact ⟨listed _, Topology.forall_mem_of_asks sought.asks connectors,
      Topology.forall_mem_of_asks served.asks encoders⟩
  | noCrtc sought _ served fed | found sought _ served fed =>
    simp only [List.forall_mem_cons, List.forall_mem_append]
    exact ⟨listed _, Topology.forall_mem_of_asks sought.asks connectors,
      Topology.forall_mem_of_asks served.asks encoders,
      Topology.forall_mem_of_asks fed.asks crtcs⟩

/-- All that is done on a walk is to ask for descriptions. -/
theorem isRead (walked : Walk config slot walk led) : ∀ event ∈ walk, event.IsRead :=
  walked.forall_mem (fun _ _ => Event.isRead_kms rfl) (fun _ => Event.isRead_kms rfl)
    (fun _ _ => Event.isRead_kms rfl) (fun _ _ => Event.isRead_kms rfl)
    (fun _ _ => Event.isRead_kms rfl)

/-- A discovery is a walk by itself only if nothing comes after its walk. -/
theorem append_iff (walked : Walk config slot walk led) :
    Walk config slot (walk ++ rest) other ↔ led = other ∧ rest = [] := by
  constructor
  · intro whole
    have same : walk ++ rest = walk ++ rest ++ [] := (List.append_nil _).symm
    obtain ⟨alone, rfl⟩ := walked.eq_of_append_eq whole same
    exact ⟨rfl, List.self_eq_append_right.mp alone⟩
  · rintro ⟨rfl, rfl⟩
    rwa [List.append_nil]

/-- What a walk in vain returns tells that an object is missing. -/
theorem isUnresolved {error : Error} (walked : Walk config slot walk (.unresolved error)) :
    error.isUnresolved = true := by
  cases walked <;> rfl

end Walk

end Output

end Modeset
