import Modeset.Proofs.Operation

/-!
# Switching a display is one call

To switch a display on or off, the manager asks for the properties of its connector, one after the
other, until one is described with the right name, and sets this one. What the device says of a
property may depend on when it is asked, and even on how often; so what it says is known here by the
place of the property in the list. A property that the device does not describe is passed over like
one of another name.

## Main definitions

* `Manager.Describes` — what the device says of the property at each place of a list
* `Manager.FirstPower` — where the property stands that is set
* `Manager.Switched` — what can become of a list of properties
* `Manager.TouchesDpms` — what the device is told to do about a display

## Main results

* `Manager.switched_of_run` — the list is gone through as far as to the property that is set
* `Manager.setPower_touches_dpms` — at most that property is set, and nothing else is touched
-/

namespace Modeset

open Proc

/-- Which property of which connector the device was to set, and to what value. -/
def Event.switched (event : Event Platform) : Option (UInt32 × UInt32 × UInt64) :=
  match event with
  | ⟨.inl (.kms (.setConnectorProperty connector id value)), _⟩ => some (connector, id, value)
  | _ => none

namespace Manager

variable {manager after : Manager} {device : UInt32} {power : Power} {connector : Connector}
  {events : List (Event Platform)} {result : Except Error Unit}

/-! ## The property -/

/-- The device has described the property that switches a display. -/
def IsPower (answer : Except Fault Property) : Prop :=
  ∃ property, answer = .ok property ∧ property.name = powerProperty

/-- Of the property that it is asked for at each place, the device says this. -/
def Describes (told : Nat → Except Fault Property) (events : List (Event Platform)) : Prop :=
  ∀ place id answer, events[place]? = some (.kms (.property id) answer) → answer = told place

/-- The first property of a list that is described as the one that switches a display, and its
place. -/
structure FirstPower (told : Nat → Except Fault Property) (ids : List UInt32) (place : Nat)
    (id : UInt32) : Prop where
  listed : ids[place]? = some id
  isPower : IsPower (told place)
  passed : ∀ earlier < place, ¬ IsPower (told earlier)

/-- The device is asked for all properties of a list, one after the other. -/
def questions (told : Nat → Except Fault Property) (ids : List UInt32) : List (Event Platform) :=
  ids.mapIdx fun place id => .kms (.property id) (told place)

/-- What can become of a list of properties: the calls with their answers, and the result. -/
inductive Switched (connector : Connector) (power : Power) (told : Nat → Except Fault Property)
    (ids : List UInt32) : List (Event Platform) → Except Error Unit → Prop
  /-- All have been asked for, and none switches a display. -/
  | unlisted (passed : ∀ place < ids.length, ¬ IsPower (told place)) :
      Switched connector power told ids (questions told ids)
        (.error (.unsupported s!"{connector.name} has no DPMS property"))
  /-- The first that switches a display has been set, or was to be. -/
  | set {place : Nat} {id : UInt32} (first : FirstPower told ids place id)
      (answer : Except Fault Unit) :
      Switched connector power told ids
        (questions told (ids.take (place + 1)) ++
          [.kms (.setConnectorProperty connector.id id power.dpms) answer])
        (answer.mapError fun fault =>
          .inContext s!"setting DPMS on {connector.name}" (.io fault))

variable {told : Nat → Except Fault Property} {ids : List UInt32} {id : UInt32}

/-- What is done about the rest of a list is done about the whole, if its first property is passed
over. -/
theorem Switched.cons (other : ¬ IsPower (told 0))
    (switched : Switched connector power (fun place => told (place + 1)) ids events result) :
    Switched connector power told (id :: ids) (.kms (.property id) (told 0) :: events) result := by
  cases switched with
  | unlisted passed =>
    have all : ∀ place < (id :: ids).length, ¬ IsPower (told place) := by
      intro place bound
      cases place with
      | zero => exact other
      | succ place => exact passed place (Nat.lt_of_succ_lt_succ bound)
    simpa [questions, List.mapIdx_cons] using
      (Switched.unlisted all : Switched connector power told (id :: ids) _ _)
  | @set place target first answer =>
    have later : FirstPower told (id :: ids) (place + 1) target := by
      refine ⟨first.listed, first.isPower, fun earlier bound => ?_⟩
      cases earlier with
      | zero => exact other
      | succ earlier => exact first.passed earlier (Nat.lt_of_succ_lt_succ bound)
    simpa [questions, List.mapIdx_cons] using
      (Switched.set later answer : Switched connector power told (id :: ids) _ _)

/-- The list is gone through as far as to the property that is set. -/
theorem switched_of_run (run : (setPowerProperty connector power ids).Run events result)
    (describes : Describes told events) : Switched connector power told ids events result := by
  -- Behind the first question, what is said of each place is said of the place before it in the
  -- rest of the list.
  induction ids generalizing events told with
  | nil =>
    obtain ⟨rfl, rfl⟩ := run_done_iff.mp run
    exact .unlisted nofun
  | cons id ids ih =>
    simp only [setPowerProperty, Platform.run_kms_bind_iff] at run
    obtain ⟨answer, rest, rfl, run⟩ := run
    obtain rfl := describes 0 id answer rfl
    have rest_describes : Describes (fun place => told (place + 1)) rest :=
      fun place other answer asked => describes (place + 1) other answer asked
    cases described : told 0 with
    | error fault =>
      have other : ¬ IsPower (told 0) := by simp [IsPower, described]
      rw [← described]
      exact (ih (by simpa [described] using run) rest_describes).cons other
    | ok property =>
      rw [← described]
      by_cases named : property.name = powerProperty
      · have first : FirstPower told (id :: ids) 0 id :=
          ⟨rfl, ⟨property, described, named⟩, fun earlier bound => absurd bound (Nat.not_lt_zero _)⟩
        simp only [described, named, ne_eq, not_true, if_false, Platform.run_kms_bind_iff] at run
        obtain ⟨answer, last, rfl, run⟩ := run
        have set : Switched connector power told (id :: ids) _ _ := .set first answer
        cases answer with
        | ok =>
          obtain ⟨rfl, rfl⟩ := run_done_iff.mp run
          exact set
        | error fault =>
          obtain ⟨rfl, rfl⟩ := run_done_iff.mp (run_note_iff.mp run)
          exact set
      · have other : ¬ IsPower (told 0) := by simp [IsPower, described, named]
        exact (ih (by simpa [described, named] using run) rest_describes).cons other

theorem exists_of_mem_questions {event : Event Platform} (asked : event ∈ questions told ids) :
    ∃ id answer, event = .kms (.property id) answer := by
  obtain ⟨place, bound, rfl⟩ := List.mem_mapIdx.mp asked
  exact ⟨_, _, rfl⟩

/-- To ask for a property is not to set one. -/
theorem switched_eq_none {event : Event Platform} (asked : event ∈ questions told ids) :
    event.switched = none := by
  obtain ⟨id, answer, rfl⟩ := exists_of_mem_questions asked
  rfl

theorem filterMap_switched_questions (ids : List UInt32) :
    (questions told ids).filterMap Event.switched = [] :=
  List.filterMap_eq_nil_iff.mpr fun _ => switched_eq_none

/-- Behind questions, what sets a property is the last call. -/
theorem eq_of_mem_questions {event last : Event Platform}
    (member : event ∈ questions told ids ++ [last]) (sets : event.switched.isSome = true) :
    event = last := by
  rcases List.mem_append.mp member with asked | final
  · rw [switched_eq_none asked] at sets
    cases sets
  · exact List.mem_singleton.mp final

/-! ## The call -/

/-- What the device is told to do about the display that a device number names, when it says of the
property at each place of the list that is gone through what `told` says. -/
structure TouchesDpms (manager : Manager) (device : UInt32) (power : Power)
    (told : Nat → Except Fault Property) (events : List (Event Platform))
    (result : Except Error Unit) : Prop where
  /-- If displays may not be switched, the device is not asked for anything. -/
  forbidden : manager.config.powerControl = false → events = []
  /-- Apart from setting a property, it is asked for descriptions of properties only. -/
  asks : ∀ event ∈ events, event.switched = none → ∃ id answer, event = .kms (.property id) answer
  /-- At most one property is set. -/
  once : (events.filterMap Event.switched).length ≤ 1
  /-- One is set just if the display may be switched, and one of its properties switches it. -/
  sets_iff : (∃ event ∈ events, event.switched.isSome = true) ↔
    ∃ connector place, manager.MaySwitch device connector ∧ place < connector.props.length ∧
      IsPower (told place)
  /-- It is the first of these that is set, and of the properties before it nothing but a
  description is asked for. -/
  sets_first : ∀ target id value answer,
    .kms (.setConnectorProperty target id value) answer ∈ events →
      ∃ connector place, manager.MaySwitch device connector ∧
        FirstPower told connector.props place id ∧ target = connector.id ∧
        value = (if power = .on then 0 else 3) ∧
        events = questions told (connector.props.take (place + 1)) ++
          [.kms (.setConnectorProperty target id value) answer]
  /-- What is done has succeeded just if a property has been set. -/
  succeeds_iff : result = .ok () ↔
    ∃ target id value, .kms (.setConnectorProperty target id value) (.ok ()) ∈ events

/-- If nothing may be switched, nothing is. -/
theorem touchesDpms_of_refused {error : Error}
    (refused : manager.switchable device = .error error) :
    manager.TouchesDpms device power told [] (.error error) where
  forbidden _ := rfl
  asks _ member := absurd member List.not_mem_nil
  once := Nat.zero_le 1
  sets_iff := by
    apply iff_of_false
    · simp
    · rintro ⟨connector, place, may, -⟩
      rw [switchable_eq_ok_iff.mpr may] at refused
      cases refused
  sets_first target id value answer member := absurd member List.not_mem_nil
  succeeds_iff := iff_of_false nofun (by simp)

theorem Switched.touchesDpms (may : manager.MaySwitch device connector)
    (switched : Switched connector power told connector.props events result) :
    manager.TouchesDpms device power told events result := by
  have permitted : manager.config.powerControl ≠ false := by simp [may.allowed]
  cases switched with
  | unlisted passed =>
    exact {
      forbidden := fun forbidden => absurd forbidden permitted
      asks := fun event member _ => exists_of_mem_questions member
      once := by
        rw [filterMap_switched_questions]
        exact Nat.zero_le 1
      sets_iff := by
        apply iff_of_false
        · rintro ⟨event, member, sets⟩
          rw [switched_eq_none member] at sets
          cases sets
        · rintro ⟨other, place, also, bound, isPower⟩
          obtain rfl := may.unique also
          exact passed place bound isPower
      sets_first := by
        intro target id value answer member
        cases switched_eq_none member
      succeeds_iff := by
        apply iff_of_false nofun
        rintro ⟨target, id, value, member⟩
        cases switched_eq_none member }
  | @set place id first answer =>
    exact {
      forbidden := fun forbidden => absurd forbidden permitted
      asks := by
        intro event member spares
        rcases List.mem_append.mp member with asked | last
        · exact exists_of_mem_questions asked
        · obtain rfl := List.mem_singleton.mp last
          cases spares
      once := by
        rw [List.filterMap_append, filterMap_switched_questions]
        exact Nat.le_refl 1
      sets_iff := by
        apply iff_of_true
        · exact ⟨_, List.mem_append_right _ (List.mem_singleton_self _), rfl⟩
        · have bound : place < connector.props.length :=
            (List.getElem?_eq_some_iff.mp first.listed).1
          exact ⟨connector, place, may, bound, first.isPower⟩
      sets_first := by
        intro target other value reply member
        cases eq_of_mem_questions member rfl
        refine ⟨connector, place, may, first, rfl, ?_, rfl⟩
        cases power <;> rfl
      succeeds_iff := by
        constructor
        · intro succeeded
          cases answer with
          | ok => exact ⟨_, _, _, List.mem_append_right _ (List.mem_singleton_self _)⟩
          | error fault => cases succeeded
        · rintro ⟨target, other, value, member⟩
          cases eq_of_mem_questions member rfl
          rfl }

/-- Switching a display on or off sets the property of its connector that does so, and touches
nothing else: whatever the device says of the properties, and whatever it answers, at most this one
call changes anything, it is made just if it can be, and no slot changes. -/
theorem setPower_touches_dpms (describes : Describes told events)
    (run : ((Operation.setPower device power).run manager).Run events (result, after)) :
    after = manager ∧ manager.TouchesDpms device power told events result := by
  obtain ⟨switching, same⟩ := Operation.of_run_keeping run
  refine ⟨same, ?_⟩
  rw [run_setPower_iff] at switching
  cases found : manager.switchable device with
  | error error =>
    simp only [found] at switching
    obtain ⟨rfl, rfl⟩ := switching
    exact touchesDpms_of_refused found
  | ok connector =>
    simp only [found] at switching
    exact (switched_of_run switching describes).touchesDpms (switchable_eq_ok_iff.mp found)

end Manager

/-! ## A display that is switched off

The connector lists four properties. The device cannot describe the first one, and the second one
has another name. Two are left, of which the first is set. -/

namespace Session

/-- The manager of the session, which may switch displays, with properties to look through. -/
def dimmable : Manager where
  config := { Config.default with powerControl := true }
  isOpen := true
  outputs := { external := { output with connector := some { connector with
    props := [50, 51, 52, 53] } } }

/-- What the device says of the properties, by their places. -/
def described (place : Nat) : Except Fault Property :=
  [.error .noEntry, .ok ⟨51, "EDID"⟩, .ok ⟨52, "DPMS"⟩].getD place (.ok ⟨53, "DPMS"⟩)

/-- The display is switched off. -/
def dimming : List (Event Platform) :=
  [.kms (.property 50) (.error .noEntry), .kms (.property 51) (.ok ⟨51, "EDID"⟩),
    .kms (.property 52) (.ok ⟨52, "DPMS"⟩), .kms (.setConnectorProperty 20 52 3) (.ok ())]

theorem run_dimming : ((Operation.setPower 1 .off).run dimmable).Run dimming (.ok (), dimmable) :=
  replay_eq_some_iff.mp rfl

theorem describes_dimming : Manager.Describes described dimming := by
  intro place id answer asked
  rcases place with _ | _ | _ | _ | place <;> cases asked <;> rfl

/-- The third property is set, the first one of the two that would do. -/
theorem dimming_touches_dpms :
    ((Operation.setPower 1 .off).run dimmable).Run dimming (.ok (), dimmable) ∧
      Manager.Describes described dimming ∧
      dimmable.TouchesDpms 1 .off described dimming (.ok ()) :=
  ⟨run_dimming, describes_dimming, (Manager.setPower_touches_dpms describes_dimming run_dimming).2⟩

end Session

end Modeset
