import Modeset.Cli.Run
import Modeset.Proofs.Request

/-!
# Candidates for a request

The mode that a user asks for is looked for twice. The command takes, of the listed modes that the
request accepts, the first one after the foremost that the display prefers, or else the foremost. It
hands this mode to the manager, which looks through the list again: it takes the first mode that
satisfies the wish, and would fall back on a favourite if there were none. Then it leaves the
display alone if the mode in use satisfies that one. The two searches fit together: the wish is
itself in the list, so nothing is ever fallen back on, and whoever satisfies a mode has its size and
its rate.

What they need not agree on is which of two modes of the same size and rate is meant. So it is only
in some cases the wish itself that is active in the end.

## Main definitions

* `Met` — how a request is met

## Main results

* `Session.candidate?_eq_none_iff`, `Session.isPreferred_of_candidate?` — what the command takes
* `Met.satisfied`, `Met.accepts`, `Met.eq_wanted` — what is active when a request has been met
* `exists_met_of_run` — the manager meets a request with what the command has taken
-/

namespace Modeset

/-- Whether a mode is accepted depends on its size and rate only. -/
theorem ModeRequest.accepts_of_satisfiedBy {request : ModeRequest} {wanted base : Mode}
    (accepted : request.accepts wanted = true) (satisfied : wanted.satisfiedBy base = true) :
    request.accepts base = true := by
  obtain ⟨width, height, rate, -⟩ := Mode.satisfiedBy_iff.mp satisfied
  unfold accepts at accepted ⊢
  rwa [width, height, rate]

namespace Cli

variable {request : ModeRequest} {modes : List Mode} {wanted chosen before after : Mode}

namespace Session

/-- What is taken is a listed mode that the request accepts. -/
theorem mem_of_candidate? (candidate : candidate? request modes = some wanted) :
    wanted ∈ modes ∧ request.accepts wanted = true := by
  rw [← List.mem_filter]
  unfold candidate? at candidate
  split at candidate
  case h_1 => cases candidate
  case h_2 first rest accepted =>
    rw [accepted, List.mem_cons]
    cases later : rest.find? (·.isPreferred) with
    | none => exact .inl (by simpa [later] using candidate.symm)
    | some mode =>
      obtain rfl : mode = wanted := by simpa [later] using candidate
      exact .inr (List.mem_of_find?_eq_some later)

theorem candidate?_eq_none_iff :
    candidate? request modes = none ↔ ∀ mode ∈ modes, request.accepts mode = false := by
  have none_accepted : modes.filter request.accepts = [] ↔
      ∀ mode ∈ modes, request.accepts mode = false := by
    simp [List.filter_eq_nil_iff]
  rw [← none_accepted]
  unfold candidate?
  split
  case h_1 accepted => exact ⟨fun _ => accepted, fun _ => rfl⟩
  case h_2 first rest accepted => simp [accepted]

/-- If the display prefers a mode that the request accepts, such a mode is taken. -/
theorem isPreferred_of_candidate? (candidate : candidate? request modes = some wanted)
    (preferred : ∃ mode ∈ modes, request.accepts mode = true ∧ mode.isPreferred = true) :
    wanted.isPreferred = true := by
  obtain ⟨mode, listed, accepts, prefers⟩ := preferred
  have member := List.mem_filter.mpr ⟨listed, accepts⟩
  unfold candidate? at candidate
  split at candidate
  case h_1 => cases candidate
  case h_2 first rest accepted =>
    rw [accepted, List.mem_cons] at member
    cases later : rest.find? (·.isPreferred) with
    | some other =>
      obtain rfl : other = wanted := by simpa [later] using candidate
      exact List.find?_some later
    | none =>
      -- No mode behind the first one is preferred, so it is the first one that is.
      obtain rfl : first = wanted := by simpa [later] using candidate
      rcases member with rfl | member
      · exact prefers
      · exact absurd prefers (List.find?_eq_none.mp later mode member)

end Session

/-- How a request is met: the command takes a listed mode, the manager finds the first one in the
list that satisfies it, and this one becomes active unless the active mode satisfies it already. -/
structure Met (request : ModeRequest) (modes : List Mode) (before after wanted chosen : Mode) :
    Prop where
  candidate : Session.candidate? request modes = some wanted
  /-- The mode is found, not fallen back on. -/
  exact : modes.find? wanted.satisfiedBy = some chosen
  active : chosen.satisfiedBy before = true ∧ after = before ∨
    chosen.satisfiedBy before = false ∧ after = chosen

namespace Met

/-- What becomes active satisfies the wish. -/
theorem satisfied (met : Met request modes before after wanted chosen) :
    wanted.satisfiedBy after = true := by
  have found : wanted.satisfiedBy chosen = true := List.find?_some met.exact
  rcases met.active with ⟨already, rfl⟩ | ⟨-, rfl⟩
  · exact Mode.satisfiedBy_trans found already
  · exact found

theorem accepts (met : Met request modes before after wanted chosen) :
    request.accepts after = true :=
  ModeRequest.accepts_of_satisfiedBy (Session.mem_of_candidate? met.candidate).2 met.satisfied

/-- If the wish is the first one in the list that satisfies it, and is not satisfied already, it
becomes active. -/
theorem eq_wanted (met : Met request modes before after wanted chosen)
    (first : modes.find? wanted.satisfiedBy = some wanted)
    (needed : wanted.satisfiedBy before = false) : after = wanted := by
  obtain rfl := Option.some.inj (met.exact.symm.trans first)
  rcases met.active with ⟨already, -⟩ | ⟨-, same⟩
  · rw [needed] at already
    cases already
  · exact same

end Met

section Manager

variable {manager last : Manager} {connector : Connector} {events : List (Event Platform)}

/-- The manager meets a request with the mode that the command has taken. -/
theorem exists_met_of_run (plugged : (manager.output .external).display? = some connector)
    (candidate : Session.candidate? request connector.modes = some wanted)
    (run : (manager.setMode Slot.external.device wanted).Run events (.ok (), last)) :
    ∃ chosen, Met request connector.modes (manager.output .external).mode
      (last.output .external).mode wanted chosen := by
  have listed := (Session.mem_of_candidate? candidate).1
  -- The wish satisfies itself and is listed, so the manager finds a mode.
  have found : (connector.modes.find? wanted.satisfiedBy).isSome := by
    rw [List.find?_isSome]
    exact ⟨wanted, listed, wanted.satisfiedBy_self⟩
  obtain ⟨first, exact⟩ := Option.isSome_iff_exists.mp found
  obtain ⟨chosen, choice, active, -⟩ := (Manager.changed_of_run run).exists_chosen plugged
  obtain rfl : first = chosen := by simpa [Mode.choose?_eq, exact] using choice
  exact ⟨first, candidate, exact, active⟩

end Manager

end Cli

end Modeset
