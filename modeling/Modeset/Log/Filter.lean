import Modeset.Log.Directive

/-!
# Log filters

Which entries of the log are shown. A filter is a list of directives. Of the directives that speak
of an entry the most specific one decides, and of equally specific ones the last. An entry of which
none speaks is not shown. In text, directives are separated by commas.

## Main definitions

* `Log.Filter` — directives, in the order in which they were added
* `Log.Filter.shows` — whether an entry is shown
* `Log.Filter.ofText` — the filter of a text, and what is wrong with the parts that are no
  directives

## Main results

* `Log.Filter.shows_add_of_specificity_le` — a directive that is added last decides about the
  entries that it speaks of unless another one is more specific
* `Log.Filter.shows_add_of_not_appliesTo` — it changes nothing for the others
-/

namespace Modeset.Log

/-- Which entries of the log are shown. -/
structure Filter where
  /-- The directives, in the order in which they were added. -/
  directives : List Directive := []
  deriving DecidableEq, Repr

namespace Filter

variable {filter : Filter} {directive other : Directive} {entry : Entry}

/-- The filter with one more directive. -/
def add (filter : Filter) (directive : Directive) : Filter :=
  { directives := filter.directives ++ [directive] }

/-- Of two directives the one that decides, where the second was added later. -/
def decisive (earlier : Option Directive) (later : Directive) : Directive :=
  match earlier with
  | none => later
  | some earlier => if earlier.specificity ≤ later.specificity then later else earlier

/-- The directive that decides about an entry. -/
def decider? (filter : Filter) (entry : Entry) : Option Directive :=
  (filter.directives.filter (·.appliesTo entry)).foldl
    (fun earlier later => some (decisive earlier later)) none

/-- Whether an entry is shown. -/
def shows (filter : Filter) (entry : Entry) : Bool :=
  (filter.decider? entry).any (·.shows entry)

/-- The filter that a text describes, and a message for each part of it that is no directive. -/
def ofText (text : String) : Filter × List String :=
  let parts := (text.splitOn ",").filter (· ≠ "")
  let readings := parts.map fun part => (part, Directive.ofText part.toList)
  ({ directives := readings.filterMap (·.2.toOption) },
    readings.filterMap fun
      | (_, .ok _) => none
      | (part, .error flaw) => some s!"ignoring `{part}`: {flaw.message}")

theorem decider?_add (filter : Filter) (directive : Directive) (entry : Entry) :
    (filter.add directive).decider? entry =
      if directive.appliesTo entry then some (decisive (filter.decider? entry) directive)
      else filter.decider? entry := by
  by_cases h : directive.appliesTo entry <;> simp [decider?, add, List.filter_append, h]

theorem shows_add_of_specificity_le (applies : directive.appliesTo entry)
    (le : ∀ other, filter.decider? entry = some other →
      other.specificity ≤ directive.specificity) :
    (filter.add directive).shows entry = directive.shows entry := by
  rw [shows, decider?_add, if_pos applies]
  cases h : filter.decider? entry with
  | none => rfl
  | some other => simp [decisive, le other h]

theorem shows_add_of_not_appliesTo (applies : ¬ directive.appliesTo entry) :
    (filter.add directive).shows entry = filter.shows entry := by
  rw [shows, decider?_add, if_neg applies, shows]

end Filter

end Modeset.Log
