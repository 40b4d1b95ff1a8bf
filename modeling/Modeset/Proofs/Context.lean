import Mathlib.Data.List.Induction
import Modeset.Error

/-!
# Context around errors

On its way up an error may be put into context by every caller, so contexts stand around contexts,
and in the middle there may be an error that has been made from a fault. What is decided by an error
is decided by its root: its number, the hint for the user, whether the user can help, and whether a
detection takes it for a missing object. So context has no part in it. Context is there to be read:
it stands in front of the text, and who goes on from an error to what it was made from comes by the
same error with less and less context, then by the error itself, and only then by what that was made
from.

## Main definitions

* `Error.inContexts` — an error in any number of contexts
* `Error.peeled` — the same error with less and less context
* `Error.Alike` — errors about which everything is decided alike
* `Error.Visits` — what comes by on the way from an error to what it was made from

## Main results

* `Error.Alike.of_root_eq` — errors with the same root are alike
* `Error.visits_iff` — the way from an error is the list of its sources
* `Error.context_transparent` — context changes the text, and the way by as much, and nothing else
-/

namespace Modeset.Error

variable {error other : Error} {context : String} {contexts : List String}

/-- An error in contexts, of which the first is the innermost. -/
def inContexts (error : Error) (contexts : List String) : Error :=
  contexts.foldl (fun cause context => inContext context cause) error

@[simp] theorem inContexts_nil : error.inContexts [] = error := rfl

@[simp] theorem inContexts_concat :
    error.inContexts (contexts ++ [context]) = inContext context (error.inContexts contexts) :=
  List.foldl_append

/-- To add contexts to an outcome is to put its error into them. -/
theorem foldl_addContext_error {α : Type} :
    contexts.foldl (fun outcome context => addContext context outcome)
      (.error error : Except Error α) = .error (error.inContexts contexts) := by
  induction contexts generalizing error with
  | nil => rfl
  | cons context rest ih => exact ih

/-! ## What is decided by an error -/

/-- Everything that is decided by an error is decided alike for both. -/
structure Alike (error other : Error) : Prop where
  root_eq : error.root = other.root
  errno?_eq : error.errno? = other.errno?
  hint?_eq : error.hint? = other.hint?
  isRecoverable_eq : error.isRecoverable = other.isRecoverable
  isUnresolved_eq : error.isUnresolved = other.isUnresolved

/-- Nothing but the root is looked at. -/
theorem Alike.of_root_eq (same : error.root = other.root) : Alike error other where
  root_eq := same
  errno?_eq := by rw [errno?, same, errno?]
  hint?_eq := by rw [hint?, same, hint?]
  isRecoverable_eq := by rw [isRecoverable, same, isRecoverable]
  isUnresolved_eq := by rw [isUnresolved, same, isUnresolved]

theorem root_inContexts : (error.inContexts contexts).root = error.root := by
  induction contexts using List.reverseRecOn with
  | nil => rfl
  | append_singleton contexts context ih => rw [inContexts_concat, root_inContext, ih]

/-! ## Text -/

theorem message_inContext {cause : Error} :
    (inContext context cause).message = context ++ ": " ++ cause.message := rfl

/-- The contexts stand in front of the text, the outermost first. -/
theorem message_inContexts : (error.inContexts contexts).message =
    String.join (contexts.reverse.map (· ++ ": ")) ++ error.message := by
  -- The outermost context is the last one, and it is the first one in the text.
  induction contexts using List.reverseRecOn with
  | nil => rw [inContexts_nil, List.reverse_nil, List.map_nil, String.join_nil, String.empty_append]
  | append_singleton contexts context ih =>
    rw [inContexts_concat, message_inContext, ih, List.reverse_concat, List.map_cons,
      String.join_cons, ← String.append_assoc]

/-! ## Sources -/

variable {start : Source} {visited others : List Source}

/-- Who goes on to what something was made from, as long as there is something, comes by these. -/
def Visits (start : Source) : List Source → Prop
  | [] => start.next? = none
  | next :: rest => start.next? = some next ∧ Visits next rest

/-- There is one way only. -/
theorem Visits.unique (first : Visits start visited) (second : Visits start others) :
    visited = others := by
  induction visited generalizing start others with
  | nil =>
    cases others with
    | nil => rfl
    | cons next rest => exact absurd (first.symm.trans second.1) (by simp)
  | cons next rest ih =>
    cases others with
    | nil => exact absurd (second.symm.trans first.1) (by simp)
    | cons other behind =>
      obtain rfl : next = other := Option.some.inj (first.1.symm.trans second.1)
      rw [ih first.2 second.2]

theorem visits_sources : Visits (.error error) error.sources := by
  -- Only context and faults lead on, and behind a fault the way is over.
  induction error with
  | inContext context cause ih => exact ⟨rfl, ih⟩
  | deviceOpen path fault | io fault => exact ⟨rfl, rfl⟩
  | _ => rfl

/-- The way from an error is the list of its sources. -/
theorem visits_iff : Visits (.error error) visited ↔ visited = error.sources := by
  constructor
  · exact fun visits => visits.unique visits_sources
  · rintro rfl
    exact visits_sources

/-- An error in contexts without the outermost one, without the two outermost, and so on, and at
last without any. -/
def peeled (error : Error) (contexts : List String) : List Error :=
  (List.range contexts.length).reverse.map fun count => error.inContexts (contexts.take count)

theorem peeled_concat : error.peeled (contexts ++ [context]) =
    error.inContexts contexts :: error.peeled contexts := by
  have fewer : ∀ count ∈ (List.range contexts.length).reverse,
      error.inContexts ((contexts ++ [context]).take count) =
        error.inContexts (contexts.take count) := by
    intro count member
    have bound : count < contexts.length := by simpa using member
    rw [List.take_append_of_le_length (Nat.le_of_lt bound)]
  rw [peeled, List.length_append, List.length_singleton, List.range_succ, List.reverse_concat,
    List.map_cons, List.take_left, List.map_congr_left fewer, peeled]

theorem sources_inContexts : (error.inContexts contexts).sources =
    (error.peeled contexts).map .error ++ error.sources := by
  induction contexts using List.reverseRecOn with
  | nil => rfl
  | append_singleton contexts context ih =>
    rw [inContexts_concat, sources, ih, peeled_concat, List.map_cons, List.cons_append]

/-- A fault in two contexts. -/
example : ((Error.io (.os 13)).inContexts ["setting DPMS", "leaving"]).sources.map (·.message) =
    ["setting DPMS: I/O error: Permission denied (os error 13)",
      "I/O error: Permission denied (os error 13)", "Permission denied (os error 13)"] := by
  decide +kernel

/-- Context never changes what an error is. Whatever contexts an error is put into, itself or as the
error of an outcome, all that is decided by it stays the same; its text stands behind the contexts,
of which the outermost comes first; and the way to what it was made from leads past the same error
with less and less context, then past the error itself, and from there on as it did before. -/
theorem context_transparent (error : Error) (contexts : List String) :
    (∀ α : Type, contexts.foldl (fun outcome context => addContext context outcome)
      (.error error : Except Error α) = .error (error.inContexts contexts)) ∧
    Alike (error.inContexts contexts) error ∧
    (error.inContexts contexts).message =
      String.join (contexts.reverse.map (· ++ ": ")) ++ error.message ∧
    ∃ own, Visits (.error error) own ∧
      ∀ visited, Visits (.error (error.inContexts contexts)) visited ↔
        visited = (error.peeled contexts).map .error ++ own := by
  refine ⟨?_, .of_root_eq root_inContexts, message_inContexts, error.sources, visits_sources, ?_⟩
  · intro α
    exact foldl_addContext_error
  · intro visited
    rw [visits_iff, sources_inContexts]

end Modeset.Error
