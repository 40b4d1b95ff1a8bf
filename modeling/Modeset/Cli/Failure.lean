import Modeset.Error

/-!
# Failures of commands

Why a command came to nothing, and how that is shown: a hint if there is one, the failure, and below
it what it came from.

## Main definitions

* `Failure` — why a command failed
* `Failure.chain` — its text and the texts of what it came from
* `Failure.report` — the text on the error output

## Main results

* `Failure.hint?_inContext` — context does not change the hint
-/

namespace Modeset.Cli

/-- Why a command failed. -/
inductive Failure
  /-- There was nothing to be done. -/
  | refused (reason : String)
  /-- An operation on the outputs failed. -/
  | error (cause : Error)
  /-- A call to the host failed. -/
  | fault (cause : Fault)
  /-- A failure, and what was being done when it arose. -/
  | inContext (context : String) (cause : Failure)
  deriving DecidableEq, Repr

namespace Failure

/-- The text of a failure and the texts of what it came from, nearest first. -/
def chain : Failure → List String
  | refused reason => [reason]
  | error cause => cause.message :: cause.sources.map (·.message)
  | fault cause => [cause.message]
  | inContext context cause => context :: cause.chain

/-- What the user may do about a failure. -/
def hint? : Failure → Option String
  | error cause => cause.hint?
  | inContext _ cause => cause.hint?
  | refused _ | fault _ => none

@[simp] theorem hint?_inContext (context : String) (cause : Failure) :
    (inContext context cause).hint? = cause.hint? := rfl

/-- A text with `first` in front of its first line and `rest` in front of the others. -/
def indent (first rest text : String) : String :=
  first ++ ("\n" ++ rest).intercalate (text.splitOn "\n")

/-- What a failure came from, one a line; several are numbered. -/
def causes : List String → String
  | [] => ""
  | [cause] => "\n\nCaused by:\n" ++ indent "    " "    " cause
  | several =>
    "\n\nCaused by:" ++ String.join (several.zipIdx.map fun (cause, place) =>
      "\n" ++ indent (Layout.padLeft 5 ' ' (toString place) ++ ": ") "       " cause)

/-- What is shown for a failure on the error output. -/
def report (failure : Failure) : String :=
  let hint := (failure.hint?.map fun hint => s!"Hint: {hint}\n").getD ""
  let error :=
    match failure.chain with
    | [] => ""
    | text :: rest => s!"Error: {text}{causes rest}\n"
  hint ++ error

end Failure

end Modeset.Cli
