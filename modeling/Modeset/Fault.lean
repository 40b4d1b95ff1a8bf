import Modeset.Fault.Errno

/-!
# Faults

A fault is why a single call to the system failed: an error number from the kernel, or a kind of
failure found before the kernel was reached, with or without a text of its own.

## Main definitions

* `Fault` — the failure of one call
* `Fault.message` — its text
* `Fault.errno?` — the error number, when the kernel gave one
-/

namespace Modeset

/-- Kinds of failure that carry no error number. -/
inductive FaultKind
  | notFound | permissionDenied | invalidInput | invalidData | outOfMemory | other
  deriving DecidableEq, Repr

namespace FaultKind

/-- What a failure says that has nothing but its kind. -/
def text : FaultKind → String
  | notFound => "entity not found"
  | permissionDenied => "permission denied"
  | invalidInput => "invalid input parameter"
  | invalidData => "invalid data"
  | outOfMemory => "out of memory"
  | other => "other error"

end FaultKind

/-- Why a call to the system failed. -/
inductive Fault
  /-- The kernel answered with this error number. -/
  | os (errno : Int)
  /-- A kind of failure and nothing more. -/
  | plain (kind : FaultKind)
  /-- A kind of failure, described. -/
  | described (kind : FaultKind) (text : String)
  deriving DecidableEq, Repr

namespace Fault

/-- The text shown for a fault. -/
def message : Fault → String
  | os errno => s!"{errnoText errno} (os error {errno})"
  | plain kind => kind.text
  | described _ text => text

/-- The kernel's error number, if that is what the fault is. -/
def errno? : Fault → Option Int
  | os errno => some errno
  | plain _ | described _ _ => none

/-- The kind of a fault that carries no error number. -/
def kind? : Fault → Option FaultKind
  | os _ => none
  | plain kind | described kind _ => some kind

/-- No such file, directory or kernel object. -/
def noEntry : Fault := os 2

/-- An argument that no call can accept, described. -/
def invalidInput (text : String) : Fault := described .invalidInput text

/-- Whether the kernel broke the call off before doing anything, so that it may be made again:
interrupted by a signal (4), or not ready yet (11). -/
def isInterruption : Fault → Bool
  | os errno => errno = 4 ∨ errno = 11
  | plain _ | described _ _ => false

end Fault

end Modeset
