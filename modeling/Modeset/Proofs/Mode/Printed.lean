import Modeset.Proofs.Mode.Grammar

/-!
# Printed modes

Two texts are printed that a user may type again: a request as it was understood, and a mode in a
list or in a message. They differ, since the rate of a mode has its unit behind it and a request
need not have a rate at all. Both are texts of the grammar of requests: a request is read back as it
was, and a mode as the request for its size and rate.

## Main definitions

* `ModeRequest.ofMode` — the request for the size and rate of a mode

## Main results

* `Decimal.numeral_repr` — what is printed for a number is a numeral of it
* `ModeRequest.spells_text`, `ModeRequest.spells_modeText` — what the two printed texts spell
* `ModeRequest.parse_printed` — printed requests and modes are read back
-/

namespace Modeset

/-- What is printed for a number is a numeral of it. -/
theorem Decimal.numeral_repr (n : Nat) : Numeral n.repr.toList n :=
  .plain (digits?_eq_some_iff.mp (digits?_repr n))

namespace ModeRequest

open Decimal

/-- The request for modes of the size and rate of this one. -/
def ofMode (mode : Mode) : ModeRequest where
  width := mode.hdisplay
  height := mode.vdisplay
  refresh := some mode.vrefresh

/-- It accepts the modes that agree with this one in size and rate, whatever else they differ in. -/
theorem accepts_ofMode_iff {mode other : Mode} :
    (ofMode mode).accepts other = true ↔
      other.hdisplay = mode.hdisplay ∧ other.vdisplay = mode.vdisplay ∧
        other.vrefresh = mode.vrefresh := by
  simp [ofMode, accepts]

/-- A size is printed with a small `x`, and without signs or leading zeros. -/
theorem spellsSize_printed (width height : UInt16) :
    SpellsSize s!"{width}x{height}".toList width height := by
  have printed : s!"{width}x{height}".toList =
      width.toNat.repr.toList ++ 'x' :: height.toNat.repr.toList := by
    simp [toString]
  rw [printed]
  exact .intro (numeral_repr width.toNat) (.inl rfl) (numeral_repr height.toNat)

/-- A rate is printed behind its size, and its unit, if at all, in the spelling `Hz`. -/
theorem spells_printed (width height : UInt16) (hz : UInt32) (count : Nat) :
    Spells (s!"{width}x{height}@{hz}".toList ++ units 'H' count) ⟨width, height, some hz⟩ := by
  have printed : s!"{width}x{height}@{hz}".toList ++ units 'H' count =
      s!"{width}x{height}".toList ++
        '@' :: (hz.toNat.repr.toList ++ (units 'h' 0 ++ units 'H' count)) := by
    simp [toString, units]
  rw [printed]
  exact .rated (spellsSize_printed width height) (numeral_repr hz.toNat) 0 count

/-- What is printed for a request spells it. -/
theorem spells_text (request : ModeRequest) : Spells request.text.toList request := by
  obtain ⟨width, height, refresh⟩ := request
  cases refresh with
  | none => exact .size (spellsSize_printed width height)
  | some hz =>
    have spelled := spells_printed width height hz 0
    rwa [units, List.replicate_zero, List.flatten_nil, List.append_nil] at spelled

/-- What is printed for a mode spells the request for its size and rate. -/
theorem spells_modeText (mode : Mode) : Spells mode.text.toList (ofMode mode) := by
  have spelled := spells_printed mode.hdisplay mode.vdisplay mode.vrefresh 1
  -- The one unit that is printed stands in the same text as the rate.
  have printed : mode.text.toList =
      s!"{mode.hdisplay}x{mode.vdisplay}@{mode.vrefresh}".toList ++ units 'H' 1 := by
    simp [Mode.text, units, toString]
  rw [printed]
  exact spelled

/-- Printed requests and modes are read back: a request as it was, and a mode as a request that
accepts just the modes of its size and rate. -/
theorem parse_printed :
    (∀ request : ModeRequest, parse request.text = .ok request) ∧
      ∀ mode : Mode, ∃ request, parse mode.text = .ok request ∧
        ∀ other : Mode, request.accepts other = true ↔
          other.hdisplay = mode.hdisplay ∧ other.vdisplay = mode.vdisplay ∧
            other.vrefresh = mode.vrefresh := by
  have read {text : String} {request : ModeRequest} (spelled : Spells text.toList request) :
      parse text = .ok request :=
    parse_eq_ok_iff.mpr (spells_iff.mp spelled)
  constructor
  · intro request
    exact read (spells_text request)
  · intro mode
    exact ⟨ofMode mode, read (spells_modeText mode), fun other => accepts_ofMode_iff⟩

/-- The unit is read as well as printed. -/
example : parse (Mode.ofSize 1920 1080 60).text = .ok ⟨1920, 1080, some 60⟩ := by decide

end ModeRequest

end Modeset
