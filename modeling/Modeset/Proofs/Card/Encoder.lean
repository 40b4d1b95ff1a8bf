import Modeset.Proofs.Live

/-!
# Which CRTCs could feed an encoder

The kernel says by a mask which CRTCs could feed an encoder: each bit of the mask is about the CRTC
at that place of the kernel's list. A card takes the mask apart into the numbers of these CRTCs, and
from the numbers it puts a mask together again. A number does not say from which place it was taken,
so that a CRTC that is listed twice counts at both places. But in a list of distinct numbers each
CRTC has one place only, and so the new mask is the kernel's own, up to its last bit, without the
bits that are about no listed CRTC.

## Main definitions

* `Card.mark` — one step on the way to a mask
* `Card.encoderOf` — how a card describes an encoder

## Main results

* `Card.testBit_maskOf_selected` — the new mask for any list
* `Card.testBit_maskOf_selected_of_nodup` — the new mask for a list of distinct numbers
* `Card.run_encoder_iff` — what a card asks to describe an encoder
* `Card.possibleCrtcs_exact` — the mask that a card reports is the kernel's
-/

namespace Modeset

open Proc

namespace Card

variable {events : List (Event Node)} {chosen ids : List UInt32} {mask id : UInt32} {place : Nat}

/-! ## Bits -/

/-- A word has no bits past its last one. -/
theorem lt_of_testBit (set : mask.toNat.testBit place = true) : place < 32 :=
  BitVec.lt_of_getLsbD (show mask.toBitVec.getLsbD place = true from set)

theorem testBit_one_shiftLeft {bit : Nat} (bound : bit < 32) :
    ((1 : UInt32) <<< bit.toUInt32).toNat.testBit place = true ↔ bit = place := by
  have amount : bit.toUInt32.toNat = bit := UInt32.toNat_ofNat_of_lt' (bound.trans (by decide))
  have fits : 2 ^ bit < 2 ^ 32 := Nat.pow_lt_pow_right (by decide) bound
  rw [UInt32.toNat_shiftLeft, amount, Nat.mod_eq_of_lt bound, UInt32.toNat_one, Nat.one_shiftLeft,
    Nat.mod_eq_of_lt fits, Nat.testBit_two_pow, decide_eq_true_iff]

/-! ## Masks and lists -/

/-- The mask with the bit of an entry of a list, if the entry is a chosen one and has a bit. -/
def mark (chosen : List UInt32) (mask : UInt32) (entry : UInt32 × Nat) : UInt32 :=
  if entry.1 ∈ chosen ∧ entry.2 < 32 then mask ||| (1 : UInt32) <<< entry.2.toUInt32 else mask

theorem maskOf_eq_foldl : maskOf chosen ids = ids.zipIdx.foldl (mark chosen) 0 := rfl

theorem testBit_mark {entry : UInt32 × Nat} :
    (mark chosen mask entry).toNat.testBit place = true ↔
      mask.toNat.testBit place = true ∨ (place < 32 ∧ entry.1 ∈ chosen ∧ entry.2 = place) := by
  obtain ⟨id, bit⟩ := entry
  unfold mark
  split
  case isTrue marked =>
    obtain ⟨member, bound⟩ := marked
    -- The place has a bit, so the shift does not wrap around.
    rw [UInt32.toNat_or, Nat.testBit_or, Bool.or_eq_true, testBit_one_shiftLeft bound]
    grind
  case isFalse unmarked => grind

theorem testBit_foldl_mark {entries : List (UInt32 × Nat)} :
    (entries.foldl (mark chosen) mask).toNat.testBit place = true ↔
      mask.toNat.testBit place = true ∨ (place < 32 ∧ ∃ id ∈ chosen, (id, place) ∈ entries) := by
  -- The fold goes on from the mask that it has made, so the statement is about any mask.
  induction entries generalizing mask with
  | nil => simp
  | cons entry rest ih =>
    rw [List.foldl_cons, ih, testBit_mark]
    grind

/-- The bits of a mask are the places of the chosen entries. -/
theorem testBit_maskOf : (maskOf chosen ids).toNat.testBit place = true ↔
    place < 32 ∧ ∃ id ∈ chosen, ids[place]? = some id := by
  rw [maskOf_eq_foldl, testBit_foldl_mark]
  simp [List.mem_zipIdx_iff_getElem?]

/-- What is selected stands at a place that has its bit in the mask. -/
theorem mem_selected : id ∈ selected mask ids ↔
    ∃ place, ids[place]? = some id ∧ mask.toNat.testBit place = true := by
  simp [selected, List.mem_zipIdx_iff_getElem?]

/-- A place is in the new mask if the number that stands there stands anywhere at a place that is in
the old one. -/
theorem testBit_maskOf_selected : (maskOf (selected mask ids) ids).toNat.testBit place = true ↔
    place < 32 ∧ place < ids.length ∧
      ∃ other, ids[place]? = ids[other]? ∧ mask.toNat.testBit other = true := by
  rw [testBit_maskOf]
  simp only [mem_selected]
  grind

/-- The kernel means the CRTC at the first place, and the same one stands at the third. -/
example : maskOf (selected 0b001 [40, 41, 40]) [40, 41, 40] = 0b101 := by decide

/-- In a list of distinct numbers, the new mask is the old one as far as the list goes. -/
theorem testBit_maskOf_selected_of_nodup (distinct : ids.Nodup) :
    (maskOf (selected mask ids) ids).toNat.testBit place = true ↔
      place < ids.length ∧ mask.toNat.testBit place = true := by
  rw [testBit_maskOf_selected]
  constructor
  · rintro ⟨-, bound, other, same, set⟩
    -- The number stands at one place only, so it is this one that the old mask has.
    obtain rfl : place = other := (List.getElem?_inj bound distinct).mp same
    exact ⟨bound, set⟩
  · rintro ⟨bound, set⟩
    exact ⟨lt_of_testBit set, bound, place, rfl, set⟩

/-! ## Describing an encoder -/

/-- An encoder as a card describes it, by the kernel's record and its list of CRTCs. -/
def encoderOf (id : UInt32) (record : Node.EncoderRecord) (resources : ResourceList) : Encoder where
  id := id
  kind := .ofNumber record.kind
  crtcId := record.crtcId
  possibleCrtcs := maskOf (selected record.possibleCrtcs resources.crtcs) resources.crtcs

/-- The kernel is asked for its record, and if it gives one, for its lists. -/
theorem run_encoder_iff (nonzero : id ≠ 0) {answer : Except Fault Encoder} :
    (encoder id).Run events answer ↔
      (∃ fault, events = [⟨.encoder id, .error fault⟩] ∧ answer = .error fault) ∨
      ∃ record listing,
        events = [⟨.encoder id, .ok record⟩, ⟨.resources, listing⟩] ∧
          answer = listing.map (encoderOf id record) := by
  unfold encoder
  rw [objectId_eq_ok nonzero]
  constructor
  · intro run
    obtain ⟨described, rest, rfl, described_run⟩ := run_ask_bind_iff.mp run
    cases described with
    | error fault =>
      obtain ⟨rfl, rfl⟩ := run_done_iff.mp described_run
      exact .inl ⟨fault, rfl, rfl⟩
    | ok record =>
      obtain ⟨listing, last, rfl, listed_run⟩ := run_ask_bind_iff.mp described_run
      obtain ⟨rfl, rfl⟩ : last = [] ∧ answer = listing.map (encoderOf id record) := by
        cases listing <;> exact run_done_iff.mp listed_run
      exact .inr ⟨record, listing, rfl, rfl⟩
  · rintro (⟨fault, rfl, rfl⟩ | ⟨record, listing, rfl, rfl⟩)
    · exact .call (.done _)
    · cases listing <;> exact .call (.call (.done _))

/-- The mask of an encoder is the kernel's. Whatever mask the kernel reports for an encoder and
whatever distinct CRTCs it lists, the call comes back with a description of the encoder, and a bit
of the mask there is set just if it is about a listed CRTC and set in the kernel's mask. -/
theorem possibleCrtcs_exact (retries : Nat) (card : Card) (nonzero : id ≠ 0)
    (record : Node.EncoderRecord) (resources : ResourceList) (distinct : resources.crtcs.Nodup) :
    ∃ encoder : Encoder,
      (∀ place, encoder.possibleCrtcs.toNat.testBit place = true ↔
        place < resources.crtcs.length ∧ record.possibleCrtcs.toNat.testBit place = true) ∧
      (kms retries (.encoder id) card).Run
        [⟨.encoder id, .ok record⟩, ⟨.resources, .ok resources⟩] (.ok encoder, card) ∧
      ∀ events answer after, (kms retries (.encoder id) card).Run events (answer, after) →
        ⟨.encoder id, .ok record⟩ ∈ events → ⟨.resources, .ok resources⟩ ∈ events →
        answer = .ok encoder ∧ after = card := by
  refine ⟨encoderOf id record resources, ?_, ?_, ?_⟩
  · intro place
    exact testBit_maskOf_selected_of_nodup distinct
  · apply run_lift_iff.mpr
    exact ⟨(run_encoder_iff nonzero).mpr (.inr ⟨record, .ok resources, rfl, rfl⟩), rfl⟩
  · intro events answer after run described listed
    obtain ⟨own, rfl⟩ := run_lift_iff.mp run
    refine ⟨?_, rfl⟩
    rcases (run_encoder_iff nonzero).mp own with ⟨fault, rfl, rfl⟩ | ⟨told, listing, rfl, rfl⟩
    · simp at described
    · obtain rfl : record = told := by simpa using described
      obtain rfl : .ok resources = listing := by simpa using listed
      rfl

end Card

/-! ## A full list

There is a CRTC at every place that has a bit, and the kernel names the first, the third and the
last one. -/

namespace Session

/-- A list of 32 CRTCs. -/
def crowded : ResourceList :=
  { framebuffers := [], crtcs := (List.range 32).map fun place => 40 + place.toUInt32,
    connectors := [20], encoders := [30], minWidth := 0, maxWidth := 8192, minHeight := 0,
    maxHeight := 8192 }

/-- An encoder that could be fed by three of them. -/
def choosy : Node.EncoderRecord := ⟨2, 0, 0x80000005⟩

theorem crowded_possible :
    (30 : UInt32) ≠ 0 ∧ crowded.crtcs.Nodup ∧ crowded.crtcs.length = 32 ∧
      ∃ encoder : Encoder,
        (Card.kms 0 (.encoder 30) {}).Run
          [⟨.encoder 30, .ok choosy⟩, ⟨.resources, .ok crowded⟩] (.ok encoder, {}) ∧
        ∀ place, encoder.possibleCrtcs.toNat.testBit place = true ↔
          place < 32 ∧ (0x80000005 : UInt32).toNat.testBit place = true := by
  have nonzero : (30 : UInt32) ≠ 0 := by decide
  have distinct : crowded.crtcs.Nodup := by decide
  obtain ⟨encoder, bits, run, -⟩ := Card.possibleCrtcs_exact 0 {} nonzero choosy crowded distinct
  exact ⟨nonzero, distinct, rfl, encoder, run, bits⟩

end Session

end Modeset
