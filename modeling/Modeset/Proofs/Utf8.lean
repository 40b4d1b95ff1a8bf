import Mathlib.Tactic.Common
import Modeset.Text.Utf8

/-!
# Text and its bytes

Text comes back from its bytes, and bytes that are text come back from it. Each character is written
in the one way that is no longer than needed, which the bounds on its second byte make sure of in
reading.

## Main definitions

* `Utf8.Leads` — the first two bytes of a character of several bytes

## Main results

* `Utf8.pieces_encodeChar` — the bytes of a character are read as this character
* `Utf8.decode?_encode` — text is read back from its bytes
* `Utf8.encode_of_decode?` — bytes that are text are the bytes of this text
-/

namespace Modeset.Utf8

variable {lead a b c : UInt8} {rest : List UInt8} {n count : Nat}

theorem toNat_toUInt8 (small : n < 0x100) : n.toUInt8.toNat = n :=
  UInt8.toNat_ofNat_of_lt' small

theorem toUInt8_eq (same : n = a.toNat) : n.toUInt8 = a :=
  same ▸ UInt8.ofNat_toNat

theorem plain_iff : lead < 0x80 ↔ lead.toNat < 0x80 :=
  UInt8.lt_iff_toNat_lt

theorem toNat_ofNat (valid : n.isValidChar) : (Char.ofNat n).toNat = n := by
  unfold Char.ofNat
  rw [dif_pos valid]
  exact UInt32.toNat_ofNatLT ..

/-- A character of several bytes may begin with these two, and so many bytes follow the first. -/
def Leads (count : Nat) (lead a : UInt8) : Prop :=
  ∃ low high, continuation? lead = some (count, low, high) ∧ low ≤ a ∧ a ≤ high

/-- The bounds keep out encodings that are longer than needed, surrogates, and numbers past the last
character. -/
theorem leads_iff :
    Leads count lead a ↔ 0x80 ≤ a.toNat ∧ a.toNat < 0xC0 ∧
      ((count = 1 ∧ 0xC2 ≤ lead.toNat ∧ lead.toNat < 0xE0) ∨
      (count = 2 ∧ 0xE0 ≤ lead.toNat ∧ lead.toNat < 0xF0 ∧ (lead.toNat = 0xE0 → 0xA0 ≤ a.toNat) ∧
        (lead.toNat = 0xED → a.toNat < 0xA0)) ∨
      (count = 3 ∧ 0xF0 ≤ lead.toNat ∧ lead.toNat < 0xF5 ∧ (lead.toNat = 0xF0 → 0x90 ≤ a.toNat) ∧
        (lead.toNat = 0xF4 → a.toNat < 0x90))) := by
  simp only [Leads, continuation?, UInt8.lt_iff_toNat_lt, UInt8.le_iff_toNat_le,
    ← UInt8.toNat_inj, UInt8.reduceToNat]
  constructor
  · rintro ⟨low, high, follows, above, below⟩
    repeat' split at follows
    all_goals cases follows
    all_goals simp only [UInt8.reduceToNat] at above below
    all_goals omega
  · intro bounds
    repeat' split
    all_goals simp only [Option.some.injEq, Prod.mk.injEq, and_assoc, exists_and_left,
      exists_eq_left', UInt8.reduceToNat, reduceCtorEq, false_and, exists_false]
    all_goals omega

/-- A byte that carries six bits may follow another. -/
theorem isContinuation_iff : isContinuation b = true ↔ 0x80 ≤ b.toNat ∧ b.toNat < 0xC0 := by
  simp [isContinuation, UInt8.le_iff_toNat_le, Nat.lt_succ_iff]

/-- Each byte behind the first of a character carries six bits of its number. -/
theorem toNat_sixBits (n : Nat) : (0x80 + n % 0x40).toUInt8.toNat = 0x80 + n % 0x40 :=
  toNat_toUInt8 (by omega)

theorem isContinuation_sixBits (n : Nat) : isContinuation (0x80 + n % 0x40).toUInt8 = true := by
  rw [isContinuation_iff, toNat_sixBits]
  omega

theorem not_lt_of_leads (leads : Leads count lead a) : ¬ lead < 0x80 := by
  have bounds := leads_iff.mp leads
  rw [plain_iff]
  omega

theorem pieces_one (plain : lead < 0x80) :
    pieces (lead :: rest) = .char (Char.ofNat lead.toNat) :: pieces rest := by
  rw [pieces, if_pos plain]

theorem pieces_two (leads : Leads 1 lead a) :
    pieces (lead :: a :: rest) = .char (assemble (lead.toNat % 0x20) [a]) :: pieces rest := by
  obtain ⟨low, high, follows, above, below⟩ := leads
  rw [pieces, if_neg (not_lt_of_leads ⟨low, high, follows, above, below⟩), follows]
  simp [above, below]

theorem pieces_three (leads : Leads 2 lead a) (second : isContinuation b = true) :
    pieces (lead :: a :: b :: rest) =
      .char (assemble (lead.toNat % 0x10) [a, b]) :: pieces rest := by
  obtain ⟨low, high, follows, above, below⟩ := leads
  rw [pieces, if_neg (not_lt_of_leads ⟨low, high, follows, above, below⟩), follows]
  simp [above, below, second]

theorem pieces_four (leads : Leads 3 lead a) (second : isContinuation b = true)
    (third : isContinuation c = true) :
    pieces (lead :: a :: b :: c :: rest) =
      .char (assemble (lead.toNat % 0x08) [a, b, c]) :: pieces rest := by
  obtain ⟨low, high, follows, above, below⟩ := leads
  rw [pieces, if_neg (not_lt_of_leads ⟨low, high, follows, above, below⟩), follows]
  simp [above, below, second, third]

/-- The bytes of a character are read as this character. -/
theorem pieces_encodeChar (ch : Char) :
    pieces (encodeChar ch ++ rest) = .char ch :: pieces rest := by
  have valid : ch.toNat < 0xD800 ∨ 0xDFFF < ch.toNat ∧ ch.toNat < 0x110000 := ch.valid
  generalize hn : ch.toNat = n at valid
  obtain rfl : Char.ofNat n = ch := hn ▸ Char.ofNat_toNat ch
  unfold encodeChar
  simp only [hn]
  split
  · have small := toNat_toUInt8 (n := n) (by omega)
    rw [List.singleton_append, pieces_one, small]
    rw [plain_iff, small]
    omega
  split
  · have first := toNat_toUInt8 (n := 0xC0 + n / 0x40) (by omega)
    have leads : Leads 1 (0xC0 + n / 0x40).toUInt8 (0x80 + n % 0x40).toUInt8 := by
      rw [leads_iff, first, toNat_sixBits]
      omega
    have value : (0xC0 + n / 0x40) % 0x20 * 0x40 + (0x80 + n % 0x40) % 0x40 = n := by omega
    simp only [List.cons_append, List.nil_append, pieces_two leads, assemble, List.foldl_cons,
      List.foldl_nil, first, toNat_sixBits, value]
  split
  · have first := toNat_toUInt8 (n := 0xE0 + n / 0x1000) (by omega)
    have leads : Leads 2 (0xE0 + n / 0x1000).toUInt8 (0x80 + n / 0x40 % 0x40).toUInt8 := by
      rw [leads_iff, first, toNat_sixBits]
      omega
    have value : ((0xE0 + n / 0x1000) % 0x10 * 0x40 + (0x80 + n / 0x40 % 0x40) % 0x40) * 0x40 +
        (0x80 + n % 0x40) % 0x40 = n := by omega
    simp only [List.cons_append, List.nil_append, pieces_three leads (isContinuation_sixBits _),
      assemble, List.foldl_cons, List.foldl_nil, first, toNat_sixBits, value]
  · have first := toNat_toUInt8 (n := 0xF0 + n / 0x40000) (by omega)
    have leads : Leads 3 (0xF0 + n / 0x40000).toUInt8 (0x80 + n / 0x1000 % 0x40).toUInt8 := by
      rw [leads_iff, first, toNat_sixBits]
      omega
    have value : (((0xF0 + n / 0x40000) % 0x08 * 0x40 + (0x80 + n / 0x1000 % 0x40) % 0x40) * 0x40 +
        (0x80 + n / 0x40 % 0x40) % 0x40) * 0x40 + (0x80 + n % 0x40) % 0x40 = n := by omega
    simp only [List.cons_append, List.nil_append,
      pieces_four leads (isContinuation_sixBits _) (isContinuation_sixBits _), assemble,
      List.foldl_cons, List.foldl_nil, first, toNat_sixBits, value]

/-- Text is read back from its bytes. -/
theorem decode?_encode (text : List Char) : decode? (encode text) = some text := by
  unfold decode?
  induction text with
  | nil => rfl
  | cons ch text ih =>
    rw [encode_cons, pieces_encodeChar, List.mapM_cons, ih]
    rfl

/-! ## Writing what has been read -/

theorem encodeChar_one (plain : lead < 0x80) : encodeChar (Char.ofNat lead.toNat) = [lead] := by
  have small := plain_iff.mp plain
  rw [encodeChar, toNat_ofNat (.inl (by omega)), if_pos small, toUInt8_eq rfl]

theorem encodeChar_two (leads : Leads 1 lead a) :
    encodeChar (assemble (lead.toNat % 0x20) [a]) = [lead, a] := by
  have bounds := leads_iff.mp leads
  obtain ⟨n, hn⟩ : ∃ n, n = lead.toNat % 0x20 * 0x40 + a.toNat % 0x40 := ⟨_, rfl⟩
  have assembled : assemble (lead.toNat % 0x20) [a] = Char.ofNat n := by
    rw [hn]
    rfl
  rw [assembled, encodeChar, toNat_ofNat (.inl (by omega)), if_neg (by omega), if_pos (by omega),
    toUInt8_eq (a := lead) (by omega), toUInt8_eq (a := a) (by omega)]

theorem encodeChar_three (leads : Leads 2 lead a) (second : isContinuation b = true) :
    encodeChar (assemble (lead.toNat % 0x10) [a, b]) = [lead, a, b] := by
  have bounds := leads_iff.mp leads
  have within := isContinuation_iff.mp second
  obtain ⟨n, hn⟩ :
      ∃ n, n = (lead.toNat % 0x10 * 0x40 + a.toNat % 0x40) * 0x40 + b.toNat % 0x40 := ⟨_, rfl⟩
  have assembled : assemble (lead.toNat % 0x10) [a, b] = Char.ofNat n := by
    rw [hn]
    rfl
  have valid : n < 0xD800 ∨ 0xDFFF < n ∧ n < 0x110000 := by omega
  rw [assembled, encodeChar, toNat_ofNat valid, if_neg (by omega), if_neg (by omega),
    if_pos (by omega), toUInt8_eq (a := lead) (by omega), toUInt8_eq (a := a) (by omega),
    toUInt8_eq (a := b) (by omega)]

theorem encodeChar_four (leads : Leads 3 lead a) (second : isContinuation b = true)
    (third : isContinuation c = true) :
    encodeChar (assemble (lead.toNat % 0x08) [a, b, c]) = [lead, a, b, c] := by
  have bounds := leads_iff.mp leads
  have within := isContinuation_iff.mp second
  have within' := isContinuation_iff.mp third
  obtain ⟨n, hn⟩ : ∃ n, n = ((lead.toNat % 0x08 * 0x40 + a.toNat % 0x40) * 0x40 +
      b.toNat % 0x40) * 0x40 + c.toNat % 0x40 := ⟨_, rfl⟩
  have assembled : assemble (lead.toNat % 0x08) [a, b, c] = Char.ofNat n := by
    rw [hn]
    rfl
  have valid : n < 0xD800 ∨ 0xDFFF < n ∧ n < 0x110000 := by omega
  rw [assembled, encodeChar, toNat_ofNat valid, if_neg (by omega), if_neg (by omega),
    if_neg (by omega), toUInt8_eq (a := lead) (by omega), toUInt8_eq (a := a) (by omega),
    toUInt8_eq (a := b) (by omega), toUInt8_eq (a := c) (by omega)]

theorem mapM_broken (run : List UInt8) (others : List Piece) :
    (Piece.broken run :: others).mapM Piece.char? = none := by
  rw [List.mapM_cons]
  rfl

theorem mapM_char_eq_some_iff {ch : Char} {others : List Piece} {text : List Char} :
    (Piece.char ch :: others).mapM Piece.char? = some text ↔
      ∃ more, others.mapM Piece.char? = some more ∧ text = ch :: more := by
  rw [List.mapM_cons]
  cases others.mapM Piece.char? with
  | none => simp
  | some more => simp [Piece.char?, eq_comm]

/-- Bytes that are text are the bytes of this text. -/
theorem encode_of_decode? {bytes : List UInt8} {text : List Char}
    (decoded : decode? bytes = some text) : encode text = bytes := by
  unfold decode? at decoded
  -- Nothing broken is text, so only the four forms of characters are left.
  fun_induction pieces bytes generalizing text with
  | case1 =>
    obtain rfl := Option.some.inj decoded
    rfl
  | case2 lead rest plain ih =>
    obtain ⟨more, later, rfl⟩ := mapM_char_eq_some_iff.mp decoded
    rw [encode_cons, ih later, encodeChar_one plain, List.singleton_append]
  | case6 lead _ low high a rest within follows ih =>
    obtain ⟨more, later, rfl⟩ := mapM_char_eq_some_iff.mp decoded
    have leads : Leads 1 lead a := ⟨low, high, follows, by simpa using within⟩
    rw [encode_cons, ih later, encodeChar_two leads]
    rfl
  | case9 lead _ low high a within b rest second follows _ ih =>
    obtain ⟨more, later, rfl⟩ := mapM_char_eq_some_iff.mp decoded
    have leads : Leads 2 lead a := ⟨low, high, follows, by simpa using within⟩
    rw [encode_cons, ih later, encodeChar_three leads (by simpa using second)]
    rfl
  | case12 lead _ count low high follows a within one b second two c rest third ih =>
    obtain ⟨more, later, rfl⟩ := mapM_char_eq_some_iff.mp decoded
    have leads : Leads count lead a := ⟨low, high, follows, by simpa using within⟩
    -- Neither one nor two bytes follow, so three do.
    obtain rfl : count = 3 := by
      have bounds := leads_iff.mp leads
      omega
    rw [encode_cons, ih later,
      encodeChar_four leads (by simpa using second) (by simpa using third)]
    rfl
  | case3 | case4 | case5 | case7 | case8 | case10 | case11 =>
    rw [mapM_broken] at decoded
    cases decoded

end Modeset.Utf8
