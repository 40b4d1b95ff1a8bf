import Mathlib.Tactic.IntervalCases
import Modeset.Toml.Quoted

/-!
# Quoted text is read back

Whatever a text holds, it is read back from the quotes that it is written in. A text with escapes is
read back character by character; only quotes that stand as they are have to be seen together with
what follows them. A text that stands as it is holds no character that needs an escape and never
three of its quotes in a row.

## Main definitions

* `Quoted.Fits` — a text may be written in a form

## Main results

* `Quoted.fits_ofText` — a text is written in a form that it fits
* `Quoted.escaped_escape_line`, `Quoted.escaped_escape_lines` — a text with escapes is read back
* `Quoted.verbatim_append_line`, `Quoted.verbatim_append_lines` — so is one that stands as it is
* `Quoted.read?_write` — so is every text, in the form in which it is written
-/

namespace Modeset.Toml.Quoted

variable {lines folding : Bool} {quote c ch : Char} {text rest : List Char} {run : Nat}

/-! ## Quotes -/

/-- Unless two more quotes follow, a quote over several lines is part of the text. -/
theorem closed?_eq_none (alone : ¬ [quote, quote] <+: rest) : closed? true quote rest = none := by
  match rest with
  | [] => rfl
  | [a] => by_cases same : a = quote <;> simp [closed?, same]
  | a :: b :: rest =>
    by_cases same : a = quote
    · have differs : b ≠ quote := by
        rintro rfl
        simp [same] at alone
      simp [closed?, same, differs]
    · simp [closed?, same]

/-! ## Text with escapes -/

theorem escaped_closed {closed : List Char × List Char}
    (closes : closed? lines '"' rest = some closed) :
    escaped lines folding ('"' :: rest) = some closed := by
  rw [escaped, closes]

theorem escaped_open (stays : closed? lines '"' rest = none) :
    escaped lines folding ('"' :: rest) = push '"' (escaped lines false rest) := by
  rw [escaped, stays]

/-- A short escape is read as the character that it stands for. -/
theorem escaped_short (stands : shortEscape? c = some ch) :
    escaped lines false ('\\' :: c :: rest) = push ch (escaped lines false rest) := by
  unfold shortEscape? at stands
  split at stands
  all_goals cases stands
  all_goals simp [escaped, startsLine, skipBlanks, isBlank, shortEscape?]

/-- A long escape is read as the character with that number. -/
theorem escaped_long {a b d e : Char} (stands : scalar? [a, b, d, e] = some ch) :
    escaped lines false ('\\' :: 'u' :: a :: b :: d :: e :: rest) =
      push ch (escaped lines false rest) := by
  rw [escaped, stands]
  simp [startsLine, skipBlanks, isBlank]

theorem escaped_plain (plain : isPlain c = true) (quote : c ≠ '"') (backslash : c ≠ '\\') :
    escaped lines false (c :: rest) = push c (escaped lines false rest) := by
  have feed : c ≠ '\n' := by
    rintro rfl
    cases plain
  have carriage : c ≠ '\r' := by
    rintro rfl
    cases plain
  rw [escaped] <;> simp_all

theorem escaped_newline :
    escaped true false ('\n' :: rest) = push '\n' (escaped true false rest) := by
  rw [escaped]
  rfl

/-- The four hexadecimal digits of a small number are read as the character with that number. -/
theorem exists_hexUpper (small : c.toNat < 0x80) :
    ∃ a b d e, (Layout.hexUpper 4 c.toNat).toList = [a, b, d, e] ∧
      scalar? [a, b, d, e] = some c := by
  have digits (n : Nat) : (Layout.hexUpper 4 n).toList =
      (List.replicate (4 - (Nat.toDigits 16 n).length) '0' ++ Nat.toDigits 16 n).map
        Char.toUpper := by
    simp [Layout.hexUpper, Layout.hex, Layout.padLeft]
  obtain ⟨n, hn⟩ : ∃ n, n = c.toNat := ⟨_, rfl⟩
  obtain rfl : Char.ofNat n = c := hn ▸ Char.ofNat_toNat c
  rw [← hn] at small ⊢
  rw [digits]
  clear hn digits
  interval_cases n
  all_goals exact ⟨_, _, _, _, rfl, rfl⟩

/-- A character other than the quote is read back from its escape, or from itself. -/
theorem escaped_escape_cons (other : c ≠ '"') :
    escaped lines false (escape lines run (c :: text) ++ rest) =
      push c (escaped lines false (escape lines 0 text ++ rest)) := by
  rw [escape, if_neg other]
  split
  case isTrue same =>
    subst same
    exact escaped_short rfl
  rename_i backslash
  split
  case isTrue same =>
    subst same
    cases lines with
    | true => exact escaped_newline
    | false => exact escaped_short rfl
  rename_i feed
  split
  case isTrue same => exact same ▸ escaped_short rfl
  split
  case isTrue same => exact same ▸ escaped_short rfl
  split
  case isTrue same => exact same ▸ escaped_short rfl
  split
  case isTrue same => exact same ▸ escaped_short rfl
  split
  case isTrue control =>
    have small : c.toNat < 0x80 := by
      rcases control with below | rfl
      · exact Nat.lt_trans below (by decide)
      · decide
    obtain ⟨a, b, d, e, digits, stands⟩ := exists_hexUpper small
    rw [digits]
    exact escaped_long stands
  case isFalse plain =>
    refine escaped_plain ?_ other backslash
    simp only [isPlain]
    grind

/-- A quote is escaped if as many stand before it as may stand as they are. -/
theorem escaped_escape_quote (full : ¬ run < if lines then 2 else 0) :
    escaped lines false (escape lines run ('"' :: text) ++ rest) =
      push '"' (escaped lines false (escape lines 0 text ++ rest)) := by
  rw [escape, if_pos rfl, if_neg full]
  exact escaped_short rfl

/-- A text with escapes is read back on one line. -/
theorem escaped_escape_line :
    escaped false false (escape false run text ++ '"' :: rest) = some (text, rest) := by
  induction text generalizing run with
  | nil => exact escaped_closed rfl
  | cons c text ih =>
    by_cases same : c = '"'
    · subst same
      rw [escaped_escape_quote (by simp), ih]
      rfl
    · rw [escaped_escape_cons same, ih]
      rfl

/-- Only a quote is written as a quote, and only if fewer stand before it than may. -/
theorem head?_escape (escapes : c = '"' → ¬ run < if lines then 2 else 0) :
    (escape lines run (c :: text) ++ rest).head? ≠ some '"' := by
  rw [escape]
  by_cases same : c = '"'
  · rw [if_pos same, if_neg (escapes same)]
    simp
  · rw [if_neg same]
    repeat' split
    all_goals simp [same]

/-- A text with escapes is read back over several lines. -/
theorem escaped_escape_lines :
    escaped true false (escape true run text ++ '"' :: '"' :: '"' :: '\n' :: rest) =
      some (text, '\n' :: rest) := by
  induction text generalizing run with
  | nil => exact escaped_closed rfl
  | cons c text ih =>
    by_cases same : c = '"'
    case neg =>
      rw [escaped_escape_cons same, ih]
      rfl
    subst same
    by_cases full : run < 2
    case neg =>
      rw [escaped_escape_quote (by simpa using full), ih]
      rfl
    rw [escape, if_pos rfl, if_pos (by simpa using full)]
    by_cases alone :
      ['"', '"'] <+: escape true (run + 1) text ++ '"' :: '"' :: '"' :: '\n' :: rest
    case neg =>
      rw [List.cons_append, escaped_open (closed?_eq_none alone), ih]
      rfl
    -- Two more quotes follow the one that stands as it is, but not both of them in the text.
    obtain ⟨others, two⟩ := alone
    cases text with
    | nil => exact escaped_closed rfl
    | cons d text =>
      have second : d = '"' ∧ run + 1 < 2 := by
        by_contra none_more
        exact head?_escape (fun same few => none_more ⟨same, few⟩) (congrArg List.head? two).symm
      obtain ⟨rfl, few⟩ := second
      obtain rfl : run = 0 := by omega
      cases text with
      | nil => exact escaped_closed rfl
      | cons e text =>
        rw [escape, if_pos rfl, if_pos (by simp)] at two
        have third := congrArg List.head? (List.cons.inj two).2
        exact absurd third.symm (head?_escape fun _ few => few.false)

/-! ## Text as it is -/

theorem verbatim_closed {closed : List Char × List Char}
    (closes : closed? lines '\'' rest = some closed) :
    verbatim lines ('\'' :: rest) = some closed := by
  rw [verbatim, closes]

theorem verbatim_open (stays : closed? lines '\'' rest = none) :
    verbatim lines ('\'' :: rest) = push '\'' (verbatim lines rest) := by
  rw [verbatim, stays]

/-- A character that needs no escape is read as it is, except that there are no line ends on one
line. -/
theorem verbatim_cons (plain : needsEscape c = false) (other : c ≠ '\'')
    (within : c = '\n' → lines = true) :
    verbatim lines (c :: rest) = push c (verbatim lines rest) := by
  by_cases feed : c = '\n'
  · subst feed
    rw [verbatim, if_pos (within rfl)]
  · have shown : isPlain c = true := by
      simpa [needsEscape, feed] using plain
    have carriage : c ≠ '\r' := by
      rintro rfl
      cases shown
    rw [verbatim] <;> simp_all

/-- A text without single quotes and line ends is read back on one line. -/
theorem verbatim_append_line (plain : ∀ c ∈ text, needsEscape c = false)
    (quotes : '\'' ∉ text) (within : '\n' ∉ text) :
    verbatim false (text ++ '\'' :: rest) = some (text, rest) := by
  induction text with
  | nil => exact verbatim_closed rfl
  | cons c text ih =>
    simp only [List.mem_cons, not_or, forall_eq_or_imp] at plain quotes within
    rw [List.cons_append, verbatim_cons plain.1 (Ne.symm quotes.1)
      fun same => absurd same.symm within.1, ih plain.2 quotes.2 within.2]
    rfl

theorem le_longestRun (quote : Char) (run : Nat) (text : List Char) :
    run ≤ longestRun quote run text := by
  induction text generalizing run with
  | nil => exact le_rfl
  | cons c text ih =>
    rw [longestRun]
    split
    · exact (Nat.le_succ run).trans (ih _)
    · exact le_max_left ..

theorem longestRun_mono {more : Nat} (le : run ≤ more) :
    longestRun quote run text ≤ longestRun quote more text := by
  induction text generalizing run more with
  | nil => exact le
  | cons c text ih =>
    rw [longestRun, longestRun]
    split
    · exact ih (Nat.succ_le_succ le)
    · exact max_le_max_right _ le

theorem longestRun_le_cons : longestRun quote 0 text ≤ longestRun quote run (c :: text) := by
  rw [longestRun]
  split
  · exact longestRun_mono (Nat.zero_le _)
  · exact le_max_right ..

/-- A text is read back over several lines if it never has three single quotes in a row. -/
theorem verbatim_append_lines (plain : ∀ c ∈ text, needsEscape c = false)
    (quotes : longestRun '\'' 0 text ≤ 2) :
    verbatim true (text ++ '\'' :: '\'' :: '\'' :: '\n' :: rest) = some (text, '\n' :: rest) := by
  induction text with
  | nil => exact verbatim_closed rfl
  | cons c text ih =>
    simp only [List.mem_cons, forall_eq_or_imp] at plain
    have later := ih plain.2 (longestRun_le_cons.trans quotes)
    by_cases same : c = '\''
    case neg =>
      rw [List.cons_append, verbatim_cons plain.1 same fun _ => rfl, later]
      rfl
    subst same
    by_cases alone : ['\'', '\''] <+: text ++ '\'' :: '\'' :: '\'' :: '\n' :: rest
    case neg =>
      rw [List.cons_append, verbatim_open (closed?_eq_none alone), later]
      rfl
    -- Two more quotes follow, but not both of them in the text.
    match text with
    | [] => exact verbatim_closed rfl
    | [d] =>
      obtain rfl : '\'' = d := (List.cons_prefix_cons.mp alone).1
      exact verbatim_closed rfl
    | d :: e :: text =>
      simp only [List.cons_append, List.cons_prefix_cons] at alone
      obtain ⟨rfl, rfl, -⟩ := alone
      have three : 3 ≤ longestRun '\'' 0 ('\'' :: '\'' :: '\'' :: text) :=
        le_longestRun '\'' 3 text
      omega

/-! ## The forms -/

theorem notMem_of_longestRun (none : longestRun quote run text = 0) : quote ∉ text := by
  induction text generalizing run with
  | nil => exact List.not_mem_nil
  | cons c text ih =>
    rw [longestRun] at none
    split at none
    · have some_run := le_longestRun quote (run + 1) text
      omega
    · rename_i differs
      simp only [List.mem_cons, not_or]
      exact ⟨Ne.symm differs, ih (Nat.max_eq_zero_iff.mp none).2⟩

/-- A text may be written in a form: with escapes always, and as it is if it needs none and the
closing quotes cannot be found too early. -/
def Fits (text : List Char) : Form → Prop
  | .basic | .linesBasic => True
  | .literal => (∀ c ∈ text, needsEscape c = false) ∧ '\'' ∉ text ∧ '\n' ∉ text
  | .linesLiteral => (∀ c ∈ text, needsEscape c = false) ∧ longestRun '\'' 0 text ≤ 2

theorem fits_ofText (text : List Char) : Fits text (.ofText text) := by
  unfold Form.ofText
  simp only
  split
  · trivial
  split
  · rename_i literal
    obtain ⟨plain, none, within⟩ := literal
    exact ⟨by simpa using plain, notMem_of_longestRun none, by simpa using within⟩
  split
  · trivial
  split
  · rename_i literal
    exact ⟨by simpa using literal.1, literal.2⟩
  split <;> trivial

theorem read?_basic (two : ¬ ['"', '"'] <+: rest) :
    read? ('"' :: rest) = escaped false false rest := by
  unfold read?
  split
  · simp_all
  · simp_all
  · rfl

theorem read?_literal (two : ¬ ['\'', '\''] <+: rest) :
    read? ('\'' :: rest) = verbatim false rest := by
  unfold read?
  split
  · simp_all
  · simp_all
  · rfl

theorem startsLine_cons (feed : c ≠ '\n') (carriage : c ≠ '\r') :
    startsLine (c :: rest) = false := by
  rw [startsLine] <;> simp_all

theorem startsLine_escape (within : '\n' ∉ text) :
    startsLine (escape true run text ++ '"' :: rest) = false := by
  cases text with
  | nil => rfl
  | cons c text =>
    have feed : c ≠ '\n' := fun same => within (same ▸ List.mem_cons_self)
    rw [escape, if_neg feed]
    -- What is not escaped is written as it is, and a carriage return is escaped.
    repeat' split
    all_goals first | rfl | exact startsLine_cons feed ‹_›

/-- A text of several lines starts on a line of its own, but the line end is not part of it. -/
theorem dropLineEnd_start {body : List Char} (starts : '\n' ∉ text → startsLine body = false) :
    dropLineEnd ((if '\n' ∈ text then ['\n'] else []) ++ body) = body := by
  split
  · rfl
  · rename_i within
    have stays := starts within
    unfold startsLine at stays
    unfold dropLineEnd
    split at stays <;> simp_all

theorem read?_basic_escape (text rest : List Char) :
    read? ('"' :: (escape false 0 text ++ '"' :: '\n' :: rest)) = some (text, '\n' :: rest) := by
  have alone : ¬ ['"', '"'] <+: escape false 0 text ++ '"' :: '\n' :: rest := by
    rintro ⟨others, two⟩
    cases text with
    | nil => cases two
    | cons c text => exact head?_escape (by simp) (congrArg List.head? two).symm
  rw [read?_basic alone, escaped_escape_line]

theorem read?_literal_append (fits : Fits text .literal) :
    read? ('\'' :: (text ++ '\'' :: '\n' :: rest)) = some (text, '\n' :: rest) := by
  obtain ⟨plain, quotes, within⟩ := fits
  have alone : ¬ ['\'', '\''] <+: text ++ '\'' :: '\n' :: rest := by
    rintro ⟨others, two⟩
    cases text with
    | nil => cases two
    | cons c text => exact quotes ((List.cons.inj two).1 ▸ List.mem_cons_self)
  rw [read?_literal alone, verbatim_append_line plain quotes within]

theorem read?_linesBasic_escape (text rest : List Char) :
    read? ('"' :: '"' :: '"' :: ((if '\n' ∈ text then ['\n'] else []) ++
      (escape true 0 text ++ '"' :: '"' :: '"' :: '\n' :: rest))) = some (text, '\n' :: rest) := by
  rw [read?, dropLineEnd_start startsLine_escape, escaped_escape_lines]

theorem read?_linesLiteral_append (fits : Fits text .linesLiteral) :
    read? ('\'' :: '\'' :: '\'' :: ((if '\n' ∈ text then ['\n'] else []) ++
      (text ++ '\'' :: '\'' :: '\'' :: '\n' :: rest))) = some (text, '\n' :: rest) := by
  obtain ⟨plain, quotes⟩ := fits
  have starts (within : '\n' ∉ text) :
      startsLine (text ++ '\'' :: '\'' :: '\'' :: '\n' :: rest) = false := by
    cases text with
    | nil => rfl
    | cons c text =>
      have feed : c ≠ '\n' := fun same => within (same ▸ List.mem_cons_self)
      have carriage : c ≠ '\r' := by
        rintro rfl
        cases plain _ List.mem_cons_self
      exact startsLine_cons feed carriage
  rw [read?, dropLineEnd_start starts, verbatim_append_lines plain quotes]

/-- Every text is read back from the quotes that it is written in, at the end of a line. -/
theorem read?_write (text rest : List Char) :
    read? (write text ++ '\n' :: rest) = some (text, '\n' :: rest) := by
  have fits := fits_ofText text
  unfold write
  cases form : Form.ofText text with
  | basic =>
    simpa [Form.hasLines, Form.hasEscapes, Form.delimiter] using read?_basic_escape text rest
  | literal =>
    rw [form] at fits
    simpa [Form.hasLines, Form.hasEscapes, Form.delimiter] using read?_literal_append fits
  | linesBasic =>
    simpa [Form.hasLines, Form.hasEscapes, Form.delimiter] using read?_linesBasic_escape text rest
  | linesLiteral =>
    rw [form] at fits
    simpa [Form.hasLines, Form.hasEscapes, Form.delimiter] using read?_linesLiteral_append fits

end Modeset.Toml.Quoted
