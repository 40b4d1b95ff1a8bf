import Modeset.Proofs.Toml.Quoted
import Modeset.Toml.Document

/-!
# Written documents are read back

A document as it is written is a sequence of lines: assignments with blanks around their signs,
headers, and nothing in between. Each line is read as at most one statement, and what follows it is
left, so the whole document gives the statements of its lines.

## Main definitions

* `Document.Line` — a line as it is written, with the statement that it makes
* `Document.Reads` — a value is read from what is written for it, at the end of a line
* `Document.IsBare` — a name that stands for a key without quotes

## Main results

* `Document.reads_write`, `Document.reads_toDigits`, `Document.reads_boolean` — texts, numbers and
  truth values are read back
* `Document.statements?_lines` — the lines of a document are read as their statements
* `Document.parse?_lines` — and the document as the table that these build
-/

namespace Modeset.Toml

variable {c : Char} {rest : List Char}

section Stretch

variable {p : Char → Bool} {word : List Char}

/-- A stretch of characters of one sort ends at the first one that is not. -/
theorem takeWhile_append_cons (chars : ∀ c ∈ word, p c = true) (stops : p c = false) :
    (word ++ c :: rest).takeWhile p = word := by
  rw [List.takeWhile_append_of_pos chars, List.takeWhile_cons_of_neg (by simp [stops]),
    List.append_nil]

theorem dropWhile_append_cons (chars : ∀ c ∈ word, p c = true) (stops : p c = false) :
    (word ++ c :: rest).dropWhile p = c :: rest := by
  rw [List.dropWhile_append_of_pos chars, List.dropWhile_cons_of_neg (by simp [stops])]

end Stretch

namespace Scalar

variable {word : List Char}

/-- A word at the end of a line is read as its value. -/
theorem read?_word (chars : ∀ c ∈ word, isWordChar c = true) (rest : List Char) :
    read? (word ++ '\n' :: rest) = (ofWord? word).map (·, '\n' :: rest) := by
  unfold read?
  rw [takeWhile_append_cons chars (by decide), dropWhile_append_cons chars (by decide)]
  rfl

theorem hexDigit?_of_isDigit (digit : c.isDigit = true) :
    Quoted.hexDigit? c = some (c.toNat - '0'.toNat) := by
  rw [Quoted.hexDigit?, if_pos digit]

/-- Decimal digits have the value that they are read as. -/
theorem valueIn_ten (digits : ∀ c ∈ word, c.isDigit = true) (n : Nat) :
    word.foldl (fun n c => ((Quoted.hexDigit? c).map (n * 10 + ·)).getD n) n =
      Nat.ofDigitChars 10 word n := by
  induction word generalizing n with
  | nil => rfl
  | cons c word ih =>
    obtain ⟨digit, digits⟩ := List.forall_mem_cons.mp digits
    rw [List.foldl_cons, hexDigit?_of_isDigit digit, ih digits]
    simp [Nat.ofDigitChars, Nat.mul_comm]

theorem isGrouped_of_isDigit (digits : ∀ c ∈ word, c.isDigit = true) (some_digit : word ≠ []) :
    isGrouped Char.isDigit word = true := by
  fun_induction isGrouped Char.isDigit word with
  | case1 => exact absurd rfl some_digit
  | case2 c => exact digits c List.mem_cons_self
  | case3 c rest => cases digits '_' (by simp)
  | case4 c rest alone _ ih =>
    obtain ⟨digit, digits⟩ := List.forall_mem_cons.mp digits
    rw [digit, ih digits fun none => alone none]
    rfl

/-- Only nought is written with a nought in front. -/
theorem head?_toDigits {n : Nat} (positive : n ≠ 0) : (Nat.toDigits 10 n).head? ≠ some '0' := by
  induction n using Nat.strongRecOn with
  | _ n ih =>
    by_cases small : n < 10
    · rw [Nat.toDigits_of_lt_base small]
      interval_cases n
      · exact absurd rfl positive
      all_goals decide
    · have shorter := ih (n / 10) (by omega) (by omega)
      rw [Nat.toDigits_of_base_le (by decide) (by omega)]
      obtain ⟨first, others, leading⟩ :=
        List.exists_cons_of_ne_nil (@Nat.toDigits_ne_nil (n / 10) 10)
      rw [leading] at shorter ⊢
      exact shorter

theorem isDigit_of_mem {n : Nat} : ∀ c ∈ Nat.toDigits 10 n, c.isDigit = true :=
  fun _ => Nat.isDigit_of_mem_toDigits (by decide) (by decide)

theorem isWhole_toDigits (n : Nat) : isWhole (Nat.toDigits 10 n) = true := by
  by_cases positive : n = 0
  · subst positive
    rfl
  · have grouped := isGrouped_of_isDigit (@isDigit_of_mem n) Nat.toDigits_ne_nil
    simp [isWhole, grouped, head?_toDigits positive]

theorem sign_toDigits (n : Nat) : sign (Nat.toDigits 10 n) = (false, Nat.toDigits 10 n) := by
  have digits := @isDigit_of_mem n
  unfold sign
  split
  · rename_i minus
    cases digits '-' (by simp [minus])
  · rename_i plus
    cases digits '+' (by simp [plus])
  · rfl

/-- A number is read back from its digits, if it is not too large. -/
theorem integer?_toDigits {n : Nat} (small : n ≤ maxInteger) :
    integer? (Nat.toDigits 10 n) = some (n : Int) := by
  have digits := @isDigit_of_mem n
  have value : valueIn 10 (Nat.toDigits 10 n) = n := by
    rw [valueIn, valueIn_ten digits, Nat.ofDigitChars_toDigits (by decide) (by decide)]
  unfold integer?
  split
  -- What marks another base is no digit.
  · rename_i based
    cases digits 'x' (by simp [based])
  · rename_i based
    cases digits 'o' (by simp [based])
  · rename_i based
    cases digits 'b' (by simp [based])
  · simp [sign_toDigits, isWhole_toDigits, value, small]

/-- So the word that a number is written as has this number as its value. -/
theorem ofWord?_toDigits {n : Nat} (small : n ≤ maxInteger) :
    ofWord? (Nat.toDigits 10 n) = some (.integer n) := by
  have digits := @isDigit_of_mem n
  have other {word : List Char} (letter : 'e' ∈ word) : Nat.toDigits 10 n ≠ word := by
    rintro rfl
    cases digits 'e' letter
  rw [ofWord?, if_neg (other (by decide)), if_neg (other (by decide)), integer?_toDigits small]

theorem isWordChar_of_isDigit (digit : c.isDigit = true) : isWordChar c = true := by
  simp [isWordChar, Char.isAlphanum, digit]

end Scalar

namespace Document

/-! ## Values -/

/-- A value is read from what is written for it at the end of a line, and the line end is left. -/
structure Reads (value : List Char) (datum : Datum) : Prop where
  skipBlanks_eq : ∀ rest, skipBlanks (value ++ rest) = value ++ rest
  value?_eq : ∀ fuel rest,
    value? (fuel + 1) 0 (value ++ '\n' :: rest) = some (datum, '\n' :: rest)

theorem skipBlanks_cons (solid : isBlank c = false) : skipBlanks (c :: rest) = c :: rest :=
  List.dropWhile_cons_of_neg (by simp [solid])

/-- What starts with a quote is read as quoted text. -/
theorem value?_quoted (fuel : Nat) (quoted : c = '"' ∨ c = '\'') :
    value? (fuel + 1) 0 (c :: rest) =
      (Quoted.read? (c :: rest)).map fun (text, rest) => (.text (String.ofList text), rest) := by
  rcases quoted with rfl | rfl <;> simp [value?]

theorem exists_write (text : List Char) :
    ∃ quote body, (quote = '"' ∨ quote = '\'') ∧ Quoted.write text = quote :: body := by
  unfold Quoted.write
  cases Form.ofText text
  · exact ⟨'"', _, .inl rfl, rfl⟩
  · exact ⟨'\'', _, .inr rfl, rfl⟩
  · exact ⟨'"', _, .inl rfl, rfl⟩
  · exact ⟨'\'', _, .inr rfl, rfl⟩

/-- Every text is read back from its quotes. -/
theorem reads_write (text : List Char) :
    Reads (Quoted.write text) (.text (String.ofList text)) := by
  obtain ⟨quote, body, quoted, starts⟩ := exists_write text
  constructor
  · intro rest
    rw [starts, List.cons_append, skipBlanks_cons (by rcases quoted with rfl | rfl <;> rfl)]
  · intro fuel rest
    have back := Quoted.read?_write text rest
    rw [starts, List.cons_append] at back ⊢
    rw [value?_quoted fuel quoted, back]
    rfl

theorem reads_write_toList (text : String) : Reads (Quoted.write text.toList) (.text text) := by
  simpa using reads_write text.toList

/-- What starts with a sign of a word is read as a word. -/
theorem value?_word (fuel : Nat) (sign : Scalar.isWordChar c = true) :
    value? (fuel + 1) 0 (c :: rest) = Scalar.read? (c :: rest) := by
  have other {d : Char} (bad : Scalar.isWordChar d = false) : c ≠ d := by
    rintro rfl
    rw [bad] at sign
    cases sign
  simp [value?, other (d := '"') (by decide), other (d := '\'') (by decide),
    other (d := '[') (by decide), other (d := '\x7b') (by decide)]

/-- A word is read as its value. -/
theorem reads_word {word : List Char} {datum : Datum} (some_char : word ≠ [])
    (chars : ∀ c ∈ word, Scalar.isWordChar c = true) (means : Scalar.ofWord? word = some datum) :
    Reads word datum := by
  obtain ⟨first, others, rfl⟩ := List.exists_cons_of_ne_nil some_char
  have sign := chars first List.mem_cons_self
  constructor
  · intro rest
    refine skipBlanks_cons ?_
    rw [isBlank, decide_eq_false_iff_not]
    rintro (rfl | rfl) <;> cases sign
  · intro fuel rest
    have read := Scalar.read?_word chars rest
    rw [List.cons_append] at read ⊢
    rw [value?_word fuel sign, read, means]
    rfl

/-- A number is read back from its digits. -/
theorem reads_toDigits {n : Nat} (small : n ≤ Scalar.maxInteger) :
    Reads (Nat.toDigits 10 n) (.ofNat n) :=
  reads_word Nat.toDigits_ne_nil
    (fun c member => Scalar.isWordChar_of_isDigit (Scalar.isDigit_of_mem c member))
    (Scalar.ofWord?_toDigits small)

/-- A truth value is read back from its name. -/
theorem reads_boolean (b : Bool) : Reads (toString b).toList (.boolean b) := by
  cases b
  · exact reads_word (by decide) (List.all_eq_true.mp (by decide)) rfl
  · exact reads_word (by decide) (List.all_eq_true.mp (by decide)) rfl

/-! ## Keys -/

/-- A name that stands for a key without quotes. -/
def IsBare (name : List Char) : Prop := name ≠ [] ∧ name.all isKeyChar = true

instance (name : List Char) : Decidable (IsBare name) := inferInstanceAs (Decidable (_ ∧ _))

section Bare

variable {name : List Char} {others : List Char}

theorem IsBare.isKeyChar_of_mem (bare : IsBare name) : ∀ c ∈ name, isKeyChar c = true :=
  List.all_eq_true.mp bare.2

/-- What starts with a bare key starts with no other character. -/
theorem IsBare.append_ne_cons (bare : IsBare name) (other : isKeyChar c = false) :
    name ++ rest ≠ c :: others := by
  obtain ⟨first, more, rfl⟩ := List.exists_cons_of_ne_nil bare.1
  intro starts
  rw [← (List.cons.inj starts).1, bare.isKeyChar_of_mem first List.mem_cons_self] at other
  cases other

theorem IsBare.skipBlanks_append (bare : IsBare name) :
    skipBlanks (name ++ rest) = name ++ rest := by
  obtain ⟨first, others, starts⟩ : ∃ first others, name ++ rest = first :: others :=
    List.exists_cons_of_ne_nil (by simp [bare.1])
  rw [starts]
  refine skipBlanks_cons ?_
  rw [isBlank, decide_eq_false_iff_not]
  rintro (rfl | rfl) <;> exact bare.append_ne_cons (by decide) starts

/-- A bare key is read up to the first other character. -/
theorem key?_bare (bare : IsBare name) (stops : isKeyChar c = false) :
    key? (name ++ c :: rest) = some (name, c :: rest) := by
  unfold key?
  split
  · rename_i starts
    exact absurd starts (bare.append_ne_cons (by decide))
  · rename_i starts
    exact absurd starts (bare.append_ne_cons (by decide))
  · have chars := bare.isKeyChar_of_mem
    rw [takeWhile_append_cons chars stops, dropWhile_append_cons chars stops, if_neg bare.1]

/-- It is the whole key if no dot comes next, and the blanks behind it are passed over. -/
theorem keys?_bare (bare : IsBare name) (stops : isKeyChar c = false)
    (single : (skipBlanks (c :: rest)).head? ≠ some '.') :
    keys? (name ++ c :: rest) = some ([String.ofList name], skipBlanks (c :: rest)) := by
  show parts? (78 + 1) _ = _
  rw [parts?, bare.skipBlanks_append, key?_bare bare stops]
  simp only [Option.bind_eq_bind, Option.bind_some]
  split
  · rename_i dot
    simp [dot] at single
  · rfl

end Bare

/-! ## Lines -/

/-- A line of a document as it is written. -/
inductive Line
  | assign (name : String) (value : List Char) (datum : Datum)
  | header (name : String)
  | empty

namespace Line

/-- The characters of a line, the line end included. -/
def text : Line → List Char
  | assign name value _ => name.toList ++ ' ' :: '=' :: ' ' :: (value ++ ['\n'])
  | header name => '[' :: (name.toList ++ [']', '\n'])
  | empty => ['\n']

/-- The statement that a line makes. -/
def statement? : Line → Option Statement
  | assign name _ datum => some (.assign [name] datum)
  | header name => some (.header [name])
  | empty => none

/-- Names are bare, and the value of an assignment is read back. -/
def WellFormed : Line → Prop
  | assign name value datum => IsBare name.toList ∧ Reads value datum
  | header name => IsBare name.toList
  | empty => True

end Line

variable {name : String} {value : List Char} {datum : Datum}

/-- An assignment is read as such. -/
theorem statement?_assign (bare : IsBare name.toList) (reads : Reads value datum) :
    statement? (name.toList ++ ' ' :: '=' :: ' ' :: (value ++ '\n' :: rest)) =
      some (.assign [name] datum, rest) := by
  have key : keys? (name.toList ++ ' ' :: '=' :: ' ' :: (value ++ '\n' :: rest)) =
      some ([name], '=' :: ' ' :: (value ++ '\n' :: rest)) := by
    rw [keys?_bare bare (by decide) (by change some '=' ≠ some '.'; decide), String.ofList_toList]
    rfl
  have behind : skipBlanks (' ' :: (value ++ '\n' :: rest)) = value ++ '\n' :: rest :=
    reads.skipBlanks_eq _
  unfold statement?
  split
  · rename_i starts
    exact absurd starts (bare.append_ne_cons (by decide))
  · rename_i starts
    exact absurd starts (bare.append_ne_cons (by decide))
  · rw [key]
    simp only [Option.bind_eq_bind, Option.bind_some]
    rw [behind, reads.value?_eq]
    rfl

/-- A header is read as such. -/
theorem statement?_header (bare : IsBare name.toList) :
    statement? ('[' :: (name.toList ++ ']' :: '\n' :: rest)) = some (.header [name], rest) := by
  have key : keys? (name.toList ++ ']' :: '\n' :: rest) = some ([name], ']' :: '\n' :: rest) := by
    rw [keys?_bare bare (by decide) (by change some ']' ≠ some '.'; decide), String.ofList_toList]
    rfl
  unfold statement?
  split
  · rename_i starts
    exact absurd (List.cons.inj starts).2 (bare.append_ne_cons (by decide))
  · rename_i starts
    rw [← (List.cons.inj starts).2, key]
    rfl
  · rename_i single
    exact absurd rfl (single _)

/-- What starts neither with a line end nor with a comment starts with a statement. -/
theorem statements?_of_statement? {input : List Char} {statement : Statement} (fuel : Nat)
    (solid : skipBlanks input = input) (some_char : input ≠ [])
    (starts : ∀ c ∈ ['\n', '\r', '#'], ∀ others, input ≠ c :: others)
    (reads : statement? input = some (statement, rest)) :
    statements? (fuel + 1) input = (statements? fuel rest).map (statement :: ·) := by
  rw [statements?, solid]
  split
  · exact absurd rfl some_char
  · exact absurd rfl (starts '\n' (by simp) _)
  · exact absurd rfl (starts '\r' (by simp) _)
  · exact absurd rfl (starts '#' (by simp) _)
  · rw [reads]
    rfl

/-- A line gives its statement, if it makes one, and what follows is left. -/
theorem statements?_line {line : Line} (sound : line.WellFormed) (fuel : Nat) :
    statements? (fuel + 1) (line.text ++ rest) =
      (statements? fuel rest).map (line.statement?.toList ++ ·) := by
  cases line with
  | assign name value datum =>
    obtain ⟨bare, reads⟩ := sound
    have other : ∀ c ∈ ['\n', '\r', '#'], isKeyChar c = false := by
      intro c member
      simp only [List.mem_cons, List.not_mem_nil, or_false] at member
      rcases member with rfl | rfl | rfl <;> rfl
    have line : (Line.assign name value datum).text ++ rest =
        name.toList ++ ' ' :: '=' :: ' ' :: (value ++ '\n' :: rest) := by simp [Line.text]
    rw [line]
    exact statements?_of_statement? fuel bare.skipBlanks_append (by simp [bare.1])
      (fun c member _ => bare.append_ne_cons (other c member)) (statement?_assign bare reads)
  | header name =>
    have line : (Line.header name).text ++ rest = '[' :: (name.toList ++ ']' :: '\n' :: rest) := by
      simp [Line.text]
    rw [line]
    exact statements?_of_statement? fuel (skipBlanks_cons rfl) (List.cons_ne_nil _ _) (by simp)
      (statement?_header sound)
  | empty =>
    simp [Line.text, Line.statement?, statements?, skipBlanks_cons (c := '\n') rfl]

/-- The lines of a document are read as their statements, in order. -/
theorem statements?_lines {lines : List Line} (sound : ∀ line ∈ lines, line.WellFormed)
    {fuel : Nat} (enough : lines.length < fuel) :
    statements? fuel (lines.flatMap Line.text) = some (lines.filterMap Line.statement?) := by
  induction lines generalizing fuel with
  | nil =>
    obtain ⟨more, rfl⟩ := Nat.exists_eq_succ_of_ne_zero (Nat.ne_of_gt enough)
    rfl
  | cons line lines ih =>
    obtain ⟨first, sound⟩ := List.forall_mem_cons.mp sound
    obtain ⟨more, rfl⟩ := Nat.exists_eq_succ_of_ne_zero (Nat.ne_of_gt (Nat.zero_lt_of_lt enough))
    have later := ih sound (Nat.lt_of_succ_lt_succ enough)
    rw [List.flatMap_cons, statements?_line first more, later]
    cases made : line.statement? <;> simp [made]

/-- No line is without a character, so a document is long enough to be read to its end. -/
theorem length_le_lines (lines : List Line) : lines.length ≤ (lines.flatMap Line.text).length := by
  induction lines with
  | nil => exact Nat.le_refl 0
  | cons line lines ih =>
    have some_char : 0 < line.text.length := by cases line <;> simp [Line.text]
    simp only [List.flatMap_cons, List.length_append, List.length_cons]
    omega

/-- No line starts with the mark that may stand at the start of a file. -/
theorem head?_lines {lines : List Line} (sound : ∀ line ∈ lines, line.WellFormed) :
    (lines.flatMap Line.text).head? ≠ some byteOrderMark := by
  intro starts
  obtain ⟨others, marked⟩ := List.head?_eq_some_iff.mp starts
  cases lines with
  | nil => cases marked
  | cons line lines =>
    obtain ⟨first, -⟩ := List.forall_mem_cons.mp sound
    rw [List.flatMap_cons] at marked
    cases line with
    | assign name value datum =>
      rw [Line.text, List.append_assoc] at marked
      exact first.1.append_ne_cons (by decide) marked
    | header name => exact absurd (List.cons.inj marked).1 (by decide)
    | empty => exact absurd (List.cons.inj marked).1 (by decide)

/-- A document is read as the table that the statements of its lines build. -/
theorem parse?_lines {lines : List Line} (sound : ∀ line ∈ lines, line.WellFormed) :
    parse? (lines.flatMap Line.text) =
      (Statement.build? (lines.filterMap Line.statement?)).map .table := by
  have enough := Nat.lt_succ_of_le (length_le_lines lines)
  unfold parse?
  simp only [if_neg (head?_lines sound)]
  rw [statements?_lines sound enough]
  simp only [Option.bind_eq_bind, Option.bind_some]
  cases Statement.build? (lines.filterMap Line.statement?) <;> rfl

end Document

end Modeset.Toml
