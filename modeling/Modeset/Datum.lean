/-!
# Data

Configuration files and reports are made of data without a fixed type: words, numbers, lists and
tables. A record of this library is read from a datum by the names of its fields, and an enumeration
by the name of its alternative. The formats differ in two small decisions, which a `Dialect` states.

## Main definitions

* `Datum` — a piece of data
* `Dialect` — what a format allows beyond the plain forms
* `Datum.fields?`, `Datum.keyword?`, `Datum.word?` — reading records, alternatives, 32-bit numbers

## Main results

* `Datum.fields?_table` — of a table, only what its named entries hold is read
-/

namespace Modeset

/-- A piece of data. Numbers with a fraction or an exponent, and dates, are kept as they are
spelled, since nothing is computed from them. -/
inductive Datum
  | null
  | boolean (value : Bool)
  | integer (value : Int)
  | real (spelling : String)
  | moment (spelling : String)
  | text (value : String)
  | list (items : List Datum)
  | table (entries : List (String × Datum))
  deriving Inhabited

/-- The decisions in which data formats differ. -/
structure Dialect where
  /-- Whether a list that gives a record's fields in order may go on past the last of them. -/
  allowsSurplus : Bool
  /-- Whether this is the content behind the name of an alternative that has no content. -/
  isUnit : Datum → Bool

namespace Datum

/-- The entry of a table under a key. -/
def lookup? (entries : List (String × Datum)) (key : String) : Option Datum :=
  (entries.find? (·.1 = key)).map (·.2)

/-- What a datum gives for each field of a record: the entries of a table by name, or the items of a
list by place. Entries under other names are ignored. -/
def fields? (dialect : Dialect) (names : List String) : Datum → Option (List (Option Datum))
  | table entries => some (names.map (lookup? entries))
  | list items =>
    if items.length ≤ names.length ∨ dialect.allowsSurplus then
      some ((List.range names.length).map (items[·]?))
    else
      none
  | _ => none

@[simp] theorem fields?_table (dialect : Dialect) (names : List String)
    (entries : List (String × Datum)) :
    fields? dialect names (table entries) = some (names.map (lookup? entries)) := rfl

/-- The name of the alternative that a datum stands for: a text, or a table whose only entry is that
name with nothing behind it. -/
def keyword? (dialect : Dialect) : Datum → Option String
  | text name => some name
  | table [(name, content)] => if dialect.isUnit content then some name else none
  | _ => none

/-- The unsigned number of 32 bits that a datum is. -/
def word? : Datum → Option UInt32
  | integer (.ofNat n) => if n < UInt32.size then some n.toUInt32 else none
  | _ => none

/-- The truth value that a datum is. -/
def boolean? : Datum → Option Bool
  | boolean value => some value
  | _ => none

/-- The text that a datum is. -/
def text? : Datum → Option String
  | text value => some value
  | _ => none

/-- The datum of an unsigned number. -/
def ofNat (n : Nat) : Datum := integer n

/-- The datum of an optional value: `null` if it is missing. -/
def ofOption {α : Type} (f : α → Datum) : Option α → Datum
  | some a => f a
  | none => null

end Datum

end Modeset
