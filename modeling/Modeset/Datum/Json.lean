import Modeset.Datum
import Modeset.Text.Layout

/-!
# JSON text

Reports are printed as JSON, one item a line, indented by two blanks a level.

## Main definitions

* `Json.quote` — a text between quotes
* `Json.render` — a datum as indented text
* `Json.dialect` — how records and alternatives are read from JSON data
-/

namespace Modeset.Json

/-- How a character is written between quotes. -/
def escape (c : Char) : String :=
  match c with
  | '"' => "\\\""
  | '\\' => "\\\\"
  | '\x08' => "\\b"
  | '\x0c' => "\\f"
  | '\n' => "\\n"
  | '\r' => "\\r"
  | '\t' => "\\t"
  | c => if c.toNat < 0x20 then "\\u" ++ Layout.hex 4 c.toNat else c.toString

/-- A text between quotes. -/
def quote (text : String) : String := "\"" ++ String.join (text.toList.map escape) ++ "\""

/-- The start of a line at some depth. -/
def newline (depth : Nat) : String := "\n" ++ String.ofList (List.replicate (2 * depth) ' ')

/-- Items between brackets, each on a line of its own. -/
def enclose (opening closing : String) (depth : Nat) (items : List String) : String :=
  match items with
  | [] => opening ++ closing
  | items =>
    opening ++ newline (depth + 1) ++ (("," ++ newline (depth + 1)).intercalate items) ++
      newline depth ++ closing

mutual

/-- A datum as text that starts at some depth. -/
def renderAt (depth : Nat) : Datum → String
  | .null => "null"
  | .boolean value => if value then "true" else "false"
  | .integer value => toString value
  | .real spelling | .moment spelling => spelling
  | .text value => quote value
  | .list items => enclose "[" "]" depth (renderItems (depth + 1) items)
  | .table entries => enclose "\x7b" "\x7d" depth (renderEntries (depth + 1) entries)

/-- The items of a list as texts. -/
def renderItems (depth : Nat) : List Datum → List String
  | [] => []
  | item :: rest => renderAt depth item :: renderItems depth rest

/-- The entries of a table as texts. -/
def renderEntries (depth : Nat) : List (String × Datum) → List String
  | [] => []
  | (key, value) :: rest =>
    (quote key ++ ": " ++ renderAt depth value) :: renderEntries depth rest

end

/-- A datum as indented text. -/
def render (datum : Datum) : String := renderAt 0 datum

/-- In JSON a list has no more items than the record has fields, and `null` stands behind the name
of an alternative. -/
def dialect : Dialect where
  allowsSurplus := false
  isUnit
    | .null => true
    | _ => false

end Modeset.Json
