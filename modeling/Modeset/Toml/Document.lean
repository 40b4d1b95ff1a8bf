import Modeset.Toml.Scalar
import Modeset.Toml.Table

/-!
# TOML documents

A document is a sequence of statements on lines of their own, with comments. Its values nest, up to
a fixed depth.

## Main definitions

* `Document.keys?` — a dotted key
* `Document.value?` — a value
* `Document.statements?` — the statements of a document
* `Document.parse?` — the table that a document describes
* `dialect` — how records and alternatives are read from TOML data
-/

namespace Modeset.Toml

namespace Document

/-- How deep values may nest, and how many parts a key may have: fewer than this. -/
def nestingLimit : Nat := 80

/-- A character of a key that is not quoted. -/
def isKeyChar (c : Char) : Bool := c.isAlphanum || c = '_' || c = '-'

/-- One part of a key. -/
def key? (input : List Char) : Option (List Char × List Char) :=
  match input with
  | '"' :: _ | '\'' :: _ => Quoted.readLine? input
  | input =>
    let name := input.takeWhile isKeyChar
    if name = [] then none else some (name, input.dropWhile isKeyChar)

/-- The parts of a key with dots between them, blanks around each. `fuel` bounds their number. -/
def parts? : Nat → List Char → Option (List String × List Char)
  | 0, _ => none
  | fuel + 1, input => do
    let (name, rest) ← key? (skipBlanks input)
    match skipBlanks rest with
    | '.' :: rest =>
      (parts? fuel rest).map fun (path, rest) => (String.ofList name :: path, rest)
    | rest => some ([String.ofList name], rest)

/-- A dotted key. -/
def keys? (input : List Char) : Option (List String × List Char) := parts? (nestingLimit - 1) input

/-- The input behind the rest of a comment, without the line end. -/
def skipComment (input : List Char) : List Char := input.dropWhile isPlain

/-- The input without blanks, line ends and comments at its start. A comment that is not closed by a
line end stays. -/
def skipLines (comment : Bool) : List Char → List Char
  | [] => []
  | '\n' :: rest => skipLines false rest
  | '\r' :: '\n' :: rest => skipLines false rest
  | c :: rest =>
    if comment ∧ isPlain c ∨ isBlank c then skipLines comment rest
    else if c = '#' ∧ ¬ comment then skipLines true rest
    else c :: rest

mutual

/-- A value, inside `depth` others. `fuel` bounds the steps. -/
def value? (fuel depth : Nat) (input : List Char) : Option (Datum × List Char) :=
  match fuel with
  | 0 => none
  | fuel + 1 =>
    match input with
    | '"' :: _ | '\'' :: _ =>
      (Quoted.read? input).map fun (text, rest) => (.text (String.ofList text), rest)
    | '[' :: rest =>
      if depth + 1 < nestingLimit then
        (items? fuel (depth + 1) (skipLines false rest)).map fun (items, rest) =>
          (.list items, rest)
      else
        none
    | '\x7b' :: rest =>
      if depth + 1 < nestingLimit then do
        let (pairs, rest) ←
          match skipBlanks rest with
          | '\x7d' :: rest => some ([], rest)
          | rest => pairs? fuel (depth + 1) rest
        let entries ← Statement.build? pairs
        some (.table entries, rest)
      else
        none
    | input => Scalar.read? input

/-- The items of a list and its closing bracket. -/
def items? (fuel depth : Nat) (input : List Char) : Option (List Datum × List Char) :=
  match fuel with
  | 0 => none
  | fuel + 1 =>
    match input with
    | ']' :: rest => some ([], rest)
    | input => do
      let (item, rest) ← value? fuel depth input
      match skipLines false rest with
      | ',' :: rest =>
        (items? fuel depth (skipLines false rest)).map fun (items, rest) => (item :: items, rest)
      | ']' :: rest => some ([item], rest)
      | _ => none

/-- The assignments of a table on one line and its closing brace. -/
def pairs? (fuel depth : Nat) (input : List Char) : Option (List Statement × List Char) :=
  match fuel with
  | 0 => none
  | fuel + 1 => do
    let (path, rest) ← keys? input
    match rest with
    | '=' :: rest =>
      let (value, rest) ← value? fuel depth (skipBlanks rest)
      match skipBlanks rest with
      | ',' :: rest =>
        (pairs? fuel depth rest).map fun (pairs, rest) => (.assign path value :: pairs, rest)
      | '\x7d' :: rest => some ([.assign path value], rest)
      | _ => none
    | _ => none

end

/-- The input behind the end of a line, which may hold blanks and a comment. -/
def endLine? (input : List Char) : Option (List Char) :=
  let rest := skipBlanks input
  let rest := if rest.head? = some '#' then skipComment rest else rest
  match rest with
  | [] => some []
  | '\n' :: rest => some rest
  | '\r' :: '\n' :: rest => some rest
  | _ => none

/-- The statement at the start of the input, and what follows its line. -/
def statement? (input : List Char) : Option (Statement × List Char) :=
  match input with
  | '[' :: '[' :: rest => do
    let (path, rest) ← keys? rest
    match rest with
    | ']' :: ']' :: rest => (endLine? rest).map (.element path, ·)
    | _ => none
  | '[' :: rest => do
    let (path, rest) ← keys? rest
    match rest with
    | ']' :: rest => (endLine? rest).map (.header path, ·)
    | _ => none
  | input => do
    let (path, rest) ← keys? input
    match rest with
    | '=' :: rest =>
      let (value, rest) ← value? (rest.length + 1) 0 (skipBlanks rest)
      (endLine? rest).map (.assign path value, ·)
    | _ => none

/-- The statements of a document, each of which takes one step of `fuel`, as does an empty line. -/
def statements? : Nat → List Char → Option (List Statement)
  | 0, _ => none
  | fuel + 1, input =>
    match skipBlanks input with
    | [] => some []
    | '\n' :: rest => statements? fuel rest
    | '\r' :: '\n' :: rest => statements? fuel rest
    | '#' :: rest => (endLine? ('#' :: rest)).bind (statements? fuel)
    | input => do
      let (statement, rest) ← statement? input
      (statements? fuel rest).map (statement :: ·)

/-- The mark that may stand before the first character of a file. -/
def byteOrderMark : Char := '\uFEFF'

/-- The table that a document describes, if it is one. -/
def parse? (text : List Char) : Option Datum := do
  let text := if text.head? = some byteOrderMark then text.tail else text
  let statements ← statements? (text.length + 1) text
  let entries ← Statement.build? statements
  some (.table entries)

end Document

/-- In TOML a list may have more items than the record has fields, and an empty table or list stands
behind the name of an alternative. -/
def dialect : Dialect where
  allowsSurplus := true
  isUnit
    | .table [] | .list [] => true
    | _ => false

end Modeset.Toml
