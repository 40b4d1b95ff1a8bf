import Modeset.Datum

/-!
# Tables under construction

A TOML file builds its table statement by statement. A header opens a table, or the next table of a
list, and the assignments after it go there; dotted keys open tables on the way. A table is opened
once: what may be added to it later depends on how it came into being.

## Main definitions

* `Statement` — an assignment, a table header, or a header for the next table of a list
* `Node` — a value, a table, or a list of tables, while the file is being read
* `Statement.build?` — the table that statements build, unless one of them opens something twice

## Main results

* `Entries.data_nil` — no statement, no entry
-/

namespace Modeset.Toml

/-- One statement of a file. Keys are paths of names. -/
inductive Statement
  | assign (path : List String) (value : Datum)
  | header (path : List String)
  | element (path : List String)

/-- How a table came into being. -/
inductive Style
  /-- A header named a table inside it, but not itself yet. -/
  | passed
  /-- The dotted key of an assignment went through it. -/
  | dotted
  /-- It has its own header, or is the table of the whole file. -/
  | headed
  deriving DecidableEq, Repr

/-- Something that a key names while the file is being read. Of a list of tables the latest one
comes first: it is the one that can still grow. -/
inductive Node
  | value (datum : Datum)
  | table (style : Style) (entries : List (String × Node))
  | tables (latestFirst : List (List (String × Node)))

/-- The entries of a table while the file is being read. -/
abbrev Entries := List (String × Node)

namespace Entries

/-- The entries after `change` has been made to what `key` names, which may refuse. -/
def update (key : String) (change : Option Node → Option Node) : Entries → Option Entries
  | [] => (change none).map fun node => [(key, node)]
  | (name, node) :: rest =>
    if name = key then (change (some node)).map fun node => (name, node) :: rest
    else (update key change rest).map ((name, node) :: ·)

/-- Make a change to the table that a path leads to, which is given with how it came into being.
Tables that are missing on the way are created. By dotted keys no table can be entered that has its
own header, and by no path a value. -/
def descend (dotted : Bool) (change : Style → Entries → Option Entries) :
    List String → Style → Entries → Option Entries
  | [], style, entries => change style entries
  | key :: path, _, entries =>
    entries.update key fun
      | none =>
        let style := if dotted then Style.dotted else .passed
        (descend dotted change path style []).map (.table style)
      | some (.value _) => none
      | some (.tables []) => none
      | some (.tables (latest :: earlier)) =>
        (descend dotted change path .headed latest).map fun latest => .tables (latest :: earlier)
      | some (.table style entries) =>
        if dotted ∧ style = .headed then none
        else (descend dotted change path style entries).map (.table style)

/-- Assign a value under a path of keys, which must name nothing yet. The table it goes to is the
one at hand for a single key, and one that dotted keys made for a longer path. -/
def assign (path : List String) (value : Datum) (entries : Entries) : Option Entries :=
  match path.getLast? with
  | none => none
  | some key =>
    let add := fun (style : Style) (entries : Entries) =>
      if style = .dotted ↔ path.length = 1 then none
      else entries.update key fun
        | none => some (.value value)
        | some _ => none
    descend true add path.dropLast .headed entries

/-- Open the table that a header names: a new one, or one that was only passed through so far. -/
def openTable (path : List String) (entries : Entries) : Option Entries :=
  match path.getLast? with
  | none => none
  | some key =>
    let add := fun (_ : Style) (entries : Entries) =>
      entries.update key fun
        | none => some (.table .headed [])
        | some (.table .passed entries) => some (.table .headed entries)
        | some _ => none
    descend false add path.dropLast .headed entries

/-- Open the next table of the list that a header names. -/
def openElement (path : List String) (entries : Entries) : Option Entries :=
  match path.getLast? with
  | none => none
  | some key =>
    let add := fun (_ : Style) (entries : Entries) =>
      entries.update key fun
        | none => some (.tables [[]])
        | some (.tables latestFirst) => some (.tables ([] :: latestFirst))
        | some _ => none
    descend false add path.dropLast .headed entries

end Entries

mutual

/-- What a node amounts to once the file is read. -/
def Node.datum : Node → Datum
  | .value datum => datum
  | .table _ entries => .table (Entries.data entries)
  | .tables latestFirst => .list (Entries.dataOfTables latestFirst).reverse

/-- What entries amount to once the file is read. -/
def Entries.data : List (String × Node) → List (String × Datum)
  | [] => []
  | (key, node) :: rest => (key, node.datum) :: Entries.data rest

/-- What the tables of a list amount to. -/
def Entries.dataOfTables : List (List (String × Node)) → List Datum
  | [] => []
  | entries :: rest => .table (Entries.data entries) :: Entries.dataOfTables rest

end

@[simp] theorem Entries.data_nil : Entries.data [] = [] := by simp [Entries.data]

namespace Statement

/-- The entries and the path of the open table after one more statement. -/
def place (state : Entries × List String) : Statement → Option (Entries × List String)
  | assign path value =>
    let (entries, current) := state
    (Entries.descend false (fun _ table => Entries.assign path value table) current .headed
      entries).map (·, current)
  | header path => (Entries.openTable path state.1).map (·, path)
  | element path => (Entries.openElement path state.1).map (·, path)

/-- The entries of the table that statements build. -/
def build? (statements : List Statement) : Option (List (String × Datum)) :=
  (statements.foldlM place ([], [])).map fun (entries, _) => Entries.data entries

end Statement

end Modeset.Toml
