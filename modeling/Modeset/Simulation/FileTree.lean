import Modeset.Fault
import Modeset.Path

/-!
# A tree of files

Files and directories in memory. Paths are resolved step by step, as a kernel does: each step but
the last must be a directory that is there, and the faults are those that a kernel gives.

## Main definitions

* `FileTree` — directories, files and the directory that relative paths start from
* `FileTree.resolve` — what a path leads to
* `FileTree.exists?`, `FileTree.openFile`, `FileTree.content`, `FileTree.writeFile`,
  `FileTree.createDirectories` — the operations
-/

namespace Modeset.Simulation

/-- Where a file or directory is: the names on the way from the root. -/
abbrev Place := List (List UInt8)

/-- What may be at a place. -/
inductive FileTree.Item
  | directory
  | file (content : List UInt8)
  deriving DecidableEq, Repr

/-- A tree of files. The root is a directory without being listed. -/
structure FileTree where
  items : List (Place × FileTree.Item) := []
  /-- The directory that relative paths start from. -/
  current : Place := []
  deriving DecidableEq, Repr

namespace FileTree

/-- What is at a place. -/
def item? (tree : FileTree) : Place → Option Item
  | [] => some .directory
  | place => (tree.items.find? (·.1 = place)).map (·.2)

/-- The tree with something at a place. -/
def put (tree : FileTree) (place : Place) (item : Item) : FileTree :=
  if tree.items.any (·.1 = place) then
    { tree with
      items := tree.items.map fun entry => if entry.1 = place then (place, item) else entry }
  else
    { tree with items := tree.items ++ [(place, item)] }

/-- The tree with a directory at a place and at all places on the way there. -/
def withDirectories (tree : FileTree) (place : Place) : FileTree :=
  (List.range place.length).foldl
    (fun tree count =>
      let outer := place.take (count + 1)
      if (tree.item? outer).isSome then tree else tree.put outer .directory)
    tree

/-- What a path leads to. -/
inductive Target
  /-- Something that is there. -/
  | found (place : Place) (item : Item)
  /-- A free place in a directory that is there. -/
  | vacant (place : Place)
  deriving DecidableEq, Repr

/-- A name is too long from here on. -/
def maxName : Nat := 255

/-- A path is too long from here on. -/
def maxPath : Nat := 4096

/-- Some step of the path is not there. -/
def missing : Fault := .os 2

/-- Some step of the path but the last is no directory. -/
def notDirectory : Fault := .os 20

/-- What should be a file is a directory. -/
def isDirectory : Fault := .os 21

/-- A name or the whole path is too long. -/
def tooLong : Fault := .os 36

/-- Follow the steps of a path from a place. A step that says to stay demands a directory, too. -/
def walk (tree : FileTree) (place : Place) (item : Item) :
    List (List UInt8) → Except Fault Target
  | [] => .ok (.found place item)
  | step :: rest =>
    if item ≠ .directory then .error notDirectory
    else if step = [] ∨ step = Path.dot then walk tree place item rest
    else if step = Path.dotDot then walk tree place.dropLast .directory rest
    else if maxName < step.length then .error tooLong
    else
      let next := place ++ [step]
      match tree.item? next with
      | some item => walk tree next item rest
      | none => if rest.all (· = []) then .ok (.vacant next) else .error missing

/-- Refuse what cannot be a path. -/
def check (path : Path) : Except Fault Unit :=
  if path.bytes.contains 0 then
    .error (.invalidInput "file name contained an unexpected NUL byte")
  else if path.bytes = [] then .error missing
  else if maxPath ≤ path.bytes.length then .error tooLong
  else .ok ()

/-- What a path leads to, if it can be one. -/
def follow (tree : FileTree) (path : Path) : Except Fault Target :=
  let start := if path.isAbsolute then [] else tree.current
  tree.walk start .directory (Path.segments path.bytes)

/-- What a path leads to. -/
def resolve (tree : FileTree) (path : Path) : Except Fault Target := do
  check path
  tree.follow path

/-- The path without its last name, if it ends in a name and a slash behind it. -/
def beforeSlash? (path : Path) : Option Path :=
  let trimmed := path.bytes.reverse.dropWhile (· = Path.slash)
  let name := trimmed.takeWhile (· ≠ Path.slash)
  if trimmed.length = path.bytes.length ∨ name = [] ∨ name = Path.dot ∨ name = Path.dotDot then
    none
  else
    some ⟨(trimmed.drop name.length).reverse ++ Path.dot⟩

/-- Whether something is at a path. -/
def exists? (tree : FileTree) (path : Path) : Bool :=
  match tree.resolve path with
  | .ok (.found _ _) => true
  | _ => false

/-- Whether a directory is at a path. -/
def isDirectory? (tree : FileTree) (path : Path) : Bool :=
  match tree.resolve path with
  | .ok (.found _ .directory) => true
  | _ => false

/-- The content of the file at a path. -/
def content (tree : FileTree) (path : Path) : Except Fault (List UInt8) := do
  match ← tree.resolve path with
  | .found _ (.file content) => return content
  | .found _ .directory => throw isDirectory
  | .vacant _ => throw missing

/-- Change the tree: whether it could be done, and the tree behind it. -/
def change (tree : FileTree) (act : FileTree → Except Fault FileTree) :
    Except Fault Unit × FileTree :=
  match act tree with
  | .ok after => (.ok (), after)
  | .error fault => (.error fault, tree)

/-- The tree after a file has been written. A name with a slash behind it is none of a file. -/
def withFile (tree : FileTree) (path : Path) (content : List UInt8) : Except Fault FileTree := do
  check path
  if let some outer := beforeSlash? path then
    let _ ← tree.follow outer
    throw isDirectory
  match ← tree.follow path with
  | .found _ .directory => throw isDirectory
  | .found place (.file _) | .vacant place => return tree.put place (.file content)

/-- Write a file. -/
def writeFile (tree : FileTree) (path : Path) (content : List UInt8) :
    Except Fault Unit × FileTree :=
  tree.change (·.withFile path content)

/-- Open the file at a path for reading and writing. -/
def openFile (tree : FileTree) (path : Path) : Except Fault Unit := do
  let _ ← tree.content path

/-- The tree after one directory has been made. -/
def createDirectory (tree : FileTree) (path : Path) : Except Fault FileTree := do
  match ← tree.resolve path with
  | .found _ _ => throw (.os 17)
  | .vacant place => return tree.put place .directory

/-- The tree after one directory has been made, or as it is if there is one. -/
def ensureDirectory (tree : FileTree) (path : Path) : Except Fault FileTree :=
  match tree.createDirectory path with
  | .ok tree => .ok tree
  | .error fault => if tree.isDirectory? path then .ok tree else .error fault

/-- Make the first of some directories. The directories that it lies in follow it, nearest first,
and are made if it turns out that they are missing. Those that have been made remain if a later one
cannot be made. -/
def ensureDirectories (tree : FileTree) : List Path → Except Fault Unit × FileTree
  | [] => (.ok (), tree)
  | path :: outer =>
    if path.bytes = [] then (.ok (), tree)
    else match tree.ensureDirectory path with
      | .ok after => (.ok (), after)
      | .error fault =>
        if fault = missing then
          match tree.ensureDirectories outer with
          | (.ok (), after) => after.change (·.ensureDirectory path)
          | failed => failed
        else (.error fault, tree)

/-- Make a directory and those that it lies in. -/
def createDirectories (tree : FileTree) (path : Path) : Except Fault Unit × FileTree :=
  tree.ensureDirectories (path :: path.ancestors)

/-- The files at and below a place, with their content. -/
def filesBelow (tree : FileTree) (place : Place) : List (Place × List UInt8) :=
  tree.items.filterMap fun
    | (other, .file content) => if place.isPrefixOf other then some (other, content) else none
    | (_, .directory) => none

end FileTree

end Modeset.Simulation
