import Modeset.Text.Quoted

/-!
# Paths

A path is the byte string that names a file. Two paths may be spelled differently and mean the same:
repeated slashes, `.` steps inside and a slash at the end do not count, a leading `./` does.

## Main definitions

* `Path` — a path as it is spelled
* `Path.components` — the steps it takes
* `Path.same` — equality of paths by their steps
* `Path.parent?`, `Path.join` — the directory a path lies in, a path below another
* `Path.display`, `Path.quoted` — a path as text, and in quotes

## Main results

* `Path.same_refl` — every path is the same as itself
-/

namespace Modeset

/-- The byte string that names a file. -/
structure Path where
  bytes : List UInt8
  deriving DecidableEq, Repr

namespace Path

/-- The slash between two steps of a path. -/
def slash : UInt8 := 0x2F

/-- The name of a directory inside itself. -/
def dot : List UInt8 := [0x2E]

/-- The name of the directory above. -/
def dotDot : List UInt8 := [0x2E, 0x2E]

/-- The path spelled by a text. -/
def ofString (text : String) : Path := ⟨Utf8.bytes text⟩

/-- The path as text, each broken run of bytes replaced. -/
def display (p : Path) : String := Utf8.lossy p.bytes

/-- The path as text, if its bytes are text. -/
def text? (p : Path) : Option (List Char) := Utf8.decode? p.bytes

/-- The path in quotes. -/
def quoted (p : Path) : String := Quoted.quote p.bytes

/-- Whether the path starts from the root directory. -/
def isAbsolute (p : Path) : Bool := p.bytes.head? = some slash

/-- The stretches between the slashes of a byte string, empty ones included. -/
def segments : List UInt8 → List (List UInt8)
  | [] => [[]]
  | b :: rest =>
    if b = slash then [] :: segments rest
    else match segments rest with
      | [] => [[b]]
      | segment :: others => (b :: segment) :: others

/-- One step of a path. -/
inductive Component
  | root
  | current
  | parent
  | name (bytes : List UInt8)
  deriving DecidableEq, Repr

/-- The step that a stretch between slashes stands for, if it is one. -/
def component? (segment : List UInt8) : Option Component :=
  if segment = [] ∨ segment = dot then none
  else if segment = dotDot then some .parent
  else some (.name segment)

/-- The steps of a path. A `.` is a step only where the whole path begins with it. -/
def components (p : Path) : List Component :=
  let parts := segments p.bytes
  let start :=
    if p.isAbsolute then [Component.root]
    else if parts.head? = some dot then [Component.current] else []
  start ++ parts.filterMap component?

/-- Whether two paths take the same steps. -/
def same (p q : Path) : Bool := p.components = q.components

@[simp] theorem same_refl (p : Path) : p.same p = true := by simp [same]

/-- The path that is spelled by stretches with slashes between them. -/
def ofSegments (parts : List (List UInt8)) : Path :=
  ⟨(parts.intersperse [slash]).flatten⟩

/-- Stretches without those at the end that are no step. The last argument says whether a `.` in
first place is one. -/
def dropIdle (leadingDot : Bool) (parts : List (List UInt8)) : List (List UInt8) :=
  let kept := (parts.reverse.dropWhile fun segment => (component? segment).isNone).reverse
  if kept = [] ∧ leadingDot then [dot] else kept

/-- The path without its last step, if it has one that is not the root. -/
def parent? (p : Path) : Option Path :=
  let leadingDot := !p.isAbsolute && (segments p.bytes).head? = some dot
  let parts := if p.isAbsolute then segments p.bytes.tail else segments p.bytes
  match dropIdle leadingDot parts with
  | [] => none
  | kept =>
    let rest := dropIdle (leadingDot && 1 < kept.length) kept.dropLast
    if p.isAbsolute then some ⟨slash :: (ofSegments rest).bytes⟩ else some (ofSegments rest)

/-- The directories a path lies in, nearest first, until `fuel` runs out. -/
def ancestorsWithin : Nat → Path → List Path
  | 0, _ => []
  | fuel + 1, p =>
    match p.parent? with
    | none => []
    | some q => q :: ancestorsWithin fuel q

/-- The directories a path lies in, nearest first. Each is shorter than the one before. -/
def ancestors (p : Path) : List Path := ancestorsWithin (p.bytes.length + 1) p

/-- The path of `other` seen from the directory `p`. -/
def join (p other : Path) : Path :=
  if other.isAbsolute then other
  else if p.bytes = [] ∨ p.bytes.getLast? = some slash then ⟨p.bytes ++ other.bytes⟩
  else ⟨p.bytes ++ slash :: other.bytes⟩

end Path

end Modeset
