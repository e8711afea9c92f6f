/-
**Paths as written.**

A path is kept as its text; nothing is normalised until somebody asks. Two views are taken of it:
its `parts`, in which repeated separators, a separator at the end and every `.` but a leading one
do not count, and its absolute form.

* `sameAs_iff` — two paths are the same when their parts are;
* `absolute_eq_error_iff` — the empty path is the only one without an absolute form.
-/

import DeviceTrial.Text.Scan

namespace DeviceTrial

/-- A path as somebody wrote it. -/
structure Path where
  /-- The text of the path. -/
  text : String
deriving DecidableEq, Inhabited

namespace Path

/-- One step of a path. -/
inductive Part where
  /-- The separator that an absolute path starts with. -/
  | root
  /-- A `.` in front of everything else. -/
  | here
  /-- The step to the parent. -/
  | up
  /-- The step to an entry of that name. -/
  | name (text : String)
deriving DecidableEq

/-- The step that a piece between separators makes, if it makes one. -/
def Part.ofPiece : String → Option Part
  | "" => none
  | "." => none
  | ".." => some .up
  | text => some (.name text)

/-- The text of a step. -/
def Part.text : Part → String
  | .root => "/"
  | .here => "."
  | .up => ".."
  | .name text => text

/-- The root directory. -/
def rootDirectory : Path := ⟨"/"⟩

/-- Whether the path starts at the root. -/
def isAbsolute (path : Path) : Bool := path.text.startsWith "/"

/-- Whether the text of the path is empty. -/
def isEmpty (path : Path) : Bool := path.text.isEmpty

/-- The texts between the separators. -/
def pieces (path : Path) : List String := Text.splitOn '/' path.text

/-- The steps that the path consists of. -/
def parts (path : Path) : List Part :=
  let steps := path.pieces.filterMap Part.ofPiece
  if path.isAbsolute then .root :: steps
  else if path.pieces.head? = some "." then .here :: steps
  else steps

/-- Whether two paths have the same steps. -/
def sameAs (left right : Path) : Bool := left.parts == right.parts

theorem sameAs_iff (left right : Path) :
    left.sameAs right = true ↔ left.parts = right.parts := by
  simp [sameAs]

/-- The text `name` under the path `base`; an absolute `name` stands for itself. -/
def joinText (base name : String) : String :=
  if name.startsWith "/" then name
  else if base.isEmpty || base.endsWith "/" then base ++ name
  else base ++ "/" ++ name

/-- The path of `name` under the directory `base`. -/
def join (base : Path) (name : String) : Path := ⟨joinText base.text name⟩

/-- Why a path has no absolute form. -/
inductive Unresolvable where
  /-- The text of the path is empty. -/
  | emptyPath
deriving DecidableEq, Repr

/-- The text that explains the fault. -/
def Unresolvable.message : Unresolvable → String
  | .emptyPath => "cannot make an empty path absolute"

/-- Writes the steps below `base`. -/
def extend (base : String) (steps : List Part) : String :=
  steps.foldl (fun text step => joinText text step.text) base

/-- Whether exactly two separators stand in front. -/
def hasDoubleRoot (path : Path) : Bool :=
  path.text.startsWith "//" && !path.text.startsWith "///"

/-- The absolute form of a path that is seen from the directory `seenFrom`: repeated separators and
every `.` go, `..` and a separator at the end stay, and so do exactly two separators in front. -/
def absolute (path seenFrom : Path) : Except Unresolvable Path :=
  if path.isEmpty then .error .emptyPath
  else
    let base := if path.hasDoubleRoot then "//" else if path.isAbsolute then "/" else seenFrom.text
    let steps := path.pieces.filterMap Part.ofPiece
    let text := extend base steps
    .ok ⟨if path.text.endsWith "/" && !text.endsWith "/" then text ++ "/" else text⟩

theorem absolute_eq_error_iff (path seenFrom : Path) (fault : Unresolvable) :
    path.absolute seenFrom = .error fault ↔ path.isEmpty = true := by
  cases fault
  by_cases empty : path.isEmpty = true <;> simp [absolute, empty]

/-- The path of the directory that holds the path's last step. -/
def parent? (path : Path) : Option Path :=
  match path.parts.reverse with
  | [] => none
  | .root :: _ => none
  | _ :: above => some ⟨extend "" above.reverse⟩

end Path

end DeviceTrial
