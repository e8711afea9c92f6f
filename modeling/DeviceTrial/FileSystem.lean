/-
**A file system of directories and files.**

A place is the list of names that lead to it from the root directory. Relative paths are seen from
the root directory. The operations are those that a trial needs, and each says why it fails.

* `found?_writeAt` — what was written at a place stands there;
* `found?_writeAt_of_ne` — writing at a place changes no other place.
-/

import DeviceTrial.Path
import DeviceTrial.Table

namespace DeviceTrial

/-- The names that lead from the root directory to a place. -/
abbrev Place := List String

-- contents are compared as core compares bytes
local instance contentEq : DecidableEq ByteArray := ByteArray.instDecidableEq

/-- What stands at a place. -/
inductive Entry where
  /-- A directory. -/
  | directory
  /-- A file, and whether its owner alone may use it. -/
  | file (content : ByteArray) (ownerOnly : Bool)
deriving DecidableEq

/-- Why an operation on files failed. -/
inductive FileFault where
  /-- There is nothing at the path. -/
  | notFound
  /-- A file stands where a directory is needed. -/
  | notDirectory
  /-- A directory stands where a file is needed. -/
  | isDirectory
  /-- A file stands where a directory is to be made. -/
  | alreadyExists
  /-- The path or one of its names is too long. -/
  | nameTooLong
  /-- The path cannot be a path. -/
  | invalidPath
  /-- The content is not text. -/
  | invalidText
  /-- The system refused for another reason. -/
  | other (detail : String)
deriving DecidableEq

/-- The text of a fault. -/
def FileFault.message : FileFault → String
  | .notFound => "No such file or directory (os error 2)"
  | .notDirectory => "Not a directory (os error 20)"
  | .isDirectory => "Is a directory (os error 21)"
  | .alreadyExists => "File exists (os error 17)"
  | .nameTooLong => "File name too long (os error 36)"
  | .invalidPath => "file name contained an unexpected NUL byte"
  | .invalidText => "stream did not contain valid UTF-8"
  | .other detail => detail

/-- A tree of directories and files; the root directory is not listed. -/
structure FileSystem where
  /-- What stands at each place other than the root. -/
  entries : Table Place Entry
deriving DecidableEq, Inhabited

namespace FileSystem

/-- The longest name that an entry may have, in bytes. -/
def longestName : Nat := 255

/-- The bytes from which on a path is too long. -/
def tooLongPath : Nat := 4096

/-- What stands at a place. -/
def found? (files : FileSystem) : Place → Option Entry
  | [] => some .directory
  | place => files.entries.get? place

/-- Whether a directory stands at the place. -/
def isDirectoryAt (files : FileSystem) (place : Place) : Bool :=
  files.found? place = some .directory

/-- Fails unless a directory stands at the place. -/
def needDirectory (files : FileSystem) (place : Place) : Except FileFault Unit :=
  match files.found? place with
  | none => .error .notFound
  | some .directory => .ok ()
  | some (.file _ _) => .error .notDirectory

/-- Follows names from a place; only what the last name leads to need not exist. -/
def follow (files : FileSystem) : Place → List String → Except FileFault Place
  | place, [] => .ok place
  | place, name :: rest => do
    files.needDirectory place
    if name = "" || name = "." then files.follow place rest
    else if name = ".." then files.follow place.dropLast rest
    else if longestName < name.utf8ByteSize then .error .nameTooLong
    else files.follow (place ++ [name]) rest

/-- Fails on texts that are no paths at all. -/
def checkText (path : Path) : Except FileFault Unit :=
  if path.text.toList.contains '\x00' then .error .invalidPath
  else if path.isEmpty then .error .notFound
  else if tooLongPath ≤ path.text.utf8ByteSize then .error .nameTooLong
  else .ok ()

/-- The place that a path leads to. -/
def locate (files : FileSystem) (path : Path) : Except FileFault Place := do
  checkText path
  files.follow [] path.pieces

/-- Puts an entry at a place. -/
def put (files : FileSystem) (place : Place) (entry : Entry) : FileSystem :=
  ⟨files.entries.insert place entry⟩

/-- The bytes of the file at a path. -/
def readBytes (files : FileSystem) (path : Path) : Except FileFault ByteArray := do
  match files.found? (← files.locate path) with
  | none => .error .notFound
  | some .directory => .error .isDirectory
  | some (.file content _) => .ok content

/-- The text of the file at a path. -/
def readText (files : FileSystem) (path : Path) : Except FileFault String := do
  match String.fromUTF8? (← files.readBytes path) with
  | some text => .ok text
  | none => .error .invalidText

/-- Gives a place the content; a file that is there keeps its permissions. -/
def writeAt (files : FileSystem) (place : Place) (content : ByteArray) :
    Except FileFault FileSystem :=
  match files.found? place with
  | some .directory => .error .isDirectory
  | some (.file _ ownerOnly) => .ok (files.put place (.file content ownerOnly))
  | none => .ok (files.put place (.file content false))

/-- Writes the file at a path, which is made if there is none. -/
def write (files : FileSystem) (path : Path) (content : ByteArray) :
    Except FileFault FileSystem := do
  files.writeAt (← files.locate path) content

/-- Makes the directories that the names lead through; `made` says whether one had to be made before.
What was made before a fault stays.

The directory of the whole path is tried first, and those above it only when one of them is missing.
So a file is met as an obstacle on the way while nothing is missing above it, and as something that
exists already when it is the last or when directories above it had to be made one by one. A path that
ends in `.` would differ; the directory that a file is to stand in never does. -/
def makeAlong (files : FileSystem) (made : Bool) :
    Place → List String → Except FileFault Unit × FileSystem
  | _, [] => (.ok (), files)
  | place, name :: rest =>
    if name = "" || name = "." then files.makeAlong made place rest
    else if name = ".." then files.makeAlong made place.dropLast rest
    else if longestName < name.utf8ByteSize then (.error .nameTooLong, files)
    else
      let next := place ++ [name]
      match files.found? next with
      | some .directory => files.makeAlong made next rest
      | some (.file _ _) =>
        (.error (if made || rest.all String.isEmpty then .alreadyExists else .notDirectory), files)
      | none => (files.put next .directory).makeAlong true next rest

/-- How making the directory at a path with all that lead to it ends, and what is there then. -/
def attemptDirectories (files : FileSystem) (path : Path) : Except FileFault Unit × FileSystem :=
  if path.isEmpty then (.ok (), files)
  else
    match checkText path with
    | .error fault => (.error fault, files)
    | .ok _ => files.makeAlong false [] path.pieces

/-- Makes the directory at a path with all that lead to it. -/
def makeDirectories (files : FileSystem) (path : Path) : Except FileFault FileSystem :=
  let attempt := files.attemptDirectories path
  attempt.1.map fun _ => attempt.2

/-- Leaves the file at a path to its owner alone. -/
def restrict (files : FileSystem) (path : Path) : Except FileFault FileSystem := do
  let place ← files.locate path
  match files.found? place with
  | none => .error .notFound
  | some .directory => .ok files
  | some (.file content _) => .ok (files.put place (.file content true))

/-- Removes the file at a path. -/
def remove (files : FileSystem) (path : Path) : Except FileFault FileSystem := do
  let place ← files.locate path
  match files.found? place with
  | none => .error .notFound
  | some .directory => .error .isDirectory
  | some (.file _ _) => .ok ⟨files.entries.erase place⟩

/-- Moves the file at one path to another. -/
def rename (files : FileSystem) (source target : Path) : Except FileFault FileSystem := do
  let old ← files.locate source
  let new ← files.locate target
  match files.found? old, files.found? new with
  | none, _ => .error .notFound
  | _, some .directory => .error .isDirectory
  | some .directory, _ => .error .notDirectory
  | some moved, _ => .ok ⟨(files.entries.erase old).insert new moved⟩

/-! ### Listing -/

/-- The order of places: name by name, a directory before what it holds. -/
def placeLe : Place → Place → Bool
  | [], _ => true
  | _ :: _, [] => false
  | a :: as, b :: bs => if a = b then placeLe as bs else decide (a < b)

/-- What follows `base` in a place that lies below it. -/
def below? (base place : Place) : Option Place :=
  match base, place with
  | [], [] => none
  | [], rest => some rest
  | b :: base, p :: place => if b = p then below? base place else none
  | _ :: _, [] => none

/-- All that lies below a place, in the order of places, with the names that lead there. -/
def listing (files : FileSystem) (base : Place) : List (Place × Entry) :=
  (files.entries.entries.filterMap fun pair =>
    (below? base pair.1).map fun rest => (rest, pair.2)).mergeSort
      fun left right => placeLe left.1 right.1

/-! ### What the operations do to the entries -/

theorem found?_put (files : FileSystem) (place other : Place) (entry : Entry)
    (proper : place ≠ []) :
    (files.put place entry).found? other =
      if other = place then some entry else files.found? other := by
  cases other with
  | nil =>
    have different : ([] : Place) ≠ place := fun same => proper same.symm
    simp [found?, different]
  | cons name rest => exact Table.get?_insert files.entries place (name :: rest) entry

/-- What was written at a place is what stands there. -/
theorem found?_writeAt {files files' : FileSystem} {place : Place} {content : ByteArray}
    (written : files.writeAt place content = .ok files') :
    ∃ ownerOnly, files'.found? place = some (.file content ownerOnly) := by
  have proper : place ≠ [] := by
    rintro rfl
    simp [writeAt, found?] at written
  unfold writeAt at written
  split at written
  · cases written
  · rename_i old ownerOnly found
    cases written
    exact ⟨ownerOnly, by rw [found?_put files place place _ proper]; simp⟩
  · cases written
    exact ⟨false, by rw [found?_put files place place _ proper]; simp⟩

/-- Writing at a place changes no other place. -/
theorem found?_writeAt_of_ne {files files' : FileSystem} {place other : Place}
    {content : ByteArray} (written : files.writeAt place content = .ok files')
    (different : other ≠ place) : files'.found? other = files.found? other := by
  have proper : place ≠ [] := by
    rintro rfl
    simp [writeAt, found?] at written
  unfold writeAt at written
  split at written
  · cases written
  · cases written
    rw [found?_put files place other _ proper, if_neg different]
  · cases written
    rw [found?_put files place other _ proper, if_neg different]

end FileSystem

end DeviceTrial
