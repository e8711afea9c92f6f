/-
**The places that paths lead through.**

A path leads from the root directory on from place to place, and each place that it leads through has
to be a directory. Making the directory that a file is to stand in makes those of them that are
missing, and that is all that it does.

* `Path.stops` — the places that a path leads through, the last of which is its own;
* `Path.mem_stops_of_parent`, `Path.mem_stops_cases` — those of the directory that a file is to stand
  in are those of the file, but for the file itself;
* `FileSystem.IsTree` — that everything stands in a directory;
* `FileSystem.found?_attemptDirectories` — **making directories makes missing directories alone**, and
  only where the path leads through;
* `FileSystem.IsTree.found?_of_made` — when it succeeds, the path leads through directories.
-/

import DeviceTrial.Proofs.Identity.Writing
import DeviceTrial.Proofs.Settings.Separation
import DeviceTrial.Proofs.Trial.Credentials
import Mathlib.Data.List.Induction

namespace DeviceTrial

/-! ### Paths -/

/-- The places that names lead through from a place, the last of which they lead to. -/
def FileSystem.stops (place : Place) (names : List String) : List Place :=
  names.scanl FileSystem.enter place

/-- The places that a path leads through, the last of which is its own. -/
def Path.stops (path : Path) : List Place := FileSystem.stops [] path.pieces

namespace FileSystem

variable {place other : Place} {name : String} {names rest : List String}

@[simp] theorem stops_nil (place : Place) : stops place [] = [place] := rfl

@[simp] theorem stops_cons (place : Place) (name : String) (names : List String) :
    stops place (name :: names) = place :: stops (enter place name) names := List.scanl_cons

theorem start_mem_stops (place : Place) (names : List String) : place ∈ stops place names := by
  cases names <;> simp

theorem mem_stops_of_rest (inside : other ∈ stops (enter place name) rest) :
    other ∈ stops place (name :: rest) := by
  rw [stops_cons]
  exact List.mem_cons_of_mem _ inside

theorem end_mem_stops (place : Place) (names : List String) :
    names.foldl enter place ∈ stops place names := by
  induction names generalizing place with
  | nil => exact List.mem_singleton_self place
  | cons name rest step => exact mem_stops_of_rest (step _)

theorem stops_concat (place : Place) (names : List String) (name : String) :
    stops place (names ++ [name]) = stops place names ++ [(names ++ [name]).foldl enter place] := by
  induction names generalizing place with
  | nil => rfl
  | cons first rest step => rw [List.cons_append, stops_cons, step, stops_cons]; rfl

/-- That a name is that of an entry. -/
def IsPlain (name : String) : Prop := (name ≠ "" ∧ name ≠ ".") ∧ name ≠ ".."

/-- A name stays where it is, leads up, or leads to an entry. -/
theorem name_cases (name : String) : (name = "" ∨ name = ".") ∨ name = ".." ∨ IsPlain name := by
  by_cases still : name = "" ∨ name = "."
  · exact .inl still
  · by_cases up : name = ".."
    · exact .inr (.inl up)
    · exact .inr (.inr ⟨not_or.mp still, up⟩)

theorem enter_of_still (still : name = "" ∨ name = ".") : enter place name = place := by
  rcases still with rfl | rfl <;> rfl

theorem enter_of_plain (plain : IsPlain name) : enter place name = place ++ [name] := by
  simp [enter, plain.1.1, plain.1.2, plain.2]

/-- Names that do not lead up lead down. -/
theorem prefix_foldl_enter (down : ".." ∉ names) (place : Place) :
    place <+: names.foldl enter place := by
  induction names generalizing place with
  | nil => exact List.prefix_rfl
  | cons name rest step =>
    refine List.IsPrefix.trans ?_ (step (fun inside => down (List.mem_cons_of_mem _ inside)) _)
    rcases name_cases name with still | rfl | plain
    · exact (enter_of_still still).symm ▸ List.prefix_rfl
    · exact absurd List.mem_cons_self down
    · rw [enter_of_plain plain]
      exact List.prefix_append place [name]

/-- What they lead through is above where they lead. -/
theorem prefix_of_mem_stops (down : ".." ∉ names) (inside : other ∈ stops place names) :
    other <+: names.foldl enter place := by
  induction names generalizing place with
  | nil =>
    rw [List.mem_singleton.mp inside]
    exact List.prefix_rfl
  | cons name rest step =>
    rw [stops_cons] at inside
    rcases List.mem_cons.mp inside with rfl | later
    · exact prefix_foldl_enter down other
    · exact step (fun inside => down (List.mem_cons_of_mem _ inside)) later

/-- The step that a name makes. -/
theorem ofPiece_eq (name : String) : Path.Part.ofPiece name = none ∧ (name = "" ∨ name = ".") ∨
    ∃ part, Path.Part.ofPiece name = some part ∧ part.text = name := by
  unfold Path.Part.ofPiece
  split
  · exact .inl ⟨rfl, .inl rfl⟩
  · exact .inl ⟨rfl, .inr rfl⟩
  · exact .inr ⟨_, rfl, rfl⟩
  · exact .inr ⟨_, rfl, rfl⟩

/-- What makes no step leads through no other place. -/
theorem mem_stops_steps_iff (place : Place) (names : List String) :
    other ∈ stops place names ↔
      other ∈ stops place ((names.filterMap Path.Part.ofPiece).map Path.Part.text) := by
  induction names generalizing place with
  | nil => exact Iff.rfl
  | cons name rest step =>
    rcases ofPiece_eq name with ⟨none, still⟩ | ⟨part, made, text⟩
    · rw [List.filterMap_cons_none none, ← step, stops_cons, enter_of_still still, List.mem_cons]
      exact or_iff_right_of_imp fun here => here ▸ start_mem_stops place rest
    · rw [List.filterMap_cons_some made, List.map_cons, text, stops_cons, stops_cons, List.mem_cons,
        List.mem_cons, step]

/-- What makes no step leads nowhere. -/
theorem foldl_enter_steps (place : Place) (names : List String) :
    ((names.filterMap Path.Part.ofPiece).map Path.Part.text).foldl enter place =
      names.foldl enter place := by
  induction names generalizing place with
  | nil => rfl
  | cons name rest step =>
    rcases ofPiece_eq name with ⟨none, still⟩ | ⟨part, made, text⟩
    · rw [List.filterMap_cons_none none, step, List.foldl_cons, enter_of_still still]
    · rw [List.filterMap_cons_some made, List.map_cons, text, List.foldl_cons, step, List.foldl_cons]

end FileSystem

namespace Path

open FileSystem (stops enter)

variable {path parent : Path} {place : Place}

theorem place_mem_stops (path : Path) : path.place ∈ path.stops :=
  FileSystem.end_mem_stops [] path.pieces

theorem prefix_of_mem_stops (down : ".." ∉ path.pieces) (inside : place ∈ path.stops) :
    place <+: path.place :=
  FileSystem.prefix_of_mem_stops down inside

/-- The places in terms of the steps of a path. -/
theorem mem_stops_iff : place ∈ path.stops ↔
    place ∈ FileSystem.stops [] ((steps path.text).map Part.text) :=
  FileSystem.mem_stops_steps_iff [] path.pieces

/-- The parts of a path are its steps, with what stands in front of them. That makes no step. -/
theorem exists_front (path : Path) : ∃ front, path.parts = front ++ steps path.text ∧
    front.dropLast = [] ∧ ∀ more, (∀ part ∈ more, part ∈ steps path.text) →
      steps (extend "" (front ++ more)) = more := by
  have written : ∀ front : Part, steps front.text = [] → ∀ more,
      (∀ part ∈ more, part ∈ steps path.text) → steps (extend "" (front :: more)) = more := by
    intro front still more inner
    show steps (extend (joinText "" front.text) more) = more
    have alone : joinText "" front.text = front.text := by simp [joinText]
    rw [alone, steps_extend _ inner, still, List.nil_append]
  cases rooted : path.isAbsolute with
  | true => exact ⟨[.root], parts_of_isAbsolute rooted, rfl, written .root (by decide)⟩
  | false =>
    rcases parts_of_relative rooted with same | same
    · exact ⟨[.here], same, rfl, written .here (by decide)⟩
    · exact ⟨[], same, rfl, fun more inner => steps_extend "" inner⟩

/-- **The directory that a file is to stand in** has the steps of the file but the last. -/
theorem steps_parent (known : path.parent? = some parent) :
    steps parent.text = (steps path.text).dropLast := by
  have text : parent.text = extend "" path.parts.dropLast := by
    unfold parent? at known
    split at known
    · cases known
    · cases known
    · rename_i last above _ reversed
      cases known
      rw [← List.reverse_reverse path.parts, reversed, List.reverse_cons, List.dropLast_concat]
  obtain ⟨front, parts, short, written⟩ := exists_front path
  rw [text, parts]
  by_cases stepless : steps path.text = []
  · rw [stepless, List.append_nil, short]
    rfl
  · rw [List.dropLast_append_of_ne_nil stepless]
    exact written _ fun _ inside => List.dropLast_subset _ inside

/-- The directory is on the way of the file. -/
theorem mem_stops_of_parent (known : path.parent? = some parent) (inside : place ∈ parent.stops) :
    place ∈ path.stops := by
  rw [mem_stops_iff] at inside ⊢
  rw [steps_parent known] at inside
  rcases List.eq_nil_or_concat' (steps path.text) with none | ⟨front, last, same⟩
  · rwa [none] at inside ⊢
  · rw [same, List.dropLast_concat] at inside
    rw [same, List.map_append, List.map_singleton, FileSystem.stops_concat]
    exact List.mem_append_left _ inside

/-- **The way of a file** is that of its directory and the place of the file. -/
theorem mem_stops_cases (known : path.parent? = some parent) (inside : place ∈ path.stops) :
    place ∈ parent.stops ∨ place = path.place := by
  rw [mem_stops_iff] at inside
  rw [mem_stops_iff, steps_parent known]
  rcases List.eq_nil_or_concat' (steps path.text) with none | ⟨front, last, same⟩
  · rw [none] at inside ⊢
    exact .inl inside
  · have leads := FileSystem.foldl_enter_steps [] path.pieces
    rw [show path.pieces.filterMap Part.ofPiece = front ++ [last] from same] at leads
    rw [same, List.map_append, List.map_singleton, FileSystem.stops_concat] at inside
    rw [same, List.dropLast_concat]
    rcases List.mem_append.mp inside with before | last
    · exact .inl before
    · refine .inr ((List.mem_singleton.mp last).trans ?_)
      rw [← List.map_singleton, ← List.map_append]
      exact leads

/-- A path whose directory has no name leads from the root to its place at once. -/
theorem mem_stops_of_short (short : ∀ parent, path.parent? = some parent → parent.isEmpty = true)
    (inside : place ∈ path.stops) : place = [] ∨ place = path.place := by
  cases known : path.parent? with
  | some parent =>
    rcases mem_stops_cases known inside with before | last
    · rw [mem_stops_iff, String.isEmpty_iff.mp (short parent known)] at before
      exact .inl (List.mem_singleton.mp before)
    · exact .inr last
  | none =>
    rcases List.eq_nil_or_concat' (steps path.text) with none | ⟨before, last, same⟩
    · rw [mem_stops_iff, none] at inside
      exact .inl (List.mem_singleton.mp inside)
    · -- the last step would have a directory
      obtain ⟨front, parts, -⟩ := exists_front path
      have other : last ≠ .root := by
        rintro rfl
        exact root_not_mem_steps path.text (by simp [same])
      unfold parent? at known
      rw [parts, same, ← List.append_assoc, List.reverse_concat] at known
      split at known
      · rename_i none
        cases none
      · rename_i reversed
        exact absurd (List.cons.inj reversed).1 other
      · cases known

theorem climbs_of_parent (known : path.parent? = some parent) (climbs : ".." ∈ parent.pieces) :
    ".." ∈ path.pieces := by
  have up : Part.up ∈ steps parent.text := List.mem_filterMap.mpr ⟨"..", climbs, rfl⟩
  rw [steps_parent known] at up
  obtain ⟨piece, inside, made⟩ := List.mem_filterMap.mp (List.dropLast_subset _ up)
  rcases FileSystem.ofPiece_eq piece with ⟨none, -⟩ | ⟨part, makes, text⟩
  · cases none.symm.trans made
  · cases makes.symm.trans made
    rwa [← text] at inside

end Path

/-! ### Trees -/

namespace FileSystem

variable {files : FileSystem} {path : Path} {place other : Place} {made : Bool}
  {name : String} {names rest : List String}

/-- That everything stands in a directory. -/
def IsTree (files : FileSystem) : Prop :=
  ∀ place entry, files.found? place = some entry → files.found? place.dropLast = some .directory

theorem found?_root (files : FileSystem) : files.found? [] = some .directory := rfl

theorem ne_directory_of_missing (missing : files.found? place = none) :
    files.found? place ≠ some .directory := by
  rw [missing]
  nofun

theorem isTree_default : (default : FileSystem).IsTree := by
  intro place entry found
  cases place with
  | nil => rfl
  | cons name rest => cases found

namespace IsTree

theorem up (tree : files.IsTree) (here : files.found? place = some .directory) :
    files.found? place.dropLast = some .directory :=
  tree place _ here

/-- Nothing stands below what is missing. -/
theorem found?_below (tree : files.IsTree) (missing : files.found? place = none) (more : Place) :
    files.found? (place ++ more) = none := by
  induction more using List.reverseRecOn with
  | nil => rwa [List.append_nil]
  | append_singleton more name step =>
    cases found : files.found? (place ++ (more ++ [name])) with
    | none => rfl
    | some entry =>
      have above := tree _ _ found
      rw [← List.append_assoc, List.dropLast_concat, step] at above
      cases above

/-- What stands above something is a directory. -/
theorem found?_above (tree : files.IsTree) {entry : Entry} (found : files.found? other = some entry)
    (above : place <+: other) (proper : place ≠ other) :
    files.found? place = some .directory := by
  obtain ⟨more, rfl⟩ := above
  induction more using List.reverseRecOn generalizing entry with
  | nil => exact absurd (List.append_nil place).symm proper
  | append_singleton more name step =>
    have next := tree _ _ found
    rw [← List.append_assoc, List.dropLast_concat] at next
    by_cases last : more = []
    · rwa [last, List.append_nil] at next
    · exact step next (by simpa using last)

/-- A tree stays one when something is put into a directory of it, where no directory stands. -/
theorem put (tree : files.IsTree) (file : files.found? place ≠ some .directory)
    (above : files.found? place.dropLast = some .directory) (entry : Entry) :
    (files.put place entry).IsTree := by
  intro other known found
  rw [found?_put files place other entry (ne_root file)] at found
  refine found?_put_directory file ?_
  by_cases here : other = place
  · rw [here]
    exact above
  · rw [if_neg here] at found
    exact tree _ _ found

/-- A missing directory is made in a directory. -/
theorem make (tree : files.IsTree) (here : files.found? place = some .directory)
    (missing : files.found? (place ++ [name]) = none) :
    (files.put (place ++ [name]) .directory).IsTree ∧
      (files.put (place ++ [name]) .directory).found? (place ++ [name]) = some .directory := by
  have file := ne_directory_of_missing missing
  refine ⟨tree.put file (by rwa [List.dropLast_concat]) .directory, ?_⟩
  rw [found?_put files _ _ _ (ne_root file), if_pos rfl]

/-- Where a path leads there is a directory above. -/
theorem above_of_follow (tree : files.IsTree) (above : files.found? place.dropLast = some .directory)
    (leads : files.follow place names = .ok other) :
    files.found? other.dropLast = some .directory := by
  induction names generalizing place with
  | nil =>
    cases leads
    exact above
  | cons name rest step =>
    unfold follow at leads
    cases found : files.found? place with
    | none => simp [needDirectory, found, bind, Except.bind] at leads
    | some entry =>
      cases entry with
      | file content ownerOnly => simp [needDirectory, found, bind, Except.bind] at leads
      | directory =>
        simp only [needDirectory, found, bind, Except.bind] at leads
        split_ifs at leads
        · exact step above leads
        · exact step (tree.up (tree.up found)) leads
        · exact step (by rwa [List.dropLast_concat]) leads

theorem above_of_locate (tree : files.IsTree) (leads : files.locate path = .ok place) :
    files.found? place.dropLast = some .directory := by
  unfold locate at leads
  cases checked : checkText path with
  | error fault =>
    rw [checked] at leads
    cases leads
  | ok value =>
    rw [checked] at leads
    exact tree.above_of_follow (tree.up (found?_root files)) leads

end IsTree

/-! ### Making directories -/

theorem makeAlong_of_still (still : name = "" ∨ name = ".") :
    files.makeAlong made place (name :: rest) = files.makeAlong made place rest := by
  rw [makeAlong, if_pos (by simpa using still)]

theorem makeAlong_up (files : FileSystem) (made : Bool) (place : Place) (rest : List String) :
    files.makeAlong made place (".." :: rest) = files.makeAlong made place.dropLast rest := by
  rw [makeAlong, if_neg (by simp), if_pos rfl]

theorem makeAlong_of_plain (plain : IsPlain name) :
    files.makeAlong made place (name :: rest) =
      if longestName < name.utf8ByteSize then (.error .nameTooLong, files)
      else
        match files.found? (place ++ [name]) with
        | some .directory => files.makeAlong made (place ++ [name]) rest
        | some (.file _ _) => (.error
            (if made || rest.all String.isEmpty then .alreadyExists else .notDirectory), files)
        | none =>
          (files.put (place ++ [name]) .directory).makeAlong true (place ++ [name]) rest := by
  rw [makeAlong]
  exact (if_neg (by simp [plain.1.1, plain.1.2])).trans (if_neg plain.2)

/-- What making directories along names comes to at the first of them: it ends there, or it goes on
from where the name leads, with the directory made if it was missing. -/
theorem makeAlong_cases (files : FileSystem) (made : Bool) (place : Place) (name : String)
    (rest : List String) :
    (∃ fault, files.makeAlong made place (name :: rest) = (.error fault, files)) ∨
    ((files.IsTree → files.found? place = some .directory →
        files.found? (enter place name) = some .directory) ∧
      files.makeAlong made place (name :: rest) = files.makeAlong made (enter place name) rest) ∨
    (enter place name = place ++ [name] ∧ files.found? (place ++ [name]) = none ∧
      files.makeAlong made place (name :: rest) =
        (files.put (place ++ [name]) .directory).makeAlong true (place ++ [name]) rest) := by
  rcases name_cases name with still | rfl | plain
  · rw [makeAlong_of_still still, enter_of_still still]
    exact .inr (.inl ⟨fun _ here => here, rfl⟩)
  · exact .inr (.inl ⟨IsTree.up, makeAlong_up files made place rest⟩)
  · rw [makeAlong_of_plain plain, enter_of_plain plain]
    split
    · exact .inl ⟨_, rfl⟩
    · cases found : files.found? (place ++ [name]) with
      | none => exact .inr (.inr ⟨rfl, rfl, rfl⟩)
      | some entry =>
        cases entry with
        | directory => exact .inr (.inl ⟨fun _ _ => rfl, rfl⟩)
        | file content ownerOnly => exact .inl ⟨_, rfl⟩

/-- Missing directories are made where the names lead through, and nothing else is done. -/
theorem found?_makeAlong (files : FileSystem) (made : Bool) (place : Place) (names : List String)
    (other : Place) :
    (files.makeAlong made place names).2.found? other = files.found? other ∨
      other ∈ stops place names ∧ files.found? other = none ∧
        (files.makeAlong made place names).2.found? other = some .directory := by
  induction names generalizing files made place with
  | nil => exact .inl rfl
  | cons name rest step =>
    rcases makeAlong_cases files made place name rest with
      ⟨fault, same⟩ | ⟨-, same⟩ | ⟨leads, missing, same⟩
    · rw [same]
      exact .inl rfl
    · rw [same]
      exact (step files made (enter place name)).imp_right fun ⟨inside, change⟩ =>
        ⟨mem_stops_of_rest inside, change⟩
    · rw [same]
      have proper : place ++ [name] ≠ [] := by simp
      have later := step (files.put (place ++ [name]) .directory) true (place ++ [name])
      rw [found?_put files _ _ _ proper] at later
      by_cases here : other = place ++ [name]
      · rw [if_pos here] at later
        rcases later with kept | ⟨-, none, -⟩
        · exact .inr ⟨mem_stops_of_rest (leads ▸ here ▸ start_mem_stops _ rest), here ▸ missing, kept⟩
        · cases none
      · rw [if_neg here] at later
        exact later.imp_right fun ⟨inside, change⟩ =>
          ⟨mem_stops_of_rest (leads ▸ inside), change⟩

/-- No directory goes when directories are made. -/
theorem found?_makeAlong_directory (made : Bool) (names : List String)
    (found : files.found? other = some .directory) :
    (files.makeAlong made place names).2.found? other = some .directory := by
  rcases found?_makeAlong files made place names other with same | ⟨-, none, -⟩
  · rw [same, found]
  · cases none.symm.trans found

/-- **Making directories makes missing directories alone**, and only where the path leads through. -/
theorem found?_attemptDirectories (files : FileSystem) (path : Path) (place : Place) :
    (files.attemptDirectories path).2.found? place = files.found? place ∨
      place ∈ path.stops ∧ files.found? place = none ∧
        (files.attemptDirectories path).2.found? place = some .directory := by
  unfold attemptDirectories
  split
  · exact .inl rfl
  · split
    · exact .inl rfl
    · exact found?_makeAlong files false [] path.pieces place

namespace IsTree

/-- Where directories were made there are directories. -/
theorem found?_of_makeAlong (tree : files.IsTree) (here : files.found? place = some .directory)
    (done : (files.makeAlong made place names).1 = .ok ()) (inside : other ∈ stops place names) :
    (files.makeAlong made place names).2.found? other = some .directory := by
  induction names generalizing files made place with
  | nil =>
    rw [List.mem_singleton.mp inside]
    exact here
  | cons name rest step =>
    rw [stops_cons] at inside
    rcases List.mem_cons.mp inside with rfl | later
    · exact found?_makeAlong_directory made _ here
    · rcases makeAlong_cases files made place name rest with
        ⟨fault, same⟩ | ⟨on, same⟩ | ⟨leads, missing, same⟩
      · rw [same] at done
        cases done
      · rw [same] at done ⊢
        exact step tree (on tree here) done later
      · rw [same] at done ⊢
        obtain ⟨still, now⟩ := tree.make here missing
        exact step still now done (leads ▸ later)

/-- **When directories were made the path leads through them.** -/
theorem found?_of_made (tree : files.IsTree) (done : (files.attemptDirectories path).1 = .ok ())
    (inside : place ∈ path.stops) :
    (files.attemptDirectories path).2.found? place = some .directory := by
  unfold FileSystem.attemptDirectories at done ⊢
  split at done
  · rename_i empty
    rw [if_pos empty]
    have root : place = [] := by
      rw [Path.mem_stops_iff, String.isEmpty_iff.mp empty] at inside
      exact List.mem_singleton.mp inside
    rw [root]
    rfl
  · rename_i named
    rw [if_neg named]
    split at done
    · cases done
    · exact tree.found?_of_makeAlong (found?_root files) done inside

end IsTree

end FileSystem

end DeviceTrial
