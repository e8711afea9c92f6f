/-
**Files that differ in their secrets alone.**

The files that a run writes hold a certificate and its key, and every run has others. On the files that
it shares with others it may also find directories that others made. A run that is alone cannot tell the
difference, as long as it asks only for what it knows the ground of:

* `Ground` — the places that a run heeds, those where it makes something, and those at which it knows a
  directory;
* `FileSystem.ResemblesOn` — that two file systems look alike from a ground: where nothing but a
  directory may be made, one may be there already;
* `ResemblesOn.attemptDirectories`, `ResemblesOn.write`, `ResemblesOn.restrict`,
  `ResemblesOn.readText` — **operations have the same outcome** and keep the resemblance;
* `ResemblesOn.of_unnoticed` — what others may do to the files in between;
* `Descriptor.read_of_armoured` — a certificate is no descriptor.
-/

import DeviceTrial.Descriptor
import DeviceTrial.Proofs.Together.Places

namespace DeviceTrial

/-- That a text starts as certificates and keys do. -/
def IsArmoured (text : String) : Prop := ∃ rest, text.toList = '-' :: '-' :: rest

/-- That two texts are the same, or both certificates or keys. -/
inductive TextAlike : String → String → Prop where
  | same (text : String) : TextAlike text text
  | armoured {text other : String} (here : IsArmoured text) (there : IsArmoured other) :
    TextAlike text other

/-- Two dashes start no JSON value. -/
theorem Descriptor.read_of_armoured {text : String} (armoured : IsArmoured text) :
    Descriptor.read text = .error "invalid JSON: not a scenario descriptor" := by
  obtain ⟨rest, starts⟩ := armoured
  have none : ∀ fuel, Json.readValue fuel text.toList = none := by
    intro fuel
    rw [starts]
    cases fuel with
    | zero => rfl
    | succ fuel => rfl
  unfold Descriptor.read Json.Syntax.read?
  dsimp only
  rw [none]
  rfl

/-- That at a place there stands the same, or a certificate or a key in both cases. -/
inductive EntryAlike : Option Entry → Option Entry → Prop where
  | same (entry : Option Entry) : EntryAlike entry entry
  | armoured {text other : String} (here : IsArmoured text) (there : IsArmoured other)
      (ownerOnly : Bool) :
    EntryAlike (some (.file text.toUTF8 ownerOnly)) (some (.file other.toUTF8 ownerOnly))

/-- A file with one of two texts that are alike. -/
theorem TextAlike.entry {text other : String} (alike : TextAlike text other) (ownerOnly : Bool) :
    EntryAlike (some (.file text.toUTF8 ownerOnly)) (some (.file other.toUTF8 ownerOnly)) := by
  cases alike with
  | same => exact .same _
  | armoured here there => exact .armoured here there ownerOnly

/-! ### The ground of a run -/

/-- What a run asks of the files. -/
structure Ground where
  /-- The places where everything is as if the run were alone. -/
  heeds : List Place
  /-- The places where the run makes something. -/
  makes : List Place
  /-- Places at which a directory stands. -/
  paved : List Place

namespace Ground

/-- The ground when more places are known at which a directory stands. -/
def pave (ground : Ground) (places : List Place) : Ground :=
  { ground with paved := places ++ ground.paved }

/-- That it is known what stands at a place. -/
def Knows (ground : Ground) (place : Place) : Prop :=
  place = [] ∨ place ∈ ground.heeds ∨ place ∈ ground.makes ∧ place ∈ ground.paved

/-- That directories may be made along a path: everything on the way is heeded, or the path only leads
down and all of it may be made. -/
def Admits (ground : Ground) (path : Path) : Prop :=
  (∀ place ∈ path.stops, place ∈ ground.heeds) ∨
    ".." ∉ path.pieces ∧ ∀ place ∈ path.stops, place ∈ ground.makes

/-- That a path is one of those of the run's own files. -/
structure Owns (ground : Ground) (path : Path) : Prop where
  ends : path.place ∈ ground.heeds
  within : ∀ place ∈ path.stops, place ∈ ground.makes
  /-- A path that leads up again is heeded on all of its way. -/
  climbs : ".." ∈ path.pieces → ∀ place ∈ path.stops, place ∈ ground.heeds

variable {ground : Ground} {path parent : Path} {place : Place}

theorem Knows.pave (knows : ground.Knows place) (places : List Place) :
    (ground.pave places).Knows place :=
  knows.imp_right fun known => known.imp_right fun ⟨makes, paved⟩ =>
    ⟨makes, List.mem_append_right _ paved⟩

theorem pave_pave (ground : Ground) (first second : List Place) :
    (ground.pave first).pave second = ground.pave (second ++ first) := by
  unfold pave
  rw [List.append_assoc]

theorem Owns.pave (owns : ground.Owns path) (places : List Place) : (ground.pave places).Owns path :=
  ⟨owns.ends, owns.within, owns.climbs⟩

/-- The directory that an own file is to stand in may be made. -/
theorem Owns.admits (owns : ground.Owns path) (known : path.parent? = some parent) :
    ground.Admits parent := by
  by_cases climbs : ".." ∈ parent.pieces
  · exact .inl fun place inside =>
      owns.climbs (Path.climbs_of_parent known climbs) place (Path.mem_stops_of_parent known inside)
  · exact .inr ⟨climbs, fun place inside => owns.within place (Path.mem_stops_of_parent known inside)⟩

/-- When its directory was made, all the way of an own file is known. -/
theorem Owns.knows (owns : ground.Owns path) (known : path.parent? = some parent) :
    ∀ place ∈ path.stops, (ground.pave parent.stops).Knows place := by
  intro place inside
  rcases Path.mem_stops_cases known inside with before | rfl
  · exact .inr (.inr ⟨owns.within place inside, List.mem_append_left _ before⟩)
  · exact .inr (.inl owns.ends)

/-- So it is when there is no directory to be made. -/
theorem Owns.knows_of_short (owns : ground.Owns path)
    (short : ∀ parent, path.parent? = some parent → parent.isEmpty = true) :
    ∀ place ∈ path.stops, ground.Knows place := by
  intro place inside
  rcases Path.mem_stops_of_short short inside with rfl | rfl
  · exact .inl rfl
  · exact .inr (.inl owns.ends)

end Ground

/-! ### Files that look alike -/

/-- What stands at a place when a run is alone, and what stands there when it is not. -/
inductive StandsAlike (heeded : Prop) : Option Entry → Option Entry → Prop where
  | alike {entry other : Option Entry} (alike : EntryAlike entry other) :
    StandsAlike heeded entry other
  /-- Others have made a directory already. -/
  | ahead (unheeded : ¬ heeded) : StandsAlike heeded none (some .directory)

/-- What is missing although others ran is missing when the run is alone, too. -/
theorem StandsAlike.missing {heeded : Prop} {entry : Option Entry}
    (stands : StandsAlike heeded entry none) : entry = none := by
  cases stands with
  | alike alike =>
    cases alike with
    | same => rfl

/-- What is met where a directory is to be made. -/
theorem StandsAlike.directory_cases {heeded : Prop} {entry other : Option Entry}
    (stands : StandsAlike heeded entry other) :
    (entry = none ∧ other = none) ∨ (entry = some .directory ∧ other = some .directory) ∨
      (∃ content known mode more, entry = some (.file content mode) ∧
        other = some (.file known more)) ∨
      (¬ heeded ∧ entry = none ∧ other = some .directory) := by
  cases stands with
  | ahead unheeded => exact .inr (.inr (.inr ⟨unheeded, rfl, rfl⟩))
  | alike alike =>
    cases alike with
    | armoured here there ownerOnly => exact .inr (.inr (.inl ⟨_, _, _, _, rfl, rfl⟩))
    | same =>
      rcases entry with _ | _ | _
      · exact .inl ⟨rfl, rfl⟩
      · exact .inr (.inl ⟨rfl, rfl⟩)
      · exact .inr (.inr (.inl ⟨_, _, _, _, rfl, rfl⟩))

/-- That others do nothing that a run notices to what stands at a place: nothing at all, or they make a
directory that was missing, where the run heeds nothing. -/
def Unnoticed (heeded : Prop) (before after : Option Entry) : Prop :=
  after = before ∨ ¬ heeded ∧ before = none ∧ after = some .directory

namespace FileSystem

/-- That two file systems look alike from a ground; the first is that of the run alone. -/
structure ResemblesOn (files : FileSystem) (ground : Ground) (others : FileSystem) : Prop where
  tree : files.IsTree
  stands : ∀ place, place ∈ ground.heeds ∨ place ∈ ground.makes →
    StandsAlike (place ∈ ground.heeds) (files.found? place) (others.found? place)
  paved : ∀ place ∈ ground.paved, files.found? place = some .directory

/-- That two operations had the same outcome, with file systems that look alike. -/
inductive SameOutcome (ground : Ground) :
    Except FileFault FileSystem → Except FileFault FileSystem → Prop where
  | changed {files others : FileSystem} (resembles : files.ResemblesOn ground others) :
    SameOutcome ground (.ok files) (.ok others)
  | refused (fault : FileFault) : SameOutcome ground (.error fault) (.error fault)

/-- That reading told the same, or a certificate or a key in both cases. -/
inductive ReadAlike : Except FileFault String → Except FileFault String → Prop where
  | same (content : Except FileFault String) : ReadAlike content content
  | armoured {text other : String} (here : IsArmoured text) (there : IsArmoured other) :
    ReadAlike (.ok text) (.ok other)

namespace ResemblesOn

variable {files others : FileSystem} {ground : Ground} {path : Path} {place : Place}

/-- Before anything is done. -/
theorem refl (tree : files.IsTree) (heeds makes : List Place) :
    files.ResemblesOn ⟨heeds, makes, []⟩ files :=
  ⟨tree, fun _ _ => .alike (.same _), nofun⟩

variable (resembles : files.ResemblesOn ground others)

include resembles

/-- What stands at a place that is known. -/
theorem entry (knows : ground.Knows place) :
    EntryAlike (files.found? place) (others.found? place) := by
  rcases knows with rfl | heeded | ⟨makes, paved⟩
  · exact .same _
  · have stands := resembles.stands place (.inl heeded)
    generalize files.found? place = entry at stands
    generalize others.found? place = other at stands
    cases stands with
    | alike alike => exact alike
    | ahead unheeded => exact absurd heeded unheeded
  · have stands := resembles.stands place (.inr makes)
    rw [resembles.paved place paved] at stands ⊢
    generalize others.found? place = other at stands
    cases stands with
    | alike alike => exact alike

theorem needDirectory (knows : ground.Knows place) :
    others.needDirectory place = files.needDirectory place := by
  have alike := resembles.entry knows
  unfold FileSystem.needDirectory
  generalize files.found? place = entry at alike
  generalize others.found? place = other at alike
  cases alike with
  | same entry => rfl
  | armoured here there ownerOnly => rfl

/-- Names lead to the same place. -/
theorem follow {names : List String} (knows : ∀ other ∈ stops place names, ground.Knows other) :
    others.follow place names = files.follow place names := by
  induction names generalizing place with
  | nil => rfl
  | cons name rest step =>
    have later := step fun other inside => knows other (mem_stops_of_rest inside)
    unfold FileSystem.follow
    rw [resembles.needDirectory (knows place (start_mem_stops _ _))]
    cases files.needDirectory place with
    | error fault => rfl
    | ok value =>
      rw [enter] at later
      dsimp only [bind, Except.bind]
      split_ifs at later ⊢ <;> first | exact later | rfl

theorem locate (knows : ∀ place ∈ path.stops, ground.Knows place) :
    others.locate path = files.locate path := by
  unfold FileSystem.locate
  rw [resembles.follow knows]

/-! ### Making directories -/

theorem put (file : files.found? place ≠ some .directory)
    (above : files.found? place.dropLast = some .directory) {entry other : Entry}
    (alike : EntryAlike (some entry) (some other)) :
    (files.put place entry).ResemblesOn ground (others.put place other) where
  tree := resembles.tree.put file above entry
  stands elsewhere minds := by
    rw [found?_put files place elsewhere entry (ne_root file),
      found?_put others place elsewhere other (ne_root file)]
    by_cases here : elsewhere = place
    · rw [if_pos here, if_pos here]
      exact .alike alike
    · rw [if_neg here, if_neg here]
      exact resembles.stands elsewhere minds
  paved elsewhere known := found?_put_directory file (resembles.paved elsewhere known)

/-- A directory is made that others have made before. -/
theorem catch_up (missing : files.found? place = none)
    (above : files.found? place.dropLast = some .directory)
    (there : others.found? place = some .directory) :
    (files.put place .directory).ResemblesOn ground others := by
  have file := ne_directory_of_missing missing
  refine ⟨resembles.tree.put file above .directory, fun elsewhere minds => ?_, fun elsewhere known =>
    found?_put_directory file (resembles.paved elsewhere known)⟩
  rw [found?_put files place elsewhere .directory (ne_root file)]
  by_cases here : elsewhere = place
  · rw [if_pos here, here, there]
    exact .alike (.same _)
  · rw [if_neg here]
    exact resembles.stands elsewhere minds

/-- What is there once a directory was made in a directory. -/
theorem made_below {name : String} (missing : files.found? (place ++ [name]) = none) :
    let after := files.put (place ++ [name]) .directory
    after.found? (place ++ [name]) = some .directory ∧
      ∀ more, more ≠ [] → after.found? (place ++ [name] ++ more) = none := by
  have proper : place ++ [name] ≠ [] := by simp
  refine ⟨by rw [found?_put files _ _ _ proper, if_pos rfl], fun more some => ?_⟩
  rw [found?_put files _ _ _ proper, if_neg (by simpa using some)]
  exact resembles.tree.found?_below missing more

/-- Below what is missing, directories are made alike, whatever others have made there before. -/
theorem makeAlong_below {names : List String}
    (here : files.found? place = some .directory)
    (bare : ∀ more, more ≠ [] → files.found? (place ++ more) = none) (down : ".." ∉ names)
    (makes : ∀ other ∈ stops place names, other ∈ ground.makes) (made before : Bool) :
    (others.makeAlong before place names).1 = (files.makeAlong made place names).1 ∧
      (files.makeAlong made place names).2.ResemblesOn ground
        (others.makeAlong before place names).2 := by
  induction names generalizing files others place made before with
  | nil => exact ⟨rfl, resembles⟩
  | cons name rest step =>
    have deeper := fun other inside => makes other (mem_stops_of_rest inside)
    have still := fun inside => down (List.mem_cons_of_mem name inside)
    rcases name_cases name with stays | rfl | plain
    · rw [makeAlong_of_still stays, makeAlong_of_still stays]
      rw [enter_of_still stays] at deeper
      exact step resembles here bare still deeper made before
    · exact absurd List.mem_cons_self down
    · rw [makeAlong_of_plain plain, makeAlong_of_plain plain]
      rw [enter_of_plain plain] at deeper
      split
      · exact ⟨rfl, resembles⟩
      · have missing := bare [name] nofun
        have above : files.found? (place ++ [name]).dropLast = some .directory := by
          rwa [List.dropLast_concat]
        have file := ne_directory_of_missing missing
        obtain ⟨now, barren⟩ := resembles.made_below missing
        have stands := resembles.stands _ (.inr (deeper _ (start_mem_stops _ rest)))
        rcases stands.directory_cases with
          ⟨-, there⟩ | ⟨found, -⟩ | ⟨_, _, _, _, found, -⟩ | ⟨-, -, there⟩
        · rw [missing, there]
          exact step (resembles.put file above (.same _)) now barren still deeper true true
        · cases missing.symm.trans found
        · cases missing.symm.trans found
        · rw [missing, there]
          exact step (resembles.catch_up missing above there) now barren still deeper true before

/-- Directories are made alike. -/
theorem makeAlong {names : List String} (here : files.found? place = some .directory)
    (admits : (∀ other ∈ stops place names, other ∈ ground.heeds) ∨
      ".." ∉ names ∧ ∀ other ∈ stops place names, other ∈ ground.makes) (made : Bool) :
    (others.makeAlong made place names).1 = (files.makeAlong made place names).1 ∧
      (files.makeAlong made place names).2.ResemblesOn ground
        (others.makeAlong made place names).2 := by
  induction names generalizing files others place made with
  | nil => exact ⟨rfl, resembles⟩
  | cons name rest step =>
    have deeper : (∀ other ∈ stops (enter place name) rest, other ∈ ground.heeds) ∨
        ".." ∉ rest ∧ ∀ other ∈ stops (enter place name) rest, other ∈ ground.makes :=
      admits.imp (fun heeds other inside => heeds other (mem_stops_of_rest inside))
        fun ⟨down, makes⟩ => ⟨fun inside => down (List.mem_cons_of_mem _ inside),
          fun other inside => makes other (mem_stops_of_rest inside)⟩
    rcases name_cases name with stays | rfl | plain
    · rw [makeAlong_of_still stays, makeAlong_of_still stays]
      rw [enter_of_still stays] at deeper
      exact step resembles here deeper made
    · rw [makeAlong_up, makeAlong_up]
      exact step resembles (resembles.tree.up here) deeper made
    · rw [makeAlong_of_plain plain, makeAlong_of_plain plain]
      rw [enter_of_plain plain] at deeper
      split
      · exact ⟨rfl, resembles⟩
      · have above : files.found? (place ++ [name]).dropLast = some .directory := by
          rwa [List.dropLast_concat]
        have stands := resembles.stands (place ++ [name])
          (deeper.imp (fun heeds => heeds _ (start_mem_stops _ rest))
            fun ⟨_, makes⟩ => makes _ (start_mem_stops _ rest))
        rcases stands.directory_cases with
          ⟨missing, there⟩ | ⟨found, there⟩ | ⟨_, _, _, _, found, there⟩ | ⟨unheeded, missing, there⟩
        · have file := ne_directory_of_missing missing
          rw [missing, there]
          exact step (resembles.put file above (.same _)) (resembles.made_below missing).1 deeper
            true
        · rw [found, there]
          exact step resembles found deeper made
        · rw [found, there]
          exact ⟨rfl, resembles⟩
        · -- from here on others are ahead, and the run alone finds nothing
          rcases deeper with heeds | ⟨down, makes⟩
          · exact absurd (heeds _ (start_mem_stops _ rest)) unheeded
          · obtain ⟨now, barren⟩ := resembles.made_below missing
            rw [missing, there]
            exact (resembles.catch_up missing above there).makeAlong_below now barren down makes true
              made

/-- **Directories are made alike**, and their places are known when it succeeds. -/
theorem attemptDirectories (admits : ground.Admits path) :
    (others.attemptDirectories path).1 = (files.attemptDirectories path).1 ∧
      (files.attemptDirectories path).2.ResemblesOn ground (others.attemptDirectories path).2 := by
  unfold FileSystem.attemptDirectories
  split
  · exact ⟨rfl, resembles⟩
  · split
    · exact ⟨rfl, resembles⟩
    · exact resembles.makeAlong (found?_root files) admits false

/-- Where directories were made they are known. -/
theorem pave (done : (files.attemptDirectories path).1 = .ok ()) {later : FileSystem}
    (after : (files.attemptDirectories path).2.ResemblesOn ground later) :
    (files.attemptDirectories path).2.ResemblesOn (ground.pave path.stops) later :=
  { after with
    paved := fun place known => (List.mem_append.mp known).elim
      (fun inside => resembles.tree.found?_of_made done inside) (after.paved place) }

/-! ### Writing and reading -/

variable (knows : ∀ place ∈ path.stops, ground.Knows place)

include knows

/-- What a path leads to, and the directory above it. -/
theorem entry_of_locate (leads : files.locate path = .ok place) :
    EntryAlike (files.found? place) (others.found? place) ∧
      files.found? place.dropLast = some .directory := by
  have here : place ∈ path.stops := locate_eq leads ▸ Path.place_mem_stops path
  exact ⟨resembles.entry (knows place here), resembles.tree.above_of_locate leads⟩

/-- **Texts that are alike are written alike.** -/
theorem write {text other : String} (alike : TextAlike text other) :
    SameOutcome ground (files.write path text.toUTF8) (others.write path other.toUTF8) := by
  unfold FileSystem.write
  rw [resembles.locate knows]
  cases leads : files.locate path with
  | error fault => exact .refused fault
  | ok place =>
    obtain ⟨entries, above⟩ := resembles.entry_of_locate knows leads
    have put : files.found? place ≠ some .directory → ∀ ownerOnly,
        (files.put place (.file text.toUTF8 ownerOnly)).ResemblesOn ground
          (others.put place (.file other.toUTF8 ownerOnly)) :=
      fun file ownerOnly => resembles.put file above (alike.entry ownerOnly)
    show SameOutcome ground (files.writeAt place text.toUTF8) (others.writeAt place other.toUTF8)
    unfold FileSystem.writeAt
    generalize files.found? place = entry at entries put
    generalize others.found? place = known at entries
    cases entries with
    | same =>
      rcases entry with _ | _ | _
      · exact .changed (put nofun _)
      · exact .refused _
      · exact .changed (put nofun _)
    | armoured here there ownerOnly => exact .changed (put nofun _)

/-- **Files are left to their owner alike.** -/
theorem restrict : SameOutcome ground (files.restrict path) (others.restrict path) := by
  unfold FileSystem.restrict
  rw [resembles.locate knows]
  cases leads : files.locate path with
  | error fault => exact .refused fault
  | ok place =>
    obtain ⟨entries, above⟩ := resembles.entry_of_locate knows leads
    have put : files.found? place ≠ some .directory → ∀ {entry other},
        EntryAlike (some entry) (some other) →
          (files.put place entry).ResemblesOn ground (others.put place other) :=
      fun file _ _ => resembles.put file above
    dsimp only [bind, Except.bind]
    generalize files.found? place = entry at entries put
    generalize others.found? place = known at entries
    cases entries with
    | same =>
      rcases entry with _ | _ | _
      · exact .refused _
      · exact .changed resembles
      · exact .changed (put nofun (.same _))
    | armoured here there ownerOnly => exact .changed (put nofun (.armoured here there true))

/-- **What is read is the same**, or a certificate or a key in both cases. -/
theorem readText : ReadAlike (files.readText path) (others.readText path) := by
  unfold FileSystem.readText FileSystem.readBytes
  rw [resembles.locate knows]
  cases leads : files.locate path with
  | error fault => exact .same _
  | ok place =>
    have entries := (resembles.entry_of_locate knows leads).1
    dsimp only [bind, Except.bind]
    generalize files.found? place = entry at entries
    generalize others.found? place = known at entries
    cases entries with
    | same => exact .same _
    | @armoured text other here there ownerOnly =>
      have read : ∀ text : String, String.fromUTF8? text.toUTF8 = some text :=
        fun text => dif_pos text.isValidUTF8
      dsimp only
      rw [read, read]
      exact .armoured here there

omit knows

/-- What an operation gives back, and what it leaves. -/
theorem commit {changed other : Except FileFault FileSystem} (same : SameOutcome ground changed other) :
    (others.commit other).1 = (files.commit changed).1 ∧
      (files.commit changed).2.ResemblesOn ground (others.commit other).2 := by
  cases same with
  | changed alike => exact ⟨rfl, alike⟩
  | refused fault => exact ⟨rfl, resembles⟩

/-- What others do to the files unnoticed makes no difference. -/
theorem of_unnoticed {after : FileSystem}
    (unnoticed : ∀ place, place ∈ ground.heeds ∨ place ∈ ground.makes →
      Unnoticed (place ∈ ground.heeds) (others.found? place) (after.found? place)) :
    files.ResemblesOn ground after :=
  { resembles with
    stands := fun place minds => by
      have stands := resembles.stands place minds
      rcases unnoticed place minds with same | ⟨unheeded, missing, there⟩
      · rwa [same]
      · rw [missing] at stands
        rw [there, stands.missing]
        exact .ahead unheeded }

end ResemblesOn

end FileSystem

end DeviceTrial
