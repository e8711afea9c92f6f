/-
**What the files of an identity hold.**

A path leads to one place, if it leads anywhere. A file is written where no directory stands, so it
takes no directory away, and whatever other paths led to before they lead to afterwards. So two files
that are written one after the other both hold what was written, as long as their paths lead to
different places:

* `FileSystem.locate_eq` — the place that a path leads to can be read off the path;
* `FileSystem.locate_of_directories` — it leads there as long as no directory goes;
* `FileSystem.Holds.put` — a file stays what it is when another place is written;
* `steady_writeCredentials` — writing them comes back;
* `files_of_writeCredentials` — **the files of an identity that were written**.
-/

import DeviceTrial.Identity
import DeviceTrial.Proofs.Run.Ending

namespace DeviceTrial

/-! ### Places -/

/-- Where one name leads. -/
def FileSystem.enter (place : Place) (name : String) : Place :=
  if name = "" || name = "." then place
  else if name = ".." then place.dropLast
  else place ++ [name]

/-- The place that a path leads to when nothing is in the way. -/
def Path.place (path : Path) : Place := path.pieces.foldl FileSystem.enter []

namespace FileSystem

variable {files after : FileSystem} {path : Path} {place target : Place} {text : String}
  {ownerOnly : Bool}

theorem follow_eq {names : List String} (leads : files.follow place names = .ok target) :
    target = names.foldl enter place := by
  induction names generalizing place with
  | nil => exact (Except.ok.inj leads).symm
  | cons name rest step =>
    unfold follow at leads
    cases needed : files.needDirectory place with
    | error fault =>
      rw [needed] at leads
      cases leads
    | ok value =>
      simp only [needed, bind, Except.bind] at leads
      rw [List.foldl_cons, enter]
      split_ifs at leads ⊢ <;> exact step leads

/-- **The place that a path leads to** depends on the path alone. -/
theorem locate_eq (leads : files.locate path = .ok place) : place = path.place := by
  unfold locate at leads
  cases checked : checkText path with
  | error fault =>
    rw [checked] at leads
    cases leads
  | ok value =>
    rw [checked] at leads
    exact follow_eq leads

/-- Names lead through directories, so they lead where they did as long as no directory goes. -/
theorem follow_of_directories {names : List String}
    (stay : ∀ place, files.found? place = some .directory → after.found? place = some .directory)
    (leads : files.follow place names = .ok target) : after.follow place names = .ok target := by
  induction names generalizing place with
  | nil => exact leads
  | cons name rest step =>
    have directory : files.found? place = some .directory := by
      unfold follow needDirectory at leads
      split at leads
      · cases leads
      · assumption
      · cases leads
    have needed : files.needDirectory place = .ok () := by
      rw [needDirectory, directory]
    have still : after.needDirectory place = .ok () := by
      rw [needDirectory, stay place directory]
    unfold follow at leads ⊢
    simp only [needed, still, bind, Except.bind] at leads ⊢
    split_ifs at leads ⊢ <;> exact step leads

/-- **A path leads where it did** as long as no directory goes. -/
theorem locate_of_directories
    (stay : ∀ place, files.found? place = some .directory → after.found? place = some .directory)
    (leads : files.locate path = .ok place) : after.locate path = .ok place := by
  unfold locate at leads ⊢
  cases checked : checkText path with
  | error fault =>
    rw [checked] at leads
    cases leads
  | ok value =>
    rw [checked] at leads
    exact follow_of_directories stay leads

/-- The root is a directory. -/
theorem ne_root (file : files.found? target ≠ some .directory) : target ≠ [] := by
  rintro rfl
  exact file rfl

/-- Where no directory stood there is none taken away. -/
theorem found?_put_directory {entry : Entry} (file : files.found? target ≠ some .directory)
    (found : files.found? place = some .directory) :
    (files.put target entry).found? place = some .directory := by
  have other : place ≠ target := by
    rintro rfl
    exact file found
  rw [found?_put files target place entry (ne_root file), if_neg other, found]

theorem locate_put {entry : Entry} (file : files.found? target ≠ some .directory)
    (leads : files.locate path = .ok place) : (files.put target entry).locate path = .ok place :=
  locate_of_directories (fun _ => found?_put_directory file) leads

/-! ### Files that hold a text -/

/-- That a path leads to a file with a text, which its owner alone may use or not. -/
def Holds (files : FileSystem) (path : Path) (text : String) (ownerOnly : Bool) : Prop :=
  ∃ place, files.locate path = .ok place ∧ files.found? place = some (.file text.toUTF8 ownerOnly)

/-- What is put where a path leads is what the path leads to. -/
theorem holds_put (leads : files.locate path = .ok place)
    (file : files.found? place ≠ some .directory) (text : String) (ownerOnly : Bool) :
    (files.put place (.file text.toUTF8 ownerOnly)).Holds path text ownerOnly := by
  refine ⟨place, locate_put file leads, ?_⟩
  rw [found?_put files place place _ (ne_root file), if_pos rfl]

/-- **A file stays what it is when another place is written.** -/
theorem Holds.put (holds : files.Holds path text ownerOnly) (entry : Entry)
    (file : files.found? target ≠ some .directory) (apart : path.place ≠ target) :
    (files.put target entry).Holds path text ownerOnly := by
  obtain ⟨place, leads, found⟩ := holds
  have other : place ≠ target := locate_eq leads ▸ apart
  refine ⟨place, locate_put file leads, ?_⟩
  rw [found?_put files target place _ (ne_root file), if_neg other, found]

/-- What writing a file does. -/
theorem write_cases (written : files.write path text.toUTF8 = .ok after) :
    ∃ place ownerOnly, files.locate path = .ok place ∧
      files.found? place ≠ some .directory ∧
      after = files.put place (.file text.toUTF8 ownerOnly) := by
  unfold write at written
  cases leads : files.locate path with
  | error fault =>
    rw [leads] at written
    cases written
  | ok place =>
    rw [leads] at written
    dsimp only [bind, Except.bind] at written
    unfold writeAt at written
    cases found : files.found? place with
    | none =>
      rw [found] at written
      cases written
      exact ⟨place, false, rfl, by rw [found]; nofun, rfl⟩
    | some entry =>
      rw [found] at written
      cases entry with
      | directory => cases written
      | file content ownerOnly =>
        cases written
        exact ⟨place, ownerOnly, rfl, by rw [found]; nofun, rfl⟩

/-- Leaving a file to its owner changes nothing else about it. -/
theorem restrict_of_holds (holds : files.Holds path text ownerOnly)
    (restricted : files.restrict path = .ok after) :
    ∃ place, files.locate path = .ok place ∧ files.found? place ≠ some .directory ∧
      after = files.put place (.file text.toUTF8 true) := by
  obtain ⟨place, leads, found⟩ := holds
  unfold restrict at restricted
  rw [leads] at restricted
  dsimp only [bind, Except.bind] at restricted
  rw [found] at restricted
  cases restricted
  exact ⟨place, leads, by rw [found]; nofun, rfl⟩

theorem of_commit_ok {changed : Except FileFault FileSystem}
    (done : (files.commit changed).1 = .ok ()) : changed = .ok (files.commit changed).2 := by
  cases changed with
  | ok after => rfl
  | error fault => cases done

end FileSystem

namespace Action

variable {σ : Type} {host : Host σ} {world : World σ}

/-- A change of files that gave a value was answered so, and does nothing else. -/
theorem runIn_fileStep_done {operation : Action FileFault (Except FileFault Unit)}
    (done : ((fileStep operation).runIn host world).1 = .done ()) :
    (operation.runIn host world).1 = .done (.ok ()) ∧
      (fileStep operation).runIn host world = (.done (), (operation.runIn host world).2) := by
  obtain ⟨outcome, answered, same, -⟩ := runIn_bind_done done
  cases outcome with
  | ok value => exact ⟨answered, same⟩
  | error fault =>
    rw [show (fileStep operation).runIn host world = _ from same] at done
    cases done

theorem runIn_write_done {path : Path} {text : String}
    (done : ((fileStep (file (.write path text))).runIn host world).1 = .done ()) :
    ∃ files, world.files.write path text.toUTF8 = .ok files ∧
      (fileStep (file (.write path text))).runIn host world =
        (.done (), { world with files := files }) := by
  obtain ⟨answered, same⟩ := runIn_fileStep_done done
  exact ⟨_, FileSystem.of_commit_ok (Fate.done.inj answered), same⟩

theorem runIn_restrict_done {path : Path}
    (done : ((fileStep (file (.restrict path))).runIn host world).1 = .done ()) :
    ∃ files, world.files.restrict path = .ok files ∧
      (fileStep (file (.restrict path))).runIn host world =
        (.done (), { world with files := files }) := by
  obtain ⟨answered, same⟩ := runIn_fileStep_done done
  exact ⟨_, FileSystem.of_commit_ok (Fate.done.inj answered), same⟩

end Action

/-- That an effect is an operation on files. -/
def Effect.IsFile : Effect → Prop
  | .file _ => True
  | _ => False

instance : DecidablePred Effect.IsFile
  | .file _ => .isTrue trivial
  | .call _ | .connect _ | .launch _ | .log _ | .record _ | .recorded | .print _ _ | .drawTag =>
    .isFalse id

namespace Identity

/-- Writing the files of an identity comes back, and only files are worked on. -/
theorem steady_writeCredentials (certificate : Certificate) (paths : CredentialPaths) :
    (writeCredentials certificate paths).Steady Effect.IsFile := by
  have file : ∀ request : FileRequest,
      (Action.file request : Action FileFault request.Answer).Steady Effect.IsFile :=
    fun _ => .of_ask trivial
  refine .bind (.makeParent (fun _ => trivial) _) fun _ => ?_
  refine .bind (.makeParent (fun _ => trivial) _) fun _ => ?_
  refine .bind (.fileStep (file _)) fun _ => ?_
  exact .bind (.fileStep (file _)) fun _ => .fileStep (file _)

/-- **The files of an identity that were written.** Each holds what was written to it, if their paths
lead to different places, and only the owner may use the key. -/
theorem files_of_writeCredentials {σ : Type} {host : Host σ} {world : World σ}
    {certificate : Certificate} {paths : CredentialPaths}
    (apart : paths.certificate.place ≠ paths.key.place)
    (done : ((writeCredentials certificate paths).runIn host world).1 = .done ()) :
    let files := ((writeCredentials certificate paths).runIn host world).2.files
    (∃ ownerOnly, files.Holds paths.certificate certificate.pem ownerOnly) ∧
      files.Holds paths.key certificate.privateKey true := by
  unfold writeCredentials at done ⊢
  obtain ⟨_, -, first, -⟩ := Action.runIn_bind_done done
  rw [first] at done ⊢
  obtain ⟨_, -, second, -⟩ := Action.runIn_bind_done done
  rw [second] at done ⊢
  generalize ((Action.makeParent paths.key).runIn host _).2 = ready at done ⊢
  obtain ⟨_, pemDone, third, -⟩ := Action.runIn_bind_done done
  rw [third] at done ⊢
  obtain ⟨withPem, pemWritten, pemRun⟩ := Action.runIn_write_done pemDone
  rw [pemRun] at done ⊢
  obtain ⟨_, keyDone, fourth, -⟩ := Action.runIn_bind_done done
  rw [fourth] at done ⊢
  obtain ⟨withKey, keyWritten, keyRun⟩ := Action.runIn_write_done keyDone
  rw [keyRun] at done ⊢
  obtain ⟨last, restricted, lastRun⟩ := Action.runIn_restrict_done done
  rw [lastRun]
  -- the certificate stays what it is under both operations on the key
  obtain ⟨here, ownerOnly, leads, free, rfl⟩ := FileSystem.write_cases pemWritten
  have pem := FileSystem.holds_put leads free certificate.pem ownerOnly
  obtain ⟨there, mode, leadsToo, freeToo, rfl⟩ := FileSystem.write_cases keyWritten
  have key := FileSystem.holds_put leadsToo freeToo certificate.privateKey mode
  have kept := pem.put (.file certificate.privateKey.toUTF8 mode) freeToo
    (FileSystem.locate_eq leadsToo ▸ apart)
  obtain ⟨place, final, freeStill, rfl⟩ := FileSystem.restrict_of_holds key restricted
  exact ⟨⟨ownerOnly, kept.put _ freeStill (FileSystem.locate_eq final ▸ apart)⟩,
    FileSystem.holds_put final freeStill certificate.privateKey true⟩

end Identity

end DeviceTrial
