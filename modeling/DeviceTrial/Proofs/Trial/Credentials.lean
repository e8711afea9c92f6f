/-
**What a trial leaves of its credentials.**

The certificate and the private key of an identity are files, and the cleanup removes them after it
has taken the identity away. A removal that fails makes no difference to that, but one that breaks
down or never comes back is the end of the cleanup:

* `FileSystem.hasFile_without`, `FileSystem.hasFile_of_without` — removing a file removes that file
  and makes none;
* `conduct_credentials` — **neither file is left exactly when the removal of the identity came to an
  end**, unless they were gone before the cleanup;
* `removal_breakdown_leaks` — a run that leaves its private key behind.
-/

import DeviceTrial.Proofs.Identity.Crashing
import DeviceTrial.Proofs.Identity.Writing
import DeviceTrial.Proofs.Trial.Compensation
import DeviceTrial.Proofs.Trial.Confinement

namespace DeviceTrial

/-! ### Files -/

namespace FileSystem

/-- That a file stands at a path. -/
def HasFile (files : FileSystem) (path : Path) : Prop := ∃ content, files.readBytes path = .ok content

/-- The files after one was removed, if it was there. -/
def without (files : FileSystem) (path : Path) : FileSystem := (files.answer (.remove path)).2

/-- The files without what stands at a place. -/
def erase (files : FileSystem) (place : Place) : FileSystem := ⟨files.entries.erase place⟩

variable {files : FileSystem} {path other : Path} {place gone : Place}

theorem hasFile_iff : files.HasFile path ↔ ∃ place content ownerOnly,
    files.locate path = .ok place ∧ files.found? place = some (.file content ownerOnly) := by
  unfold HasFile readBytes
  cases located : files.locate path with
  | error fault => simp [bind, Except.bind]
  | ok place =>
    cases found : files.found? place with
    | none => simp [bind, Except.bind, found]
    | some entry =>
      cases entry with
      | directory => simp [bind, Except.bind, found]
      | file content ownerOnly =>
        simp only [bind, Except.bind, found]
        exact ⟨fun _ => ⟨_, _, ownerOnly, rfl, found⟩, fun _ => ⟨content, rfl⟩⟩

theorem found?_erase (files : FileSystem) (proper : gone ≠ []) (place : Place) :
    (files.erase gone).found? place = if place = gone then none else files.found? place := by
  cases place with
  | nil => rw [if_neg proper.symm]; rfl
  | cons name rest => exact Table.get?_erase files.entries gone (name :: rest)

/-- What is found after something was erased was there before. -/
theorem found?_of_erase (proper : gone ≠ []) {entry : Entry}
    (found : (files.erase gone).found? place = some entry) :
    place ≠ gone ∧ files.found? place = some entry := by
  rw [found?_erase files proper] at found
  by_cases same : place = gone
  · rw [if_pos same] at found
    cases found
  · rw [if_neg same] at found
    exact ⟨same, found⟩

/-- Where a path leads after something was erased, it led before. -/
theorem locate_of_erase (proper : gone ≠ []) (leads : (files.erase gone).locate path = .ok place) :
    files.locate path = .ok place :=
  locate_of_directories (fun _ found => (found?_of_erase proper found).2) leads

/-- A file is removed, unless there is none. -/
theorem remove_cases (files : FileSystem) (path : Path) :
    (∃ fault, files.remove path = .error fault ∧ ¬ files.HasFile path) ∨
      ∃ place, files.locate path = .ok place ∧
        (∃ content ownerOnly, files.found? place = some (.file content ownerOnly)) ∧
        files.remove path = .ok (files.erase place) := by
  unfold remove
  cases located : files.locate path with
  | error fault =>
    refine .inl ⟨fault, rfl, fun has => ?_⟩
    obtain ⟨_, _, _, leads, -⟩ := hasFile_iff.mp has
    cases located.symm.trans leads
  | ok place =>
    have absent : (∀ content ownerOnly, files.found? place ≠ some (.file content ownerOnly)) →
        ¬ files.HasFile path := by
      intro other has
      obtain ⟨_, content, ownerOnly, leads, found⟩ := hasFile_iff.mp has
      cases located.symm.trans leads
      exact other content ownerOnly found
    cases found : files.found? place with
    | none =>
      exact .inl ⟨.notFound, by simp [bind, Except.bind, found], absent (by simp [found])⟩
    | some entry =>
      cases entry with
      | directory =>
        exact .inl ⟨.isDirectory, by simp [bind, Except.bind, found], absent (by simp [found])⟩
      | file content ownerOnly =>
        exact .inr ⟨place, rfl, ⟨content, ownerOnly, found⟩,
          by simp [bind, Except.bind, found, erase]⟩

/-- **Removing a file** takes away what stands at its path, and nothing else changes. -/
theorem without_cases (files : FileSystem) (path : Path) :
    (files.without path = files ∧ ¬ files.HasFile path) ∨
      ∃ place, files.locate path = .ok place ∧ files.found? place ≠ some .directory ∧
        files.without path = files.erase place ∧ files.HasFile path := by
  have same : files.without path = (files.commit (files.remove path)).2 := rfl
  rw [same]
  rcases remove_cases files path with
    ⟨fault, failed, none⟩ | ⟨place, located, ⟨content, ownerOnly, found⟩, removed⟩
  · rw [failed]
    exact .inl ⟨rfl, none⟩
  · rw [removed]
    exact .inr ⟨place, located, by rw [found]; nofun, rfl,
      hasFile_iff.mpr ⟨place, content, ownerOnly, located, found⟩⟩

/-- No file is left at the path that was removed. -/
theorem hasFile_without (files : FileSystem) (path : Path) : ¬ (files.without path).HasFile path := by
  rcases without_cases files path with ⟨same, none⟩ | ⟨gone, located, file, same, -⟩
  · rwa [same]
  · rw [same]
    intro has
    obtain ⟨place, _, _, leads, found⟩ := hasFile_iff.mp has
    cases located.symm.trans (locate_of_erase (ne_root file) leads)
    exact (found?_of_erase (ne_root file) found).1 rfl

/-- Removing a file makes no other. -/
theorem hasFile_of_without (has : (files.without path).HasFile other) : files.HasFile other := by
  rcases without_cases files path with ⟨same, -⟩ | ⟨gone, -, file, same, -⟩
  · rwa [same] at has
  · rw [same] at has
    obtain ⟨place, content, ownerOnly, leads, found⟩ := hasFile_iff.mp has
    exact hasFile_iff.mpr ⟨place, content, ownerOnly, locate_of_erase (ne_root file) leads,
      (found?_of_erase (ne_root file) found).2⟩

end FileSystem

/-! ### What touches files -/

/-- That an effect touches no file. -/
def Effect.SparesFiles : Effect → Prop
  | .file _ | .launch _ => False
  | _ => True

theorem Host.files_handle {σ : Type} (host : Host σ) (effect : Effect) (world : World σ)
    (spares : effect.SparesFiles) : (host.handle effect world).2.files = world.files := by
  cases effect with
  | file request => cases spares
  | launch launch => cases spares
  | _ => rfl

theorem Effect.IsSilent.sparesFiles {effect : Effect} (silent : effect.IsSilent false) :
    effect.SparesFiles := by
  cases effect with
  | log event => trivial
  | record sample => trivial
  | file request =>
    cases request with
    | remove path => cases silent
    | _ => exact silent
  | _ => cases silent

/-- A silent action asks for silent effects alone. -/
theorem Action.Silent.within {ε α : Type} {removing : Bool} {action : Action ε α} {value : α}
    (silent : action.Silent removing value) : action.Within (Effect.IsSilent removing) := by
  have keeps : ∀ {program : Program (Fate ε α)} {fate : Fate ε α},
      program.Silent removing fate → program.Within (Effect.IsSilent removing) := by
    intro program fate silent
    induction silent with
    | done value => exact .done value
    | perform silent _ step => exact .perform silent step
  exact keeps silent

/-- What spares the files leaves them as they are. -/
theorem Action.Within.files {σ ε α : Type} {action : Action ε α}
    (spares : action.Within Effect.SparesFiles) (host : Host σ) (world : World σ) :
    (action.runIn host world).2.files = world.files :=
  spares.runIn World.files host.files_handle world

namespace Identity

/-! ### Removing the files -/

variable {σ ε : Type}

theorem files_removeFile (host : Host σ) (path : Path) (world : World σ) :
    ((removeFile path : Action ε Unit).runIn host world).2.files = world.files.without path := by
  unfold removeFile
  rw [Action.runIn_bind]
  show ((Fate.onward _ (.done (world.files.answer (.remove path)).1)).runIn host
    { world with files := world.files.without path }).2.files = _
  refine @Action.Within.files _ _ _ (Fate.onward _ _) ?_ host _
  dsimp only [Fate.onward]
  split
  · exact .of_ask trivial
  · exact .of_pure ()
  · exact .of_ask trivial

/-- Both files are removed, one after the other. -/
theorem files_removeCredentials (host : Host σ) (paths : CredentialPaths) (world : World σ) :
    ((removeCredentials paths : Action ε Unit).runIn host world).2.files =
      (world.files.without paths.certificate).without paths.key := by
  have first : ((removeFile paths.certificate : Action ε Unit).runIn host world).1 = .done () :=
    (Trial.silent_removeFile paths.certificate).gives.runIn host world
  unfold removeCredentials
  rw [Action.runIn_bind, first, Fate.onward, files_removeFile, files_removeFile]

end Identity

namespace Trial

variable {σ : Type} {plan : Plan} {limits : Limits}

/-- Apart from the removal of the files the cleanup only tells. -/
theorem silent_afterwards (plan : Plan) (removed : Except TrialError Removal) :
    (afterwards plan removed).Within (Effect.IsSilent true) :=
  within_afterwards (fun provisioning _ => (silent_removeCredentials provisioning.paths).within) trivial
    removed

theorem files_afterwards {provisioning : Provisioning}
    (wanted : plan.provisioning = some provisioning) (removed : Except TrialError Removal)
    (host : Host σ) (world : World σ) :
    ((afterwards plan removed).runIn host world).2.files =
      (world.files.without provisioning.paths.certificate).without provisioning.paths.key := by
  have gives : ((Identity.removeCredentials provisioning.paths : Action TrialError Unit).runIn host
      world).1 = .done () := (silent_removeCredentials provisioning.paths).gives.runIn host world
  unfold afterwards
  rw [wanted]
  dsimp only
  rw [Action.runIn_bind, gives, Fate.onward, ← Identity.files_removeCredentials (ε := TrialError)]
  exact (within_closing trivial removed).files host _

/-- **The files after the cleanup.** Both are removed, unless the removal of the identity crashed. -/
theorem files_cleanup {provisioning : Provisioning} (wanted : plan.provisioning = some provisioning)
    (host : Host σ) (world : World σ) :
    let removal := ((Identity.dismantle plan.identity).runIn host world).1
    (removal.IsCrash ∧ ((cleanup plan).runIn host world).2.files = world.files) ∨
      ¬ removal.IsCrash ∧ ((cleanup plan).runIn host world).2.files =
        (world.files.without provisioning.paths.certificate).without provisioning.paths.key := by
  have untouched : ((Identity.dismantle plan.identity).runIn host world).2.files = world.files :=
    (Identity.within_dismantle ⟨fun _ _ _ => trivial, fun _ _ => trivial⟩ trivial _).files host world
  rw [cleanup_eq, Action.runIn_bind, Action.runIn_attempt]
  cases ((Identity.dismantle plan.identity).runIn host world).1 with
  | done found => exact .inr ⟨nofun, untouched ▸ files_afterwards wanted (.ok found) host _⟩
  | failed fault => exact .inr ⟨nofun, untouched ▸ files_afterwards wanted (.error fault) host _⟩
  | panicked message => exact .inl ⟨.panicked message, untouched⟩
  | hung => exact .inl ⟨.hung, untouched⟩

/-- The files after the cleanup and the report are those after the cleanup. -/
theorem files_closing (plan : Plan) (limits : Limits) (progress : Progress) (host : Host σ)
    (world : World σ) :
    ((cleanupPhase plan limits progress >>= conclude plan).runIn host world).2.files =
      ((cleanup plan).runIn host world).2.files := by
  unfold cleanupPhase
  rw [bind_assoc, Action.runIn_bind, Action.runIn_limited, Fate.onward]
  refine Action.Within.files ?_ host _
  refine Action.Within.bind ?_ fun finished => ?_
  · exact (silent_finishPhase plan .cleanup _ progress).within.mono fun _ silent =>
      Effect.IsSilent.sparesFiles silent
  · exact (silent_conclude plan finished).within.mono fun _ silent =>
      Effect.IsSilent.sparesFiles silent

/-! ### What is seen of it -/

/-- What only tells and removes files shows no errand. -/
theorem seen_of_silent {ε α : Type} {removing : Bool} {action : Action ε α}
    (within : action.Within (Effect.IsSilent removing)) (host : Host σ) (world : World σ) :
    Errand.view.seen (action.historyIn host world) = [] := by
  refine List.filterMap_eq_nil_iff.mpr fun moment inside => ?_
  have silent := within.historyIn world moment inside
  obtain ⟨before, effect, answer⟩ := moment
  cases effect with
  | file request =>
    cases request with
    | read path => cases silent
    | _ => rfl
  | log event => rfl
  | record sample => rfl
  | _ => cases silent

theorem seen_cleanup (plan : Plan) (host : Host σ) (world : World σ) :
    Errand.view.seen ((cleanup plan).historyIn host world) =
      Errand.view.seen ((Identity.dismantle plan.identity).historyIn host world) := by
  rw [cleanup_eq, Action.historyIn_bind, Action.historyIn_attempt, Action.runIn_attempt,
    View.seen_append]
  have silent : ∀ fate : Fate TrialError Removal,
      ((fate.attempted : Fate TrialError _).onward (afterwards plan)).Within
        (Effect.IsSilent true) := by
    intro fate
    cases fate with
    | done found => exact silent_afterwards plan (.ok found)
    | failed fault => exact silent_afterwards plan (.error fault)
    | panicked message => exact Program.Within.done _
    | hung => exact Program.Within.done _
  rw [seen_of_silent (silent _), List.append_nil]

/-- The errands of the cleanup and the report are those of taking the identity away. -/
theorem seen_closing (plan : Plan) (limits : Limits) (progress : Progress) (host : Host σ)
    (world : World σ) :
    Errand.view.seen ((cleanupPhase plan limits progress >>= conclude plan).historyIn host world) =
      Errand.view.seen ((Identity.dismantle plan.identity).historyIn host world) := by
  unfold cleanupPhase
  rw [bind_assoc, Action.historyIn_bind, Action.historyIn_limited, Action.runIn_limited,
    View.seen_append, seen_cleanup, Fate.onward]
  have silent : (finishPhase plan .cleanup (cleanupSlot plan limits
      ((cleanup plan).runIn host world).1.limited) progress >>= conclude plan).Within
      (Effect.IsSilent false) :=
    (silent_finishPhase plan .cleanup _ progress).within.bind fun finished =>
      (silent_conclude plan finished).within
  rw [seen_of_silent silent, List.append_nil]

/-! ### The credentials -/

/-- **What a trial leaves of its credentials.** The errands of a run with a report are those of the
phases and those of taking the identity away. Neither file is left exactly when none of the latter
crashed, unless the cleanup found neither; when one crashed, the files are what the phases left. -/
theorem conduct_credentials (host : Host σ) (plan : Plan) (limits : Limits) (world last : World σ)
    (provisioning : Provisioning) (report : Report)
    (wanted : plan.provisioning = some provisioning)
    (run : (conduct plan limits).runIn host world = (.done report, last)) :
    ∃ progress middle closing,
      (protectedPhases plan limits).runIn host (begun plan world) = (.done progress, middle) ∧
      Errand.view.seen ((conduct plan limits).historyIn host world) = Errand.view.seen
        ((protectedPhases plan limits).historyIn host (begun plan world)) ++ closing ∧
      Closes plan.identity closing ∧
      ((¬ last.files.HasFile provisioning.paths.certificate ∧
          ¬ last.files.HasFile provisioning.paths.key) ↔
        (∀ errand ∈ closing, ¬ errand.IsCrash) ∨
          ¬ middle.files.HasFile provisioning.paths.certificate ∧
            ¬ middle.files.HasFile provisioning.paths.key) ∧
      ((∃ errand ∈ closing, errand.IsCrash) → last.files = middle.files) := by
  obtain ⟨progress, middle, phases, closes, history⟩ := conduct_run run
  have dismantles := Identity.dismantles_of_shows
    ((Identity.dismantle plan.identity).shows_historyIn Errand.view host middle)
  have files : last.files = ((cleanup plan).runIn host middle).2.files := by
    rw [← files_closing plan limits progress, closes]
  refine ⟨progress, middle, _, phases, ?_, ⟨⟨_, dismantles⟩, dismantles.starts⟩, ?_⟩
  · rw [history, View.seen_cons, View.seen_append, seen_closing]
    rfl
  rw [files]
  rcases files_cleanup wanted host middle with ⟨crash, same⟩ | ⟨sane, same⟩
  · have crashed := dismantles.crash_iff.mp crash
    rw [same]
    refine ⟨⟨.inr, ?_⟩, fun _ => rfl⟩
    rintro (sane | absent)
    · obtain ⟨errand, inside, crash⟩ := crashed
      exact absurd crash (sane errand inside)
    · exact absent
  · rw [dismantles.crash_iff] at sane
    refine ⟨iff_of_true ?_ (.inl fun errand inside crash => sane ⟨errand, inside, crash⟩),
      fun crashed => absurd crashed sane⟩
    rw [same]
    exact ⟨fun has => FileSystem.hasFile_without _ _ (FileSystem.hasFile_of_without has),
      FileSystem.hasFile_without _ _⟩

/-- A thing that cannot be deleted keeps no file. -/
theorem conduct_credentials_undeleted :
    ∃ report last, sampleRun (Registry.empty.failingOn .deleteThing) = (.done report, last) ∧
      report.card.provision = .passed ∧ report.card.cleanup.isFailed ∧
      ¬ last.files.HasFile ⟨"/cert.pem"⟩ ∧ ¬ last.files.HasFile ⟨"/key.pem"⟩ := by
  have ended : (sampleRun (Registry.empty.failingOn .deleteThing)).1 =
      .done ⟨.jobs, samplePlan.tag, "device-a", ⟨.passed, .passed, .passed,
        .failed ("cleanup of 'device-a' failed: 1 step(s) failed: delete thing: " ++
          "mock failed: injected failure in DeleteThing for 'device-a'")⟩, []⟩ := by
    decide +kernel
  obtain ⟨progress, middle, closing, -, history, -, removed, -⟩ :=
    conduct_credentials sampleHost samplePlan ⟨1, 1, 1⟩
      (sampleWorld (Registry.empty.failingOn .deleteThing)) _
      ⟨.name "policy", ⟨⟨"/cert.pem"⟩, ⟨"/key.pem"⟩⟩, some "devices"⟩ _ rfl (Prod.ext ended rfl)
  refine ⟨_, _, Prod.ext ended rfl, rfl, rfl, removed.mpr (.inl fun errand inside crash => ?_)⟩
  -- nothing was made to break down
  obtain ⟨call, reply, rfl, crashed⟩ := crash
  have seen := List.mem_append_right (Errand.view.seen ((protectedPhases samplePlan ⟨1, 1, 1⟩).historyIn
    sampleHost (begun samplePlan (sampleWorld (Registry.empty.failingOn .deleteThing))))) inside
  rw [← history] at seen
  obtain ⟨interruption, meddles, rfl⟩ :=
    (serves_run .ok sampleLaunch (fun _ => samplePlan.tag) (conduct samplePlan ⟨1, 1, 1⟩)
      (sampleWorld (Registry.empty.failingOn .deleteThing))).2.meddled crashed seen
  rcases (meddling_sampleWorld _ _ _).mp meddles with ⟨-, reason, rfl⟩ | ⟨panics, -⟩
  · cases crashed
  · cases panics

/-- **The control plane breaks down when the principals are listed**, and the private key stays. -/
theorem removal_breakdown_leaks :
    (sampleRun (Registry.empty.panickingOn .listPrincipals)).1 =
        .done ⟨.jobs, samplePlan.tag, "device-a", ⟨.passed, .passed, .passed,
          .failed ("cleanup of 'device-a' failed: panicked: " ++
            "mock control plane panic in ListThingPrincipals for 'device-a'")⟩, []⟩ ∧
      (sampleRun (Registry.empty.panickingOn .listPrincipals)).2.files.readBytes ⟨"/key.pem"⟩ =
        .ok (Registry.certificateNumber 1).privateKey.toUTF8 := by
  decide +kernel

end Trial

end DeviceTrial
