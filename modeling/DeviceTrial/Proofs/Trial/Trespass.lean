/-
**What a trial does to files that are not its own.**

The cleanup removes the files at the paths of the credentials, and it does not ask who wrote them. So
when the identity could not be made and nothing was written yet, a file that stands there is taken away
that was there before the trial:

* `FileSystem.standing?_without` — removing a file changes what another path leads to only if both lead
  to that file;
* `Identity.files_of_unwritten` — making an identity changes no file before it writes the credentials;
* `runIn_protectedPhases_of_unmade` — what could not be made leaves nothing to do but the cleanup;
* `conduct_spares_iff` — **what stood at a path of the credentials is still there exactly when it was no
  file, or when the removal of the identity crashed**;
* `missing_secret_removes_key` — a run that takes away a key which it did not write.
-/

import DeviceTrial.Proofs.Trial.Credentials
import DeviceTrial.Proofs.Trial.Settling

namespace DeviceTrial

/-! ### What paths lead to -/

namespace FileSystem

variable {files : FileSystem} {path other : Path} {gone place : Place} {entry : Entry}

/-- What a path leads to. -/
def standing? (files : FileSystem) (path : Path) : Option Entry :=
  (files.locate path).toOption.bind files.found?

theorem standing?_eq_some_iff : files.standing? path = some entry ↔
    ∃ place, files.locate path = .ok place ∧ files.found? place = some entry := by
  unfold standing?
  cases files.locate path <;> simp [Except.toOption]

theorem hasFile_iff_standing : files.HasFile path ↔
    ∃ content ownerOnly, files.standing? path = some (.file content ownerOnly) := by
  simp only [hasFile_iff, standing?_eq_some_iff]
  constructor
  · rintro ⟨place, content, ownerOnly, leads, found⟩
    exact ⟨content, ownerOnly, place, leads, found⟩
  · rintro ⟨content, ownerOnly, place, leads, found⟩
    exact ⟨place, content, ownerOnly, leads, found⟩

/-- Paths lead where they did after a file was erased. -/
theorem locate_erase (file : files.found? gone ≠ some .directory)
    (leads : files.locate path = .ok place) : (files.erase gone).locate path = .ok place := by
  refine locate_of_directories (fun elsewhere found => ?_) leads
  have different : elsewhere ≠ gone := by
    rintro rfl
    exact file found
  rw [found?_erase files (ne_root file), if_neg different, found]

theorem standing?_erase (file : files.found? gone ≠ some .directory)
    (apart : files.locate path ≠ .ok gone) :
    (files.erase gone).standing? path = files.standing? path := by
  refine Option.ext fun entry => ?_
  rw [standing?_eq_some_iff, standing?_eq_some_iff]
  constructor
  · rintro ⟨place, leads, found⟩
    exact ⟨place, locate_of_erase (ne_root file) leads, (found?_of_erase (ne_root file) found).2⟩
  · rintro ⟨place, leads, found⟩
    have different : place ≠ gone := by
      rintro rfl
      exact apart leads
    exact ⟨place, locate_erase file leads, by
      rw [found?_erase files (ne_root file), if_neg different, found]⟩

/-- **Removing a file** changes what another path leads to only if both lead to that file. -/
theorem standing?_without (apart : files.HasFile other → other.place ≠ path.place) :
    (files.without path).standing? other = files.standing? other := by
  rcases without_cases files path with ⟨same, -⟩ | ⟨gone, located, file, same, has⟩
  · rw [same]
  · rw [same]
    refine standing?_erase file fun leads => ?_
    obtain ⟨_, content, ownerOnly, leadsToo, found⟩ := hasFile_iff.mp has
    cases located.symm.trans leadsToo
    exact apart (hasFile_iff.mpr ⟨gone, content, ownerOnly, leads, found⟩)
      ((locate_eq leads).symm.trans (locate_eq located))

/-- That what a path led to is still there. -/
def KeptAt (path : Path) (before after : FileSystem) : Prop :=
  ∀ entry, before.standing? path = some entry → after.standing? path = some entry

/-- When both files of an identity are removed, all but files is kept at their paths. -/
theorem keptAt_credentials_iff {paths : CredentialPaths}
    (own : path = paths.certificate ∨ path = paths.key) :
    KeptAt path files ((files.without paths.certificate).without paths.key) ↔
      ¬ files.HasFile path := by
  constructor
  · intro kept has
    obtain ⟨content, ownerOnly, stood⟩ := hasFile_iff_standing.mp has
    have still := hasFile_iff_standing.mpr ⟨content, ownerOnly, kept _ stood⟩
    rcases own with rfl | rfl
    · exact hasFile_without _ _ (hasFile_of_without still)
    · exact hasFile_without _ _ still
  · intro fileless entry stood
    rw [standing?_without fun has => absurd (hasFile_of_without has) fileless,
      standing?_without fun has => absurd has fileless, stood]

end FileSystem

/-! ### An identity that was not made -/

/-- The fate of an action that came back without a value. -/
def Mishap.fate {ε α : Type} : Mishap ε → Fate ε α
  | .failure fault => .failed fault
  | .breakdown message => .panicked message

/-- **Making an identity changes no file** before it writes the credentials. -/
theorem Identity.files_of_unwritten {σ : Type} {host : Host σ} {world : World σ} {identity : String}
    {source : PolicySource} {paths : CredentialPaths} {group : Option String}
    (unwritten : ∀ moment ∈ (establish identity source paths group).historyIn host world,
      ¬ moment.effect.IsFile) :
    ((establish identity source paths group).runIn host world).2.files = world.files := by
  -- apart from files there are only processes to be feared, and making an identity starts none
  have peaceful : (establish identity source paths group).Within
      fun effect => ¬ effect.IsFile → effect.SparesFiles :=
    within_establish ⟨fun _ _ _ _ => trivial, fun _ _ _ => trivial⟩
      (.of_all (fun _ other => absurd trivial other) paths) (fun _ _ => trivial) (fun _ _ => trivial)
      (fun _ => trivial) identity source group
  exact Action.runIn_of_moments World.files _ world fun moment inside =>
    host.files_handle moment.effect moment.before
      (peaceful.historyIn world moment inside (unwritten moment inside))

namespace Trial

variable {σ : Type} {plan : Plan} {limits : Limits} {provisioning : Provisioning}

theorem within_settle {α : Type} (plan : Plan) (phase : Phase) (progress : Progress)
    (fate : Fate TrialError α) : (settle plan phase progress fate).Within (Effect.IsSilent false) := by
  cases fate with
  | done value => exact (silent_finishPhase plan phase .passed progress).within
  | failed fault => exact (silent_finishPhase plan phase (.failed fault.message) progress).within
  | panicked message => exact (silent_crash plan message progress).within
  | hung => exact Program.Within.done _

/-- Nothing comes after a phase that met a mishap. -/
theorem afterPhase_of_mishap {α : Type} (phase : Phase) (progress : Progress)
    (next : Progress → TrialAction Progress) (mishap : Mishap TrialError) :
    afterPhase plan phase progress next (mishap.fate : Fate TrialError α) =
      settle plan phase progress (mishap.fate : Fate TrialError α) := by
  cases mishap <;> rfl

variable (limits) in
/-- When the identity could not be made, the phases come to their end with it. -/
theorem runIn_protectedPhases_of_unmade {host : Host σ} {world : World σ}
    {mishap : Mishap TrialError} (wanted : plan.provisioning = some provisioning)
    (unmade : ((provision plan provisioning).runIn host world).1 = mishap.fate) :
    ∃ progress middle, (protectedPhases plan limits).runIn host world = (.done progress, middle) ∧
      middle.files = ((provision plan provisioning).runIn host world).2.files ∧
      Errand.view.seen ((protectedPhases plan limits).historyIn host world) =
        Errand.view.seen ((provision plan provisioning).historyIn host world) := by
  have phases : protectedPhases plan limits = Program.bind (provision plan provisioning)
      (afterPhase plan .provision blank (drivePhase plan limits)) := by
    unfold protectedPhases
    rw [wanted]
    exact phase_eq .provision (provision plan provisioning) blank (drivePhase plan limits)
  have silent := within_settle plan .provision blank (mishap.fate : Fate TrialError Identity)
  rw [phases, Action.runIn_onward, Action.historyIn_onward, unmade, afterPhase_of_mishap,
    View.seen_append, seen_of_silent silent, List.append_nil]
  generalize ((provision plan provisioning).runIn host world).2 = unprovided
  obtain ⟨progress, written⟩ : ∃ progress,
      ((settle plan .provision blank (mishap.fate : Fate TrialError Identity)).runIn host
        unprovided).1 = .done progress := by
    rw [runIn_settle host unprovided rfl]
    cases mishap <;> exact ⟨_, rfl⟩
  exact ⟨progress, _, Prod.ext written rfl,
    (silent.mono fun _ quiet => quiet.sparesFiles).files host unprovided, rfl⟩

/-! ### The cleanup -/

/-- The cleanup and the report come to an end, with the files that the cleanup leaves. -/
theorem files_of_closing (wanted : plan.provisioning = some provisioning) (limits : Limits)
    (progress : Progress) (host : Host σ) (middle : World σ) :
    ∃ report last closing,
      (cleanupPhase plan limits progress >>= conclude plan).runIn host middle =
        (.done report, last) ∧
      Errand.view.seen ((cleanupPhase plan limits progress >>= conclude plan).historyIn host
        middle) = closing ∧
      Closes plan.identity closing ∧
      ((∃ errand ∈ closing, errand.IsCrash) ∧ last.files = middle.files ∨
        (¬ ∃ errand ∈ closing, errand.IsCrash) ∧ last.files =
          (middle.files.without provisioning.paths.certificate).without provisioning.paths.key) := by
  obtain ⟨_, -, ends⟩ := concluded_of_shows
    ((cleanupPhase plan limits progress >>= conclude plan).shows_historyIn Errand.view host middle)
  have dismantles := Identity.dismantles_of_shows
    ((Identity.dismantle plan.identity).shows_historyIn Errand.view host middle)
  refine ⟨_, _, _, Prod.ext ends rfl, seen_closing plan limits progress host middle,
    ⟨⟨_, dismantles⟩, dismantles.starts⟩, ?_⟩
  rw [files_closing, ← dismantles.crash_iff]
  exact files_cleanup wanted host middle

/-- The trial goes on with the cleanup when its phases have ended. -/
theorem conduct_of_phases {host : Host σ} {world middle : World σ} {progress : Progress}
    (phases : (protectedPhases plan limits).runIn host (begun plan world) = (.done progress, middle)) :
    (conduct plan limits).runIn host world =
        (cleanupPhase plan limits progress >>= conclude plan).runIn host middle ∧
      Errand.view.seen ((conduct plan limits).historyIn host world) =
        Errand.view.seen ((protectedPhases plan limits).historyIn host (begun plan world)) ++
          Errand.view.seen ((cleanupPhase plan limits progress >>= conclude plan).historyIn host
            middle) := by
  have runs : (conduct plan limits).runIn host world = (protectedPhases plan limits >>= fun progress =>
      cleanupPhase plan limits progress >>= conclude plan).runIn host (begun plan world) := rfl
  have moments : (conduct plan limits).historyIn host world =
      ⟨world, .log (firstEvent plan), ()⟩ :: (protectedPhases plan limits >>= fun progress =>
        cleanupPhase plan limits progress >>= conclude plan).historyIn host (begun plan world) := rfl
  rw [runs, moments, View.seen_cons, Action.runIn_bind, Action.historyIn_bind, View.seen_append,
    phases]
  exact ⟨rfl, rfl⟩

/-- **What a trial that wrote nothing does to files.** When the identity could not be made and no file
was worked on, the trial still comes to its report. What stood at a path of the credentials before the
trial is still there exactly when one of the errands of taking the identity away crashed, or when no
file stood there; and what other paths led to is there in any case. -/
theorem conduct_spares_iff (host : Host σ) (plan : Plan) (limits : Limits) (world : World σ)
    (provisioning : Provisioning) (mishap : Mishap TrialError)
    (wanted : plan.provisioning = some provisioning)
    (unmade : ((provision plan provisioning).runIn host (begun plan world)).1 = mishap.fate)
    (unwritten : ∀ moment ∈ (provision plan provisioning).historyIn host (begun plan world),
      ¬ moment.effect.IsFile) :
    ∃ report last closing,
      (conduct plan limits).runIn host world = (.done report, last) ∧
      Errand.view.seen ((conduct plan limits).historyIn host world) = Errand.view.seen
        ((provision plan provisioning).historyIn host (begun plan world)) ++ closing ∧
      Closes plan.identity closing ∧
      (∀ path, path = provisioning.paths.certificate ∨ path = provisioning.paths.key →
        (FileSystem.KeptAt path world.files last.files ↔
          (∃ errand ∈ closing, errand.IsCrash) ∨ ¬ world.files.HasFile path)) ∧
      ∀ path, path.place ≠ provisioning.paths.certificate.place →
        path.place ≠ provisioning.paths.key.place →
        last.files.standing? path = world.files.standing? path := by
  obtain ⟨progress, middle, phases, unchanged, seen⟩ :=
    runIn_protectedPhases_of_unmade limits wanted unmade
  obtain ⟨runs, shows⟩ := conduct_of_phases phases
  obtain ⟨report, last, closing, closes, shown, closed, files⟩ :=
    files_of_closing wanted limits progress host middle
  have before : middle.files = world.files := unchanged.trans (Identity.files_of_unwritten unwritten)
  rw [before] at files
  refine ⟨report, last, closing, runs.trans closes, by rw [shows, seen, shown], closed, ?_⟩
  rcases files with ⟨crash, same⟩ | ⟨sane, same⟩
  · rw [same]
    exact ⟨fun path own => iff_of_true (fun _ stood => stood) (.inl crash), fun _ _ _ => rfl⟩
  · rw [same]
    refine ⟨fun path own => ?_, fun path certificate key => ?_⟩
    · rw [FileSystem.keptAt_credentials_iff own, or_iff_right sane]
    · rw [FileSystem.standing?_without fun _ => key,
        FileSystem.standing?_without fun _ => certificate]

/-- What has to be made when the policy is kept in a secret. -/
def confidentialProvisioning : Provisioning :=
  ⟨.secret "policy", ⟨⟨"/cert.pem"⟩, ⟨"/key.pem"⟩⟩, some "devices"⟩

/-- A plan whose policy is kept in a secret. -/
def confidentialPlan : Plan := { samplePlan with provisioning := some confidentialProvisioning }

/-- A world in which there are no secrets. Somebody has a directory where the plan has its certificate,
and a file where it has its key. -/
def occupiedWorld : World (Interrupted Registry) :=
  let world := sampleWorld .empty
  { world with
    files := (world.files.put ["cert.pem"] .directory).put ["key.pem"]
      (.file "a key of somebody".toUTF8 true) }

/-- The directory and the descriptor are spared. -/
theorem conduct_spares_directory :
    ∃ report last, (conduct confidentialPlan ⟨1, 1, 1⟩).runIn sampleHost occupiedWorld =
        (.done report, last) ∧
      last.files.standing? ⟨"/cert.pem"⟩ = some .directory ∧
      last.files.standing? ⟨"/trial.json"⟩ = occupiedWorld.files.standing? ⟨"/trial.json"⟩ := by
  obtain ⟨report, last, closing, run, -, -, own, others⟩ :=
    conduct_spares_iff sampleHost confidentialPlan ⟨1, 1, 1⟩ occupiedWorld confidentialProvisioning
      (.failure (.secretUnavailable "policy" "secret 'policy' not found")) rfl
      (by decide +kernel) (by decide +kernel)
  have fileless : ¬ occupiedWorld.files.HasFile ⟨"/cert.pem"⟩ := by
    rintro ⟨content, read⟩
    have refused : occupiedWorld.files.readBytes ⟨"/cert.pem"⟩ = .error .isDirectory := by
      decide +kernel
    cases refused.symm.trans read
  exact ⟨report, last, run, (own _ (.inl rfl)).mpr (.inr fileless) _ (by decide +kernel),
    others _ (by decide +kernel) (by decide +kernel)⟩

/-- **A secret is missing**, so nothing is made and nothing is written, and somebody's key is gone. -/
theorem missing_secret_removes_key :
    ((provision confidentialPlan confidentialProvisioning).runIn sampleHost
        (begun confidentialPlan occupiedWorld)).1 =
        .failed (.secretUnavailable "policy" "secret 'policy' not found") ∧
      (∀ moment ∈ (provision confidentialPlan confidentialProvisioning).historyIn sampleHost
        (begun confidentialPlan occupiedWorld), ¬ moment.effect.IsFile) ∧
      occupiedWorld.files.standing? ⟨"/key.pem"⟩ =
        some (.file "a key of somebody".toUTF8 true) ∧
      ((conduct confidentialPlan ⟨1, 1, 1⟩).runIn sampleHost occupiedWorld).2.files.standing?
        ⟨"/key.pem"⟩ = none := by
  decide +kernel

end Trial

end DeviceTrial
