/-
**The errands of a trial.**

A trial is its phases and then its cleanup. `Protects` says what can become of the phases, with the
slots that they leave behind; `Conducts` adds the cleanup and the report:

* `phase_bind` — a phase that passes is followed by the next; one that does not is the last, and its
  slot says so, whether it failed or the control plane broke down under it;
* `protects_of_shows`, `conducts_of_shows` — nothing else can become of the phases and of a trial.
-/

import DeviceTrial.Proofs.Identity.Removing
import DeviceTrial.Proofs.Trial.Driving
import DeviceTrial.Proofs.Trial.Verifying
import DeviceTrial.Trial

namespace DeviceTrial

/-- The progress with a slot written. -/
def Progress.write (progress : Progress) (phase : Phase) (slot : Slot) : Progress :=
  { progress with card := progress.card.set phase slot }

namespace Trial

/-- The errands that make the identity of a plan, if it wants one. -/
inductive Making (plan : Plan) : List Errand → Prop where
  /-- The process makes its identity itself. -/
  | skipped (unwanted : plan.provisioning = none) : Making plan []
  /-- The identity is made. -/
  | made {provisioning : Provisioning} (wanted : plan.provisioning = some provisioning)
      {naming : List Errand} {policy : String}
      (names : Identity.Names provisioning.policy policy naming) (certificate : Certificate) :
    Making plan
      (Identity.makingErrands naming plan.identity policy certificate provisioning.group)

/-- The progress when the process is about to be driven. -/
def readied (plan : Plan) : Progress :=
  blank.write .provision (if plan.provisioning.isSome then .passed else .skipped)

/-- The progress when a phase of work has ended, whatever its end. -/
def ended {α : Type} (progress : Progress) (phase : Phase) :
    Fate TrialError α → Fate Empty Progress
  | .done _ => .done (progress.write phase .passed)
  | .failed fault => .done (progress.write phase (.failed fault.message))
  | .panicked message => .done (progress.write phase (.failed (panicReason message)))
  | .hung => .hung

/-- The errands and the end of the phases before the cleanup. -/
inductive Protects (plan : Plan) (limits : Limits) : List Errand → Fate Empty Progress → Prop where
  /-- The identity was not made. -/
  | unprovisioned {provisioning : Provisioning} {seen : List Errand}
      {stop : Fate TrialError Identity} (wanted : plan.provisioning = some provisioning)
      (establishes : Identity.Establishes plan.identity provisioning.policy provisioning.paths
        provisioning.group seen stop) (unmade : ∀ made, stop ≠ .done made) :
    Protects plan limits seen (ended blank .provision stop)
  /-- The process ran and did not do what it should. -/
  | unpassed {making seen script : List Errand} {report : DriveReport} {fault : TrialError}
      (made : Making plan making)
      (meant : Drive.Driving plan.descriptor plan.bindings limits.timeout script)
      (breaks : Errand.Breaks seen script) (bad : report.result = .error fault) :
    Protects plan limits (making ++ seen)
      (.done { (readied plan).write .drive (.failed fault.message) with output := report.tail })
  /-- There was no process, or it could not be told how it ended. -/
  | undriven {making seen script : List Errand} {stop : Fate TrialError DriveReport}
      (made : Making plan making)
      (meant : Drive.Driving plan.descriptor plan.bindings limits.timeout script)
      (breaks : Errand.Breaks seen script) (halts : Halts seen stop) :
    Protects plan limits (making ++ seen) (ended (readied plan) .drive stop)
  /-- The verification came to an end. -/
  | verified {making driving seen : List Errand} {stop : Fate TrialError Unit}
      (made : Making plan making)
      (drives : Drive.Driving plan.descriptor plan.bindings limits.timeout driving)
      (verifies : Verification.Verifies plan.identity plan.expectation seen stop) :
    Protects plan limits (making ++ (driving ++ seen))
      (ended ((readied plan).write .drive .passed) .verify stop)

/-- The report on a trial. -/
def reportOn (plan : Plan) (progress : Progress) : Report :=
  ⟨plan.family, plan.tag, plan.identity, progress.card, progress.output⟩

/-- The errands and the end of a trial. -/
inductive Conducts (plan : Plan) (limits : Limits) : List Errand → Fate Empty Report → Prop where
  /-- It never comes back. -/
  | hung {seen : List Errand} (protects : Protects plan limits seen .hung) :
    Conducts plan limits seen .hung
  /-- The phases came to an end, and so did the cleanup, at the latest when its time ran out. -/
  | concluded {first rest : List Errand} {progress : Progress} {removal : Fate TrialError Removal}
      (protects : Protects plan limits first (.done progress))
      (dismantles : Identity.Dismantles plan.identity rest removal) :
    Conducts plan limits (first ++ rest) (.done (reportOn plan
      (progress.write .cleanup (cleanupSlot plan limits removal.limited))))

variable {α : Type} {plan : Plan} {limits : Limits} {seen : List Errand}

/-! ### Slots -/

theorem silent_writeSlot (plan : Plan) (phase : Phase) (slot : Slot)
    (progress : Progress) :
    (writeSlot plan phase slot progress).Silent false (progress.write phase slot) :=
  (Action.Silent.of_record _).bind (.of_pure _)

theorem silent_finishPhase (plan : Plan) (phase : Phase) (slot : Slot)
    (progress : Progress) :
    (finishPhase plan phase slot progress).Silent false (progress.write phase slot) := by
  unfold finishPhase
  refine (Action.Silent.of_record _).bind ?_
  split
  · exact (Action.Silent.of_log _ _ _ _).bind (silent_writeSlot plan phase slot progress)
  · exact (Action.Silent.of_log _ _ _ _).bind (silent_writeSlot plan phase slot progress)

theorem gives_finishPhase (plan : Plan) (phase : Phase) (slot : Slot) (progress : Progress) :
    (finishPhase plan phase slot progress).Gives (progress.write phase slot) :=
  (silent_finishPhase plan phase slot progress).gives

theorem silent_skipPhase (plan : Plan) (phase : Phase) (progress : Progress) :
    (skipPhase plan phase progress).Silent false (progress.write phase .skipped) :=
  (Action.Silent.of_log _ _ _ _).bind (silent_writeSlot plan phase .skipped progress)

theorem gives_skipPhase (plan : Plan) (phase : Phase) (progress : Progress) :
    (skipPhase plan phase progress).Gives (progress.write phase .skipped) :=
  (silent_skipPhase plan phase progress).gives

theorem silent_crash (plan : Plan) (message : String) (progress : Progress) :
    (crash plan message progress).Silent false (progress.write
      (progress.card.pending?.getD .verify) (.failed (panicReason message))) :=
  (Action.Silent.of_log _ _ _ _).bind (silent_writeSlot plan _ _ progress)

/-- A breakdown is written into the slot of the phase that was running. -/
theorem gives_crash {phase : Phase} {progress : Progress}
    (running : progress.card.pending? = some phase) (message : String) :
    (crash plan message progress).Gives (progress.write phase (.failed (panicReason message))) := by
  have silent := silent_crash plan message progress
  rw [running] at silent
  exact silent.gives

/-- **A phase and what comes after it.** -/
theorem phase_of_shows {phase : Phase} {work : Action TrialError α} {progress : Progress}
    {next : Progress → TrialAction Progress} {fate : Fate Empty Progress}
    (running : progress.card.pending? = some phase)
    (shown : Action.Shows Errand.view (Trial.phase plan phase work progress next) seen fate) :
    (∃ value first rest, Action.Shows Errand.view work first (.done value) ∧
      Action.Shows Errand.view (next (progress.write phase .passed)) rest fate ∧
      seen = first ++ rest) ∨
    ∃ stop : Fate TrialError α, Action.Shows Errand.view work seen stop ∧
      (∀ value, stop ≠ .done value) ∧ fate = ended progress phase stop := by
  unfold Trial.phase at shown
  rcases Action.shows_contain_bind shown with
    ⟨value, first, rest, worked, after, rfl⟩ | ⟨fault, first, rest, worked, after, rfl⟩ |
    ⟨message, first, rest, worked, after, rfl⟩ | ⟨worked, rfl⟩
  · exact .inl ⟨value, first, rest, worked, (gives_finishPhase _ _ _ _).shows_bind after, rfl⟩
  · obtain ⟨rfl, rfl⟩ := gives_finishPhase _ _ _ _ _ _ after
    exact .inr ⟨.failed fault, by rwa [List.append_nil], nofun, rfl⟩
  · obtain ⟨rfl, rfl⟩ := gives_crash running message _ _ after
    exact .inr ⟨.panicked message, by rwa [List.append_nil], nofun, rfl⟩
  · exact .inr ⟨.hung, worked, nofun, rfl⟩

/-- **The run of a phase and of what comes after it**, when they come to an end. -/
theorem phase_of_runIn {σ : Type} {host : Host σ} {world : World σ} {phase : Phase}
    {work : Action TrialError α} {progress last : Progress}
    {next : Progress → TrialAction Progress} (running : progress.card.pending? = some phase)
    (ends : ((Trial.phase plan phase work progress next).runIn host world).1 = .done last) :
    work.historyIn host world <+:
        (Trial.phase plan phase work progress next).historyIn host world ∧
      ((∃ value middle, (work.runIn host world).1 = .done value ∧
          (next (progress.write phase .passed)).historyIn host middle <:+
            (Trial.phase plan phase work progress next).historyIn host world ∧
          ((next (progress.write phase .passed)).runIn host middle).1 = .done last) ∨
        ended progress phase (work.runIn host world).1 = .done last) := by
  obtain ⟨outcome, contained, after, moments⟩ := Action.runIn_bind_done ends
  unfold Trial.phase at ends ⊢
  rw [after] at ends
  rw [moments, Action.historyIn_contain]
  rw [Action.runIn_contain] at contained
  refine ⟨List.prefix_append _ _, ?_⟩
  cases fate : (work.runIn host world).1 with
  | done value =>
    rw [fate] at contained
    cases contained
    obtain ⟨finished, wrote, onward, rest⟩ := Action.runIn_bind_done ends
    rw [(gives_finishPhase plan phase .passed progress).runIn] at wrote
    cases wrote
    rw [onward] at ends
    dsimp only
    rw [rest, ← List.append_assoc]
    exact .inl ⟨value, _, rfl, List.suffix_append _ _, ends⟩
  | failed fault =>
    rw [fate] at contained
    cases contained
    exact .inr (((gives_finishPhase plan phase (.failed fault.message) progress).runIn host
      _).symm.trans ends)
  | panicked message =>
    rw [fate] at contained
    cases contained
    exact .inr (((gives_crash running message).runIn host _).symm.trans ends)
  | hung =>
    rw [fate] at contained
    cases contained

/-! ### Phases -/

theorem running_readied (plan : Plan) : (readied plan).card.pending? = some .drive := by
  unfold readied
  cases plan.provisioning <;> rfl

theorem running_driven (plan : Plan) :
    ((readied plan).write .drive .passed).card.pending? = some .verify := by
  unfold readied
  cases plan.provisioning <;> rfl

theorem verified_of_shows {making driving : List Errand} {fate : Fate Empty Progress}
    (made : Making plan making)
    (drives : Drive.Driving plan.descriptor plan.bindings limits.timeout driving)
    (shown : Action.Shows Errand.view (verifyPhase plan ((readied plan).write .drive .passed))
      seen fate) :
    Protects plan limits (making ++ (driving ++ seen)) fate := by
  rcases phase_of_shows (running_driven plan) shown with
    ⟨value, first, rest, verified, after, rfl⟩ | ⟨stop, verified, -, rfl⟩
  · obtain ⟨rfl, rfl⟩ := (Action.shows_pure_iff _ _ _ _).mp after
    rw [List.append_nil]
    exact .verified made drives (Verification.verifies_of_shows verified)
  · exact .verified made drives (Verification.verifies_of_shows verified)

/-- The phases from the drive on, after the errands that made the identity. -/
theorem driven_of_shows {making : List Errand} {fate : Fate Empty Progress}
    (made : Making plan making)
    (shown : Action.Shows Errand.view (drivePhase plan limits (readied plan)) seen fate) :
    Protects plan limits (making ++ seen) fate := by
  -- a drive that gave no report broke off at one of its errands
  have undriven : ∀ {errands : List Errand} {stop : Fate TrialError DriveReport},
      Action.Shows Errand.view (drive plan limits) errands stop → (∀ report, stop ≠ .done report) →
      Protects plan limits (making ++ errands) (ended (readied plan) .drive stop) := by
    intro errands stop driven unreported
    cases Drive.drives_of_shows driven with
    | passed _ _ => exact absurd rfl (unreported _)
    | unpassed _ _ _ => exact absurd rfl (unreported _)
    | broken meant breaks halts => exact .undriven made meant breaks halts
  unfold drivePhase at shown
  rcases Action.shows_contain_bind shown with
    ⟨report, first, rest, driven, after, rfl⟩ | ⟨fault, first, rest, driven, after, rfl⟩ |
    ⟨message, first, rest, driven, after, rfl⟩ | ⟨driven, rfl⟩
  · cases Drive.drives_of_shows driven with
    | passed drives good =>
      have result := (report.result_eq_ok_iff report).mpr ⟨good, rfl⟩
      simp only [result] at after
      exact verified_of_shows made drives ((gives_finishPhase _ _ _ _).shows_bind after)
    | unpassed meant breaks bad =>
      cases result : report.result with
      | ok other => exact absurd ((report.result_eq_ok_iff other).mp result).1 bad
      | error fault =>
        simp only [result] at after
        obtain ⟨rfl, rfl⟩ := gives_finishPhase _ _ _ _ _ _ after
        rw [List.append_nil]
        exact .unpassed made meant breaks result
    | broken _ _ halts => cases halts
  · obtain ⟨rfl, rfl⟩ := gives_finishPhase _ _ _ _ _ _ after
    rw [List.append_nil]
    exact undriven driven nofun
  · obtain ⟨rfl, rfl⟩ := gives_crash (running_readied plan) message _ _ after
    rw [List.append_nil]
    exact undriven driven nofun
  · exact undriven driven nofun

/-- **All that can become of the phases before the cleanup.** -/
theorem protects_of_shows {fate : Fate Empty Progress}
    (shown : Action.Shows Errand.view (protectedPhases plan limits) seen fate) :
    Protects plan limits seen fate := by
  unfold protectedPhases at shown
  cases wanted : plan.provisioning with
  | none =>
    simp only [wanted] at shown
    have driven := (gives_skipPhase plan .provision blank).shows_bind shown
    have ready : blank.write .provision .skipped = readied plan := by
      rw [readied, wanted]
      rfl
    rw [ready] at driven
    exact driven_of_shows (.skipped wanted) driven
  | some provisioning =>
    simp only [wanted] at shown
    rcases phase_of_shows rfl shown with
      ⟨identity, first, rest, established, driven, rfl⟩ | ⟨stop, established, unmade, rfl⟩
    · have ready : blank.write .provision .passed = readied plan := by
        rw [readied, wanted]
        rfl
      rw [ready] at driven
      cases Identity.establishes_of_shows established with
      | made certificate names => exact driven_of_shows (.made wanted names certificate) driven
      | broken _ _ _ _ halts => cases halts
      | unattached _ _ _ halts => cases halts
    · exact .unprovisioned wanted (Identity.establishes_of_shows established) unmade

/-- A breakdown in a phase is contained. -/
theorem Protects.not_panicked {fate : Fate Empty Progress}
    (protects : Protects plan limits seen fate) (message : String) : fate ≠ .panicked message := by
  have contained : ∀ {β : Type} (progress : Progress) (phase : Phase) (stop : Fate TrialError β),
      ended progress phase stop ≠ .panicked message := by
    intro β progress phase stop
    cases stop <;> nofun
  cases protects with
  | unpassed _ _ _ _ => nofun
  | _ => exact contained _ _ _

/-! ### Cleanup and report -/

theorem silent_removeFile {ε : Type} (path : Path) :
    (Identity.removeFile path : Action ε Unit).Silent true () := by
  refine .remove_bind fun answer => ?_
  split
  · exact .of_log _ _ _ _
  · exact .of_pure ()
  · exact .of_log _ _ _ _

/-- The files of an identity are removed silently, be they there or not. -/
theorem silent_removeCredentials {ε : Type} (paths : CredentialPaths) :
    (Identity.removeCredentials paths : Action ε Unit).Silent true () :=
  (silent_removeFile paths.certificate).bind (silent_removeFile paths.key)

/-- What a cleanup ends with. -/
def closing (plan : Plan) : Except TrialError Removal → Action TrialError Removal
  | .ok removal => do
    if removal = .absent then
      Action.log .info .trial "identity already absent" [("identity", plan.identity)]
    return removal
  | .error fault => Action.fail fault

/-- What a cleanup does after it has taken the identity away, or has failed to. -/
def afterwards (plan : Plan) (removed : Except TrialError Removal) : Action TrialError Removal :=
  match plan.provisioning with
  | some provisioning =>
    Identity.removeCredentials provisioning.paths >>= fun _ => closing plan removed
  | none => closing plan removed

theorem cleanup_eq (plan : Plan) :
    cleanup plan = (Identity.dismantle plan.identity).attempt >>= afterwards plan := by
  unfold cleanup
  congr 1

/-- The files make no difference to what is seen after the removal. -/
theorem closing_of_afterwards {removed : Except TrialError Removal}
    {fate : Fate TrialError Removal}
    (shown : Action.Shows Errand.view (afterwards plan removed) seen fate) :
    Action.Shows Errand.view (closing plan removed) seen fate := by
  unfold afterwards at shown
  split at shown
  · rename_i provisioning _
    exact (silent_removeCredentials provisioning.paths).gives.shows_bind shown
  · exact shown

/-- The cleanup removes the identity, and its files whatever became of that. -/
theorem dismantles_of_cleanup {fate : Fate TrialError Removal}
    (shown : Action.Shows Errand.view (cleanup plan) seen fate) :
    Identity.Dismantles plan.identity seen fate := by
  rw [cleanup_eq] at shown
  rcases Action.shows_attempt_bind shown with
    ⟨removal, first, rest, removed, after, rfl⟩ | ⟨fault, first, rest, removed, after, rfl⟩ |
    ⟨stop, removed, crashes⟩
  · have ends : rest = [] ∧ fate = .done removal := by
      have decided := closing_of_afterwards after
      dsimp only [closing] at decided
      split at decided
      · rw [Action.shows_log_bind_iff] at decided
        exact (Action.shows_pure_iff _ _ _ _).mp decided
      · exact (Action.shows_pure_iff _ _ _ _).mp decided
    obtain ⟨rfl, rfl⟩ := ends
    rw [List.append_nil]
    exact Identity.dismantles_of_shows removed
  · obtain ⟨rfl, rfl⟩ := (Action.shows_fail_iff _ _ _ _).mp (closing_of_afterwards after)
    rw [List.append_nil]
    exact Identity.dismantles_of_shows removed
  · have same : fate = stop := by cases crashes <;> rfl
    rw [same]
    exact Identity.dismantles_of_shows removed

theorem silent_conclude (plan : Plan) (progress : Progress) :
    (conclude plan progress).Silent false (reportOn plan progress) := by
  unfold conclude
  refine (Action.Silent.of_record _).bind ?_
  split
  · exact (Action.Silent.of_log _ _ _ _).bind (.of_pure _)
  · exact (Action.Silent.of_log _ _ _ _).bind (.of_pure _)

theorem gives_conclude (plan : Plan) (progress : Progress) :
    (conclude plan progress).Gives (reportOn plan progress) :=
  (silent_conclude plan progress).gives

/-- The cleanup and the report always come to an end. -/
theorem concluded_of_shows {progress : Progress} {fate : Fate Empty Report}
    (shown : Action.Shows Errand.view
      (cleanupPhase plan limits progress >>= conclude plan) seen fate) :
    ∃ removal, Identity.Dismantles plan.identity seen removal ∧ fate = .done (reportOn plan
      (progress.write .cleanup (cleanupSlot plan limits removal.limited))) := by
  unfold cleanupPhase at shown
  rw [bind_assoc] at shown
  obtain ⟨removal, first, rest, removed, after, rfl⟩ := Action.shows_limited_bind shown
  have concluded := (gives_finishPhase _ _ _ _).shows_bind after
  obtain ⟨rfl, rfl⟩ := gives_conclude _ _ _ _ concluded
  rw [List.append_nil]
  exact ⟨removal, dismantles_of_cleanup removed, rfl⟩

/-- **All that can become of a trial.** -/
theorem conducts_of_shows {fate : Fate Empty Report}
    (shown : Action.Shows Errand.view (conduct plan limits) seen fate) :
    Conducts plan limits seen fate := by
  unfold conduct at shown
  rw [Action.shows_log_bind_iff] at shown
  rcases (Action.shows_bind_iff _ _ _ _ _).mp shown with
    ⟨progress, first, rest, phases, cleaned, rfl⟩ | ⟨stop, phases, stops⟩
  · obtain ⟨removal, dismantles, rfl⟩ := concluded_of_shows cleaned
    exact .concluded (protects_of_shows phases) dismantles
  · cases stops with
    | failed fault => exact fault.elim
    | panicked message => exact absurd rfl ((protects_of_shows phases).not_panicked message)
    | hung => exact .hung (protects_of_shows phases)

/-! ### Runs -/

/-- The first event of a trial. -/
def firstEvent (plan : Plan) : Event :=
  ⟨.info, .trial, "starting scenario run",
    [("scenario", plan.family.name), ("run_id", plan.tag.text), ("identity", plan.identity),
     ("scenario_file", plan.descriptor.text)]⟩

/-- The world in which the phases of a trial start. -/
def begun (plan : Plan) (world : World σ) : World σ :=
  { world with events := world.events ++ [firstEvent plan] }

/-- The run of a trial with a report is that of its phases and then that of its cleanup. -/
theorem conduct_run {σ : Type} {host : Host σ} {world last : World σ} {report : Report}
    (run : (conduct plan limits).runIn host world = (.done report, last)) :
    ∃ progress middle,
      (protectedPhases plan limits).runIn host (begun plan world) = (.done progress, middle) ∧
      (cleanupPhase plan limits progress >>= conclude plan).runIn host middle =
        (.done report, last) ∧
      (conduct plan limits).historyIn host world = ⟨world, .log (firstEvent plan), ()⟩ ::
        ((protectedPhases plan limits).historyIn host (begun plan world) ++
          (cleanupPhase plan limits progress >>= conclude plan).historyIn host middle) := by
  have rest : (protectedPhases plan limits >>= fun progress =>
      cleanupPhase plan limits progress >>= conclude plan).runIn host (begun plan world) =
        (.done report, last) := run
  obtain ⟨progress, phases, after, moments⟩ := Action.runIn_bind_done (congrArg Prod.fst rest)
  exact ⟨progress, _, Prod.ext phases rfl, after.symm.trans rest, congrArg (List.cons _) moments⟩

/-- The cleanup is waited for, its slot is written, and then the verdict is. -/
theorem closing_run {σ : Type} {host : Host σ} {middle last : World σ} {progress : Progress}
    {report : Report}
    (run : (cleanupPhase plan limits progress >>= conclude plan).runIn host middle =
      (.done report, last)) :
    ∃ slot cleaned noted,
      slot = cleanupSlot plan limits ((cleanup plan).runIn host middle).1.limited ∧
      report = reportOn plan (progress.write .cleanup slot) ∧
      (cleanupPhase plan limits progress >>= conclude plan).historyIn host middle =
        (cleanup plan).historyIn host middle ++
          ((finishPhase plan .cleanup slot progress).historyIn host cleaned ++
            (conclude plan (progress.write .cleanup slot)).historyIn host noted) := by
  obtain ⟨final, removed, concluded, closes⟩ := Action.runIn_bind_done (congrArg Prod.fst run)
  obtain ⟨known, limited, finished, cleans⟩ := Action.runIn_bind_done removed
  rw [Action.runIn_limited] at limited
  cases limited
  have wrote := (congrArg Prod.fst finished).symm.trans removed
  rw [(gives_finishPhase plan .cleanup _ progress).runIn] at wrote
  cases wrote
  have gave := (congrArg Prod.fst concluded).symm.trans (congrArg Prod.fst run)
  rw [(gives_conclude plan _).runIn] at gave
  cases gave
  have first : (cleanupPhase plan limits progress).historyIn host middle = _ := cleans
  rw [Action.historyIn_limited] at first
  rw [first, List.append_assoc] at closes
  exact ⟨_, _, _, rfl, rfl, closes⟩

end Trial

end DeviceTrial
