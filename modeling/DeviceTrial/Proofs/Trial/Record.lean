/-
**The record of a trial.**

The slots of a report are written in several places: where a phase ends, where it is skipped, where a
breakdown is put down to the phase that was running, and after the cleanup. `IsRecord` says what is
true of them together, and `Told` that each tells how the work of its own phase ended:

* `Reaches.pass`, `Reaches.fail` — a phase is reached when those before it did what they should, and
  one that fails is the only one that does;
* `Conducts.isRecord` — so it is in every trial;
* `told_of_phase`, `told_of_conduct` — every slot that is written tells the end of a run of its phase;
* `conduct_record` — **the record of a trial**, for every plan and every host.
-/

import DeviceTrial.Proofs.Trial.Protocol

namespace DeviceTrial

/-- The place of a phase in the order of the phases. -/
def Phase.place (phase : Phase) : Nat := Phase.all.idxOf phase

theorem Phase.eq_of_place {phase other : Phase} (same : phase.place = other.place) :
    phase = other := by
  revert same
  cases phase <;> cases other <;> decide

/-! ### Summaries -/

namespace Slot

/-- The lines about a phase that failed. -/
def failureLines (phase : Phase) : Slot → List String
  | failed reason => [Scorecard.failureLine phase reason]
  | passed | skipped | notAttempted => []

/-- The lines about a phase that was not reached. -/
def unreachedLines (phase : Phase) : Slot → List String
  | notAttempted => [Scorecard.unreachedLine phase]
  | passed | skipped | failed _ => []

end Slot

namespace Scorecard

/-- The lines about the failed phases in the order of the phases, and then those about the phases that
were not reached. -/
def errorLines (card : Scorecard) : List String :=
  (Phase.all.flatMap fun phase => (card.get phase).failureLines phase) ++
    Phase.all.flatMap fun phase => (card.get phase).unreachedLines phase

theorem failures_lines (card : Scorecard) :
    card.failures.map (fun entry => failureLine entry.1 entry.2) =
      Phase.all.flatMap fun phase => (card.get phase).failureLines phase := by
  rw [failures, List.map_filterMap, List.filterMap_eq_flatMap_toList]
  congr 1
  funext phase
  cases card.get phase <;> rfl

theorem unreached_lines (card : Scorecard) :
    card.unreached.map unreachedLine =
      Phase.all.flatMap fun phase => (card.get phase).unreachedLines phase := by
  rw [unreached, ← List.filterMap_eq_filter, List.map_filterMap, List.filterMap_eq_flatMap_toList]
  congr 1
  funext phase
  cases slot : card.get phase <;> simp [Option.guard, slot, Slot.unreachedLines]

/-- The summary of a trial that did not pass. -/
theorem summary_eq_errorLines {card : Scorecard} (unpassed : card.verdict ≠ .passed) :
    card.summary = card.errorLines := by
  rw [summary, if_neg unpassed, failures_lines, unreached_lines]
  rfl

end Scorecard

namespace Trial

variable {σ : Type} {plan : Plan} {limits : Limits} {seen : List Errand} {host : Host σ}

/-! ### Slots -/

/-- What is true of the slots of every trial. -/
structure IsRecord (plan : Plan) (report : Report) : Prop where
  /-- The making of an identity is skipped exactly when the plan wants none. -/
  skipped : report.card.provision = .skipped ↔ plan.provisioning = none
  /-- At most one phase before the cleanup failed. -/
  single : ∀ phase ≠ .cleanup, ∀ other ≠ .cleanup, (report.card.get phase).isFailed →
    (report.card.get other).isFailed → phase = other
  /-- What comes before a failed phase passed, or was skipped if it made the identity. -/
  earlier : ∀ phase ≠ .cleanup, (report.card.get phase).isFailed → ∀ other,
    other.place < phase.place → report.card.get other = .passed ∨
      other = .provision ∧ report.card.get other = .skipped
  /-- What comes after a failed phase, up to the cleanup, was not reached. -/
  later : ∀ phase ≠ .cleanup, (report.card.get phase).isFailed → ∀ other ≠ .cleanup,
    phase.place < other.place → report.card.get other = .notAttempted
  /-- Without a failed phase before the cleanup all of them came to their end. -/
  unfailed : (∀ phase ≠ .cleanup, (report.card.get phase).isFailed = false) →
    (report.card.provision = .passed ∨ report.card.provision = .skipped) ∧
      report.card.drive = .passed ∧ report.card.verify = .passed
  /-- The cleanup is always tried. -/
  cleanup : report.card.cleanup = .passed ∨ report.card.cleanup.isFailed
  /-- Lines of output are kept only of a process that failed. -/
  output : report.output ≠ [] → report.card.drive.isFailed

/-- The slot of a phase that did what it should. -/
def goodSlot (plan : Plan) : Phase → Slot
  | .provision => if plan.provisioning.isSome then .passed else .skipped
  | .drive | .verify | .cleanup => .passed

theorem goodSlot_passed_or_skipped (plan : Plan) (phase : Phase) :
    goodSlot plan phase = .passed ∨ phase = .provision ∧ goodSlot plan phase = .skipped := by
  cases phase with
  | provision =>
    by_cases wanted : plan.provisioning.isSome
    · exact .inl (if_pos wanted)
    · exact .inr ⟨rfl, if_neg wanted⟩
  | _ => exact .inl rfl

theorem goodSlot_unfailed (plan : Plan) (phase : Phase) :
    (goodSlot plan phase).isFailed = false := by
  rcases goodSlot_passed_or_skipped plan phase with good | ⟨-, good⟩
  · rw [good]
    rfl
  · rw [good]
    rfl

theorem goodSlot_provision_iff (plan : Plan) :
    goodSlot plan .provision = .skipped ↔ plan.provisioning = none := by
  unfold goodSlot
  cases plan.provisioning <;> simp

/-- That the phases before one did what they should, and none was reached from there on. -/
structure Reaches (plan : Plan) (card : Scorecard) (phase : Phase) : Prop where
  early : ∀ other, other.place < phase.place → card.get other = goodSlot plan other
  late : ∀ other, phase.place ≤ other.place → card.get other = .notAttempted

/-- That the phases before one did what they should, that it failed, and that none was reached from
there on. -/
structure FailsAt (plan : Plan) (card : Scorecard) (phase : Phase) : Prop where
  early : ∀ other, other.place < phase.place → card.get other = goodSlot plan other
  here : (card.get phase).isFailed
  late : ∀ other, phase.place < other.place → card.get other = .notAttempted

theorem reaches_blank (plan : Plan) : Reaches plan blank.card .provision where
  early other sooner := absurd sooner (Nat.not_lt_zero _)
  late other _ := by cases other <;> rfl

theorem Reaches.pass {card : Scorecard} {phase next : Phase} (reaches : Reaches plan card phase)
    (successor : next.place = phase.place + 1) :
    Reaches plan (card.set phase (goodSlot plan phase)) next where
  early other sooner := by
    rw [Scorecard.get_set]
    by_cases same : other = phase
    · rw [if_pos same, same]
    · have apart : other.place ≠ phase.place := fun place => same (Phase.eq_of_place place)
      rw [if_neg same]
      exact reaches.early other (by omega)
  late other later := by
    have apart : other ≠ phase := by
      rintro rfl
      omega
    rw [Scorecard.get_set, if_neg apart]
    exact reaches.late other (by omega)

theorem Reaches.fail {card : Scorecard} {phase : Phase} (reaches : Reaches plan card phase)
    (reason : String) : FailsAt plan (card.set phase (.failed reason)) phase where
  early other sooner := by
    have apart : other ≠ phase := by
      rintro rfl
      exact Nat.lt_irrefl _ sooner
    rw [Scorecard.get_set, if_neg apart]
    exact reaches.early other sooner
  here := by
    rw [Scorecard.get_set_self]
    rfl
  late other later := by
    have apart : other ≠ phase := by
      rintro rfl
      exact Nat.lt_irrefl _ later
    rw [Scorecard.get_set, if_neg apart]
    exact reaches.late other (Nat.le_of_lt later)

theorem reaches_readied (plan : Plan) : Reaches plan (readied plan).card .drive :=
  (reaches_blank plan).pass rfl

theorem reaches_driven (plan : Plan) :
    Reaches plan ((readied plan).write .drive .passed).card .verify :=
  (reaches_readied plan).pass rfl

/-- A phase that ended without a value leaves a failure in its slot. -/
theorem exists_reason {α : Type} {progress last : Progress} {phase : Phase}
    {stop : Fate TrialError α} (ends : ended progress phase stop = .done last) :
    (∃ value, stop = .done value ∧ last = progress.write phase .passed) ∨
      ∃ reason, last = progress.write phase (.failed reason) := by
  cases stop with
  | done value =>
    cases ends
    exact .inl ⟨value, rfl, rfl⟩
  | failed fault =>
    cases ends
    exact .inr ⟨_, rfl⟩
  | panicked message =>
    cases ends
    exact .inr ⟨_, rfl⟩
  | hung => cases ends

/-- **The slots of the phases before the cleanup**: one of them is that of a failure, or all phases
did what they should. -/
theorem Protects.slots {progress : Progress}
    (protects : Protects plan limits seen (.done progress)) :
    (∃ phase, FailsAt plan progress.card phase ∧ phase ≠ .cleanup ∧
      (phase = .provision → plan.provisioning ≠ none) ∧
      (progress.output ≠ [] → phase = .drive)) ∨
    Reaches plan progress.card .cleanup ∧ progress.output = [] := by
  generalize same : (Fate.done progress : Fate Empty Progress) = fate at protects
  cases protects with
  | @unprovisioned provisioning _ _ wanted establishes unmade =>
    rcases exists_reason same.symm with ⟨made, stopped, -⟩ | ⟨reason, rfl⟩
    · exact absurd stopped (unmade made)
    · refine .inl ⟨.provision, (reaches_blank plan).fail reason, nofun, fun _ => ?_, nofun⟩
      rw [wanted]
      nofun
  | unpassed made meant breaks bad =>
    cases same
    exact .inl ⟨.drive, (reaches_readied plan).fail _, nofun, nofun, fun _ => rfl⟩
  | undriven made meant breaks halts =>
    rcases exists_reason same.symm with ⟨report, rfl, -⟩ | ⟨reason, rfl⟩
    · cases halts
    · exact .inl ⟨.drive, (reaches_readied plan).fail _, nofun, nofun, nofun⟩
  | verified made drives verifies =>
    rcases exists_reason same.symm with ⟨_, -, rfl⟩ | ⟨reason, rfl⟩
    · exact .inr ⟨(reaches_driven plan).pass rfl, rfl⟩
    · exact .inl ⟨.verify, (reaches_driven plan).fail _, nofun, nofun, nofun⟩

theorem cleanupSlot_passed_or_failed (plan : Plan) (limits : Limits)
    (removed : Option (Except (Mishap TrialError) Removal)) :
    cleanupSlot plan limits removed = .passed ∨ (cleanupSlot plan limits removed).isFailed := by
  rcases removed with _ | (_ | _) | _
  · exact .inr rfl
  · exact .inr rfl
  · exact .inr rfl
  · exact .inl rfl

/-! ### The record -/

theorem get_write_cleanup (progress : Progress) (slot : Slot) {phase : Phase}
    (early : phase ≠ .cleanup) :
    (progress.write .cleanup slot).card.get phase = progress.card.get phase := by
  rw [Progress.write, Scorecard.get_set, if_neg early]

/-- The phase at which a trial failed is the only one that failed. -/
theorem FailsAt.failed_iff {card : Scorecard} {phase : Phase} (fails : FailsAt plan card phase)
    (other : Phase) : (card.get other).isFailed ↔ other = phase := by
  constructor
  · intro failed
    rcases Nat.lt_trichotomy other.place phase.place with sooner | same | later
    · rw [fails.early other sooner, goodSlot_unfailed] at failed
      cases failed
    · exact Phase.eq_of_place same
    · rw [fails.late other later] at failed
      cases failed
  · rintro rfl
    exact fails.here

/-- The record of a trial that failed before its cleanup. -/
theorem FailsAt.isRecord {progress : Progress} {phase : Phase}
    (fails : FailsAt plan progress.card phase) (early : phase ≠ .cleanup)
    (wanted : phase = .provision → plan.provisioning ≠ none)
    (output : progress.output ≠ [] → phase = .drive) {slot : Slot}
    (tried : slot = .passed ∨ slot.isFailed) :
    IsRecord plan (reportOn plan (progress.write .cleanup slot)) := by
  have failed : ∀ other ≠ .cleanup,
      ((progress.write .cleanup slot).card.get other).isFailed → other = phase := by
    intro other apart bad
    rw [get_write_cleanup progress slot apart] at bad
    exact (fails.failed_iff other).mp bad
  constructor
  case skipped =>
    by_cases first : phase = .provision
    · refine iff_of_false (fun skipped => ?_) (wanted first)
      have here := fails.here
      rw [first] at here
      rw [show progress.card.get .provision = .skipped from skipped] at here
      cases here
    · have sooner : Phase.provision.place < phase.place := by
        revert first
        cases phase <;> decide
      have good := fails.early .provision sooner
      exact (Eq.congr_left good).trans (goodSlot_provision_iff plan)
  case single =>
    intro first apart other distinct bad worse
    exact (failed first apart bad).trans (failed other distinct worse).symm
  case earlier =>
    intro other apart bad before sooner
    obtain rfl := failed other apart bad
    have distinct : before ≠ .cleanup := by
      rintro rfl
      revert sooner
      cases other <;> decide
    rw [show (reportOn plan (progress.write .cleanup slot)).card.get before = _ from
      get_write_cleanup progress slot distinct, fails.early before sooner]
    exact goodSlot_passed_or_skipped plan before
  case later =>
    intro other apart bad after distinct later
    obtain rfl := failed other apart bad
    exact (get_write_cleanup progress slot distinct).trans (fails.late after later)
  case unfailed =>
    intro none
    have here := none phase early
    rw [show (reportOn plan (progress.write .cleanup slot)).card.get phase = _ from
      get_write_cleanup progress slot early, fails.here] at here
    cases here
  case cleanup => exact tried
  case output =>
    intro kept
    have here := fails.here
    rw [output kept] at here
    exact here

/-- The record of a trial whose phases before the cleanup did what they should. -/
theorem Reaches.isRecord {progress : Progress} (reaches : Reaches plan progress.card .cleanup)
    (silent : progress.output = []) {slot : Slot} (tried : slot = .passed ∨ slot.isFailed) :
    IsRecord plan (reportOn plan (progress.write .cleanup slot)) := by
  have good : ∀ phase ≠ .cleanup,
      (progress.write .cleanup slot).card.get phase = goodSlot plan phase := by
    intro phase early
    rw [get_write_cleanup progress slot early]
    refine reaches.early phase ?_
    revert early
    cases phase <;> decide
  have unfailed : ∀ phase ≠ .cleanup,
      ¬ ((progress.write .cleanup slot).card.get phase).isFailed := by
    intro phase early bad
    rw [good phase early, goodSlot_unfailed] at bad
    cases bad
  constructor
  case skipped => exact (Eq.congr_left (good .provision nofun)).trans (goodSlot_provision_iff plan)
  case single => exact fun phase early _ _ bad => absurd bad (unfailed phase early)
  case earlier => exact fun phase early bad => absurd bad (unfailed phase early)
  case later => exact fun phase early bad => absurd bad (unfailed phase early)
  case unfailed =>
    intro _
    have made := good .provision nofun
    refine ⟨?_, good .drive nofun, good .verify nofun⟩
    rcases goodSlot_passed_or_skipped plan .provision with passed | ⟨-, skipped⟩
    · exact .inl (made.trans passed)
    · exact .inr (made.trans skipped)
  case cleanup => exact tried
  case output => exact fun kept => absurd silent kept

/-- **The slots of a trial.** -/
theorem Conducts.isRecord {report : Report} (conducts : Conducts plan limits seen (.done report)) :
    IsRecord plan report := by
  cases conducts with
  | concluded protects dismantles =>
    have tried := cleanupSlot_passed_or_failed plan limits
    rcases protects.slots with ⟨phase, fails, early, wanted, output⟩ | ⟨reaches, silent⟩
    · exact fails.isRecord early wanted output (tried _)
    · exact reaches.isRecord silent (tried _)

/-- Of the slots of a trial it is the failed ones that decide on its verdict. -/
theorem IsRecord.verdict_iff {report : Report} (record : IsRecord plan report) :
    report.verdict = .passed ↔ ∀ phase, (report.card.get phase).isFailed = false := by
  refine (Scorecard.verdict_eq_passed_iff report.card).trans ?_
  constructor
  · intro good phase
    have fine := good phase
    cases slot : report.card.get phase with
    | failed reason =>
      rw [slot] at fine
      cases fine
    | _ => rfl
  · intro unfailed phase
    obtain ⟨made, drove, verified⟩ := record.unfailed fun phase _ => unfailed phase
    have removed := record.cleanup.resolve_right (Bool.eq_false_iff.mp (unfailed .cleanup))
    cases phase with
    | provision =>
      rcases made with slot | slot
      · exact congrArg Slot.isGood slot
      · exact congrArg Slot.isGood slot
    | drive => exact congrArg Slot.isGood drove
    | verify => exact congrArg Slot.isGood verified
    | cleanup => exact congrArg Slot.isGood removed

/-! ### The phase that was running -/

/-- The work of a phase. -/
def work (plan : Plan) (limits : Limits) : Phase → Action TrialError Unit
  | .provision =>
    match plan.provisioning with
    | some provisioning => provision plan provisioning >>= fun _ => pure ()
    | none => pure ()
  | .drive => drive plan limits >>= fun report => Action.ofExcept (report.result.map fun _ => ())
  | .verify => Verification.verify plan.expectation plan.identity
  | .cleanup => cleanup plan >>= fun _ => pure ()

/-- That a slot tells how the work of a phase ended. -/
inductive Tells (plan : Plan) (limits : Limits) : Phase → Fate TrialError Unit → Slot → Prop where
  /-- It did what it should. -/
  | passed (phase : Phase) : Tells plan limits phase (.done ()) .passed
  /-- It failed. -/
  | failed (phase : Phase) (fault : TrialError) :
    Tells plan limits phase (.failed fault) (.failed fault.message)
  /-- The control plane broke down under it. -/
  | crashed {phase : Phase} (early : phase ≠ .cleanup) (message : String) :
    Tells plan limits phase (.panicked message) (.failed (panicReason message))
  /-- The control plane broke down under the cleanup. -/
  | removalCrashed (message : String) : Tells plan limits .cleanup (.panicked message)
      (.failed (TrialError.cleanupFailed plan.identity (panicReason message)).message)
  /-- The time of the cleanup ran out. -/
  | expired : Tells plan limits .cleanup .hung (.failed (TrialError.cleanupFailed plan.identity
      ("timed out after " ++ toString limits.cleanupTimeout ++ "s")).message)

/-- That every slot which was written tells the end of a run of its phase, which was a part of the
whole run. -/
def Told (host : Host σ) (plan : Plan) (limits : Limits) (whole : List (Moment (World σ)))
    (card : Scorecard) : Prop :=
  ∀ phase, card.get phase ≠ .skipped → card.get phase ≠ .notAttempted →
    ∃ start, (work plan limits phase).historyIn host start <:+: whole ∧
      Tells plan limits phase ((work plan limits phase).runIn host start).1 (card.get phase)

variable {whole : List (Moment (World σ))} {world : World σ}

theorem told_blank : Told host plan limits whole blank.card := by
  intro phase _ unreached
  cases phase <;> exact absurd rfl unreached

theorem Told.skip {card : Scorecard} (told : Told host plan limits whole card) (phase : Phase) :
    Told host plan limits whole (card.set phase .skipped) := by
  intro other written reached
  rw [Scorecard.get_set] at written reached ⊢
  by_cases same : other = phase
  · rw [if_pos same] at written
    exact absurd rfl written
  · rw [if_neg same] at written reached ⊢
    exact told other written reached

theorem Told.write {card : Scorecard} (told : Told host plan limits whole card) {phase : Phase}
    {slot : Slot} (within : (work plan limits phase).historyIn host world <:+: whole)
    (tells : Tells plan limits phase ((work plan limits phase).runIn host world).1 slot) :
    Told host plan limits whole (card.set phase slot) := by
  intro other written reached
  rw [Scorecard.get_set] at written reached ⊢
  by_cases same : other = phase
  · rw [if_pos same, same]
    exact ⟨world, within, tells⟩
  · rw [if_neg same] at written reached ⊢
    exact told other written reached

theorem runIn_void {ε α : Type} (host : Host σ) (action : Action ε α) (world : World σ) :
    ((action >>= fun _ => pure ()).runIn host world).1 =
      (action.runIn host world).1.map fun _ => () := by
  rw [Action.runIn_bind]
  cases (action.runIn host world).1 <;> rfl

theorem historyIn_void {ε α : Type} (host : Host σ) (action : Action ε α) (world : World σ) :
    (action >>= fun _ => pure ()).historyIn host world = action.historyIn host world := by
  rw [Action.historyIn_bind]
  cases (action.runIn host world).1 <;> exact List.append_nil _

/-- **A phase tells how its work ended**, and so does what comes after it. -/
theorem told_of_phase {α : Type} {phase : Phase} {action : Action TrialError α}
    {progress last : Progress} {next : Progress → TrialAction Progress}
    (running : progress.card.pending? = some phase) (early : phase ≠ .cleanup)
    (works : work plan limits phase = action >>= fun _ => pure ())
    (told : Told host plan limits whole progress.card)
    (within : (Trial.phase plan phase action progress next).historyIn host world <:+: whole)
    (ends : ((Trial.phase plan phase action progress next).runIn host world).1 = .done last)
    (onward : ∀ middle,
      (next (progress.write phase .passed)).historyIn host middle <:+: whole →
      ((next (progress.write phase .passed)).runIn host middle).1 = .done last →
      Told host plan limits whole (progress.write phase .passed).card →
      Told host plan limits whole last.card) :
    Told host plan limits whole last.card := by
  obtain ⟨first, outcome⟩ := phase_of_runIn running ends
  have fate := runIn_void host action world
  have part := historyIn_void host action world
  rw [← works] at fate part
  replace part : (work plan limits phase).historyIn host world <:+: whole :=
    part ▸ first.isInfix.trans within
  rcases outcome with ⟨value, middle, worked, after, rest⟩ | stopped
  · rw [worked] at fate
    exact onward middle (after.isInfix.trans within) rest
      (told.write part (fate ▸ .passed phase))
  · cases stop : (action.runIn host world).1 with
    | done value =>
      rw [stop] at stopped fate
      cases stopped
      exact told.write part (fate ▸ .passed phase)
    | failed fault =>
      rw [stop] at stopped fate
      cases stopped
      exact told.write part (fate ▸ .failed phase fault)
    | panicked message =>
      rw [stop] at stopped fate
      cases stopped
      exact told.write part (fate ▸ .crashed early message)
    | hung =>
      rw [stop] at stopped
      cases stopped

theorem told_of_verify {progress last : Progress} (running : progress.card.pending? = some .verify)
    (told : Told host plan limits whole progress.card)
    (within : (verifyPhase plan progress).historyIn host world <:+: whole)
    (ends : ((verifyPhase plan progress).runIn host world).1 = .done last) :
    Told host plan limits whole last.card := by
  refine told_of_phase running nofun (bind_pure _).symm told within ends ?_
  intro middle _ rest verified
  cases rest
  exact verified

/-- The fate of a drive, of which a process that did not do what it should makes a failure. -/
def judged : Fate TrialError DriveReport → Fate TrialError Unit
  | .done report =>
    match report.result with
    | .ok _ => .done ()
    | .error fault => .failed fault
  | .failed fault => .failed fault
  | .panicked message => .panicked message
  | .hung => .hung

/-- The work of the drive is the drive itself and a look at its result. -/
theorem runIn_work_drive (plan : Plan) (limits : Limits) (host : Host σ) (world : World σ) :
    ((work plan limits .drive).runIn host world).1 =
        judged ((drive plan limits).runIn host world).1 ∧
      (work plan limits .drive).historyIn host world =
        (drive plan limits).historyIn host world := by
  rw [work, Action.runIn_bind, Action.historyIn_bind]
  cases (drive plan limits).runIn host world with
  | mk stop middle =>
    cases stop with
    | done report =>
      dsimp only [Fate.onward, judged]
      cases report.result <;> exact ⟨rfl, List.append_nil _⟩
    | _ => exact ⟨rfl, List.append_nil _⟩

/-- The drive tells how the process ended, and then the verification tells its end. -/
theorem told_of_drive {last : Progress} (told : Told host plan limits whole (readied plan).card)
    (within : (drivePhase plan limits (readied plan)).historyIn host world <:+: whole)
    (ends : ((drivePhase plan limits (readied plan)).runIn host world).1 = .done last) :
    Told host plan limits whole last.card := by
  obtain ⟨outcome, contained, after, moments⟩ := Action.runIn_bind_done ends
  obtain ⟨fate, part⟩ := runIn_work_drive plan limits host world
  unfold drivePhase at ends within
  rw [after] at ends
  rw [moments, Action.historyIn_contain] at within
  rw [Action.runIn_contain] at contained
  replace part : (work plan limits .drive).historyIn host world <:+: whole :=
    part ▸ (List.prefix_append _ _).isInfix.trans within
  cases stop : ((drive plan limits).runIn host world).1 with
  | done report =>
    rw [stop] at contained fate
    cases contained
    rw [judged] at fate
    cases result : report.result with
    | ok passed =>
      simp only [result] at ends within fate
      obtain ⟨finished, wrote, onward, rest⟩ := Action.runIn_bind_done ends
      rw [(gives_finishPhase plan .drive .passed (readied plan)).runIn] at wrote
      cases wrote
      rw [onward] at ends
      rw [rest, ← List.append_assoc] at within
      exact told_of_verify (running_driven plan) (told.write part (fate ▸ .passed .drive))
        ((List.suffix_append _ _).isInfix.trans within) ends
    | error fault =>
      simp only [result] at ends fate
      rw [(gives_finishPhase plan .drive (.failed fault.message) _).runIn] at ends
      cases ends
      exact told.write part (fate ▸ .failed .drive fault)
  | failed fault =>
    rw [stop] at contained fate
    cases contained
    dsimp only at ends
    rw [(gives_finishPhase plan .drive (.failed fault.message) _).runIn] at ends
    cases ends
    exact told.write part (fate ▸ .failed .drive fault)
  | panicked message =>
    rw [stop] at contained fate
    cases contained
    dsimp only at ends
    rw [(gives_crash (running_readied plan) message).runIn] at ends
    cases ends
    have early : Phase.drive ≠ .cleanup := nofun
    exact told.write part (fate ▸ .crashed early message)
  | hung =>
    rw [stop] at contained
    cases contained

/-- **Every slot that the phases write tells the end of a run of its phase.** -/
theorem told_of_phases {last : Progress}
    (within : (protectedPhases plan limits).historyIn host world <:+: whole)
    (ends : ((protectedPhases plan limits).runIn host world).1 = .done last) :
    Told host plan limits whole last.card := by
  unfold protectedPhases at within ends
  cases wanted : plan.provisioning with
  | none =>
    have ready : blank.write .provision .skipped = readied plan := by
      rw [readied, wanted]
      rfl
    simp only [wanted] at within ends
    obtain ⟨skipped, wrote, onward, rest⟩ := Action.runIn_bind_done ends
    rw [(gives_skipPhase plan .provision blank).runIn] at wrote
    cases wrote
    rw [onward, ready] at ends
    rw [rest, ready] at within
    refine told_of_drive ?_ ((List.suffix_append _ _).isInfix.trans within) ends
    rw [← ready]
    exact told_blank.skip .provision
  | some provisioning =>
    have ready : blank.write .provision .passed = readied plan := by
      rw [readied, wanted]
      rfl
    have works : work plan limits .provision =
        provision plan provisioning >>= fun _ => pure () := by
      rw [work, wanted]
    simp only [wanted] at within ends
    have early : Phase.provision ≠ .cleanup := by decide
    refine told_of_phase rfl early works told_blank within ends ?_
    intro middle part rest made
    rw [ready] at part rest made
    exact told_of_drive made part rest

theorem tells_cleanup (plan : Plan) (limits : Limits) (removal : Fate TrialError Removal) :
    Tells plan limits .cleanup (removal.map fun _ => ())
      (cleanupSlot plan limits removal.limited) := by
  cases removal with
  | done found => exact .passed .cleanup
  | failed fault => exact .failed .cleanup fault
  | panicked message => exact .removalCrashed message
  | hung => exact .expired

/-- **Every slot of a trial tells the end of a run of its phase.** -/
theorem told_of_conduct {report : Report} {last : World σ}
    (run : (conduct plan limits).runIn host world = (.done report, last)) :
    Told host plan limits ((conduct plan limits).historyIn host world) report.card := by
  obtain ⟨progress, middle, phases, closing, history⟩ := conduct_run run
  have ends := congrArg Prod.fst closing
  obtain ⟨final, removed, concluded, closes⟩ := Action.runIn_bind_done ends
  rw [concluded, (gives_conclude plan final).runIn] at ends
  cases ends
  -- the cleanup was waited for, and its slot was written
  obtain ⟨known, limited, finished, cleans⟩ := Action.runIn_bind_done removed
  rw [Action.runIn_limited] at limited
  cases limited
  have wrote := (congrArg Prod.fst finished).symm.trans removed
  rw [(gives_finishPhase plan .cleanup _ progress).runIn] at wrote
  cases wrote
  have phasesWithin : (protectedPhases plan limits).historyIn host (begun plan world) <:+:
      (conduct plan limits).historyIn host world := by
    rw [history]
    exact (List.prefix_append _ _).isInfix.trans (List.suffix_cons _ _).isInfix
  have cleanupWithin : (work plan limits .cleanup).historyIn host middle <:+:
      (conduct plan limits).historyIn host world := by
    have first : (cleanupPhase plan limits progress).historyIn host middle = _ := cleans
    rw [Action.historyIn_limited] at first
    rw [work, historyIn_void, history, closes, first, List.append_assoc]
    refine .trans ?_ (List.suffix_cons _ _).isInfix
    exact (List.prefix_append _ _).isInfix.trans (List.suffix_append _ _).isInfix
  refine (told_of_phases phasesWithin (congrArg Prod.fst phases)).write cleanupWithin ?_
  rw [work, runIn_void]
  exact tells_cleanup plan limits _

/-- **The record of a trial.** The trial ends with a report of the shape of a record, in which every
slot tells how its phase ended, or it waits for ever for a call of the phases before the cleanup. -/
theorem conduct_record (host : Host σ) (plan : Plan) (limits : Limits) (world : World σ) :
    (∃ report last, (conduct plan limits).runIn host world = (.done report, last) ∧
      IsRecord plan report ∧
      Told host plan limits ((conduct plan limits).historyIn host world) report.card ∧
      (report.verdict = .passed ↔ ∀ phase, (report.card.get phase).isFailed = false) ∧
      (report.card.summary = [Scorecard.successLine] ↔ report.verdict = .passed) ∧
      (report.verdict ≠ .passed → report.card.summary = report.card.errorLines)) ∨
    ((conduct plan limits).runIn host world).1 = .hung ∧
      ∃ request, request.operation ≠ .listPrincipals ∧
        .call request .hang ∈ Errand.view.seen ((conduct plan limits).historyIn host world) ∧
        ∀ errand ∈ Errand.view.seen ((conduct plan limits).historyIn host world),
          errand.operation? ≠ some .listPrincipals := by
  have conducts := conducts_of_shows
    ((conduct plan limits).shows_historyIn Errand.view host world)
  generalize Errand.view.seen ((conduct plan limits).historyIn host world) = seen at conducts ⊢
  generalize run : (conduct plan limits).runIn host world = outcome at conducts ⊢
  obtain ⟨fate, last⟩ := outcome
  cases fate with
  | done report =>
    have record := conducts.isRecord
    exact .inl ⟨report, last, rfl, record, told_of_conduct run, record.verdict_iff,
      Scorecard.summary_eq_success_iff report.card, Scorecard.summary_eq_errorLines⟩
  | failed fault => exact fault.elim
  | panicked message => nomatch conducts
  | hung =>
    cases conducts with
    | hung protects =>
      obtain ⟨request, waits⟩ := protects.hangs
      have unlisted := protects.opens.unlisted
      have other : request.operation ≠ .listPrincipals := fun same =>
        unlisted _ waits (congrArg some same)
      exact .inr ⟨rfl, request, other, waits, unlisted⟩

end Trial

end DeviceTrial
