/-
**How the phases of a trial go on.**

When the work of a phase has ended, its end is settled: it is written into the slot, and told. A phase
that passed is followed by the next. The equations here say so of each phase as a whole, with the fate of
its work as what comes first, and are what the facts about their runs are read off.

* `phase_eq`, `verifyPhase_eq`, `drivePhase_eq` — a phase is its work and then what comes after its fate;
* `runIn_settle` — the slot that is left when an end was settled.
-/

import DeviceTrial.Proofs.Trial.Record

namespace DeviceTrial

open DeviceTrial.Action

namespace Trial

variable {α : Type} {plan : Plan} {limits : Limits}

/-- What is written down of the end of a phase. -/
def settle (plan : Plan) (phase : Phase) (progress : Progress) :
    Fate TrialError α → TrialAction Progress
  | .done _ => finishPhase plan phase .passed progress
  | .failed fault => finishPhase plan phase (.failed fault.message) progress
  | .panicked message => crash plan message progress
  | .hung => Program.done .hung

theorem runIn_settle {σ : Type} (host : Host σ) (world : World σ) {phase : Phase}
    {progress : Progress} (running : progress.card.pending? = some phase)
    (fate : Fate TrialError α) :
    ((settle plan phase progress fate).runIn host world).1 = ended progress phase fate := by
  cases fate with
  | done value => exact (gives_finishPhase plan phase .passed progress).runIn host world
  | failed fault =>
    exact (gives_finishPhase plan phase (.failed fault.message) progress).runIn host world
  | panicked message => exact (gives_crash running message).runIn host world
  | hung => rfl

/-- What comes after the work of a phase. -/
def afterPhase (plan : Plan) (phase : Phase) (progress : Progress)
    (next : Progress → TrialAction Progress) : Fate TrialError α → TrialAction Progress
  | .done _ => finishPhase plan phase .passed progress >>= next
  | stop => settle plan phase progress stop

theorem phase_eq (phase : Phase) (work : Action TrialError α) (progress : Progress)
    (next : Progress → TrialAction Progress) :
    Trial.phase plan phase work progress next =
      Program.bind work (afterPhase plan phase progress next) := by
  unfold Trial.phase
  rw [contain_bind_eq]
  exact congrArg (Program.bind work) (funext fun fate => by cases fate <;> rfl)

theorem verifyPhase_eq (progress : Progress) :
    verifyPhase plan progress = Program.bind (Verification.verify plan.expectation plan.identity)
      (settle plan .verify progress) := by
  unfold verifyPhase
  rw [phase_eq]
  refine congrArg (Program.bind _) (funext fun fate => ?_)
  cases fate with
  | done value => exact bind_pure _
  | _ => rfl

/-- The progress with the last lines of a process that failed. -/
def leaving (progress : Progress) : Fate TrialError DriveReport → Progress
  | .done report =>
    match report.result with
    | .ok _ => progress
    | .error _ => { progress with output := report.tail }
  | _ => progress

/-- What comes after the drive. -/
def afterDrive (plan : Plan) (progress : Progress) (fate : Fate TrialError DriveReport) :
    TrialAction Progress :=
  match judged fate with
  | .done _ => finishPhase plan .drive .passed progress >>= verifyPhase plan
  | stop => settle plan .drive (leaving progress fate) stop

theorem drivePhase_eq (progress : Progress) :
    drivePhase plan limits progress = Program.bind (drive plan limits) (afterDrive plan progress) := by
  unfold drivePhase
  rw [contain_bind_eq]
  refine congrArg (Program.bind _) (funext fun fate => ?_)
  cases fate with
  | done report =>
    show (match report.result with
      | .ok _ => finishPhase plan .drive .passed progress >>= verifyPhase plan
      | .error fault => finishPhase plan .drive (.failed fault.message)
          { progress with output := report.tail } : TrialAction Progress) = _
    cases result : report.result with
    | ok same => simp only [afterDrive, judged, result]
    | error fault => simp only [afterDrive, judged, leaving, result, settle]
  | _ => rfl

theorem card_leaving (progress : Progress) (fate : Fate TrialError DriveReport) :
    (leaving progress fate).card = progress.card := by
  unfold leaving
  repeat' split
  all_goals rfl

end Trial

end DeviceTrial
