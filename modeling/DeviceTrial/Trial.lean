/-
**One trial from its plan to its report.**

The phases `provision`, `drive` and `verify` run one after the other, and the first that does not pass
ends them. Whatever happened in them, the identity is then taken away once, within a time of its own.
A control plane that breaks down makes a failed slot of the phase that was running.

* `conduct` — the trial;
* `Report.lines` — what is printed about it.
-/

import DeviceTrial.Drive
import DeviceTrial.Plan
import DeviceTrial.Scorecard
import DeviceTrial.Verification

namespace DeviceTrial

/-- What is known of a finished trial. -/
structure Report where
  /-- The family of scenarios. -/
  family : Family
  /-- The tag of the run. -/
  tag : RunTag
  /-- The name of the identity. -/
  identity : String
  /-- How the phases ended. -/
  card : Scorecard
  /-- The last lines of the process's output, when it failed. -/
  output : List String
deriving DecidableEq

namespace Report

/-- The verdict on the trial. -/
def verdict (report : Report) : Verdict := report.card.verdict

/-- The lines about the output of a process that failed. -/
def outputLines (output : List String) : List String :=
  if output.isEmpty then []
  else ("--- last " ++ toString output.length ++ " line(s) of driven process output ---") ::
    output ++ ["---"]

/-- The last line of all. -/
def headline (report : Report) : String :=
  report.family.name ++ " " ++ report.tag.text ++ " (" ++ report.identity ++ "): " ++
    report.verdict.headline

/-- What is printed about a trial. -/
def lines (report : Report) : List String :=
  outputLines report.output ++ report.card.summary ++ [report.headline]

end Report

/-- What the limits of a trial are. -/
structure Limits where
  /-- The seconds that a driven process has when its descriptor does not say. -/
  timeout : Nat
  /-- The seconds that the cleanup has. -/
  cleanupTimeout : Nat
  /-- The number of lines of output that are kept. -/
  tailLines : Nat
deriving DecidableEq, Repr

/-- The limits in the settings. -/
def Settings.limits (settings : Settings) : Limits :=
  ⟨settings.get .timeout, settings.get .cleanupTimeout, settings.get .tailLines⟩

/-- Trials never fail as a whole: what goes wrong is in the report. -/
abbrev TrialAction := Action Empty

/-- The state of a trial: the slots so far, and the lines of a process that failed. -/
structure Progress where
  /-- The slots so far. -/
  card : Scorecard
  /-- The last lines of a process that failed. -/
  output : List String
deriving DecidableEq

namespace Trial

/-- The state at the start of a trial. -/
def blank : Progress := ⟨.blank, []⟩

/-- Writes a slot. -/
def writeSlot (plan : Plan) (phase : Phase) (slot : Slot) (progress : Progress) :
    TrialAction Progress := do
  Action.record (.phase plan.family phase slot)
  return { progress with card := progress.card.set phase slot }

/-- Writes down that a phase came to its end. How long it took is left out: the events are without their
field `elapsed_ms`, and of a duration only that there is one is recorded. -/
def finishPhase (plan : Plan) (phase : Phase) (slot : Slot) (progress : Progress) :
    TrialAction Progress := do
  Action.record (.phaseDuration plan.family phase)
  match slot.reason? with
  | some reason =>
    Action.log .error .trial "phase failed"
      [("scenario", plan.family.name), ("identity", plan.identity), ("phase", phase.name),
       ("reason", reason)]
  | none =>
    Action.log .info .trial Event.phaseEnd
      [("scenario", plan.family.name), ("identity", plan.identity), ("phase", phase.name)]
  writeSlot plan phase slot progress

/-- Writes down that the scenario has no such phase. -/
def skipPhase (plan : Plan) (phase : Phase) (progress : Progress) : TrialAction Progress := do
  Action.log .info .trial "phase skipped"
    [("scenario", plan.family.name), ("phase", phase.name)]
  writeSlot plan phase .skipped progress

/-- The reason of a slot under which the control plane broke down. -/
def panicReason (message : String) : String := "panicked: " ++ message

/-- Writes down that the control plane broke down, in the slot of the phase that was running. -/
def crash (plan : Plan) (message : String) (progress : Progress) : TrialAction Progress := do
  let phase := progress.card.pending?.getD .verify
  Action.log .error .trial "protected region crashed"
    [("scenario", plan.family.name), ("identity", plan.identity), ("phase", phase.name),
     ("reason", panicReason message)]
  writeSlot plan phase (.failed (panicReason message)) progress

/-- Runs a phase and goes on when it passed. -/
def phase {α : Type} (plan : Plan) (phase : Phase) (work : Action TrialError α)
    (progress : Progress) (next : Progress → TrialAction Progress) : TrialAction Progress := do
  match ← work.contain with
  | .ok _ => next (← finishPhase plan phase .passed progress)
  | .error (.failure fault) => finishPhase plan phase (.failed fault.message) progress
  | .error (.breakdown message) => crash plan message progress

/-- Makes the identity of a plan. -/
def provision (plan : Plan) (provisioning : Provisioning) : Action TrialError Identity :=
  Identity.establish plan.identity provisioning.policy provisioning.paths provisioning.group

/-- Runs the process of a plan. -/
def drive (plan : Plan) (limits : Limits) : Action TrialError DriveReport :=
  Drive.run plan.descriptor plan.bindings limits.timeout limits.tailLines

/-- Runs the phase `verify`. -/
def verifyPhase (plan : Plan) (progress : Progress) : TrialAction Progress :=
  phase plan .verify (Verification.verify plan.expectation plan.identity) progress pure

/-- Runs the phase `drive` and those after it. A process that ran and failed leaves its last lines. -/
def drivePhase (plan : Plan) (limits : Limits) (progress : Progress) : TrialAction Progress := do
  match ← (drive plan limits).contain with
  | .ok report =>
    match report.result with
    | .ok _ => verifyPhase plan (← finishPhase plan .drive .passed progress)
    | .error fault =>
      finishPhase plan .drive (.failed fault.message) { progress with output := report.tail }
  | .error (.failure fault) => finishPhase plan .drive (.failed fault.message) progress
  | .error (.breakdown message) => crash plan message progress

/-- Runs the phases before the cleanup. -/
def protectedPhases (plan : Plan) (limits : Limits) : TrialAction Progress :=
  match plan.provisioning with
  | some provisioning =>
    phase plan .provision (provision plan provisioning) blank (drivePhase plan limits)
  | none => do drivePhase plan limits (← skipPhase plan .provision blank)

/-- Takes the identity of a plan away, and its files. -/
def cleanup (plan : Plan) : Action TrialError Removal := do
  let removed ← (Identity.dismantle plan.identity).attempt
  match plan.provisioning with
  | some provisioning => Identity.removeCredentials provisioning.paths
  | none => pure ()
  match removed with
  | .ok removal =>
    if removal = .absent then
      Action.log .info .trial "identity already absent" [("identity", plan.identity)]
    return removal
  | .error fault => Action.fail fault

/-- The slot of the cleanup. -/
def cleanupSlot (plan : Plan) (limits : Limits) :
    Option (Except (Mishap TrialError) Removal) → Slot
  | some (.ok _) => .passed
  | some (.error (.failure fault)) => .failed fault.message
  | some (.error (.breakdown message)) =>
    .failed (TrialError.cleanupFailed plan.identity (panicReason message)).message
  | none => .failed (TrialError.cleanupFailed plan.identity
      ("timed out after " ++ toString limits.cleanupTimeout ++ "s")).message

/-- Runs the phase `cleanup`, which is given up when its time runs out. -/
def cleanupPhase (plan : Plan) (limits : Limits) (progress : Progress) :
    TrialAction Progress := do
  let removed ← (cleanup plan).limited
  finishPhase plan .cleanup (cleanupSlot plan limits removed) progress

/-- Writes down the verdict on a trial. -/
def conclude (plan : Plan) (progress : Progress) : TrialAction Report := do
  let report : Report := ⟨plan.family, plan.tag, plan.identity, progress.card, progress.output⟩
  Action.record (.trial plan.family report.verdict)
  match report.verdict with
  | .passed =>
    Action.log .info .trial "scenario passed"
      [("scenario", plan.family.name), ("run_id", plan.tag.text)]
  | .failed =>
    Action.log .error .trial "scenario failed"
      [("scenario", plan.family.name), ("run_id", plan.tag.text),
       ("failures", toString progress.card.failures.length)]
  return report

/-- Runs a trial: the phases, the cleanup in any case, and the verdict. -/
def conduct (plan : Plan) (limits : Limits) : TrialAction Report := do
  Action.log .info .trial "starting scenario run"
    [("scenario", plan.family.name), ("run_id", plan.tag.text), ("identity", plan.identity),
     ("scenario_file", plan.descriptor.text)]
  let progress ← protectedPhases plan limits
  let progress ← cleanupPhase plan limits progress
  conclude plan progress

/-- Prints what is to be said about a trial. -/
def printLines {ε : Type} : List String → Action ε Unit
  | [] => return ()
  | line :: rest => do
    Action.printLine line
    printLines rest

end Trial

end DeviceTrial
