/-
**Running the process under test.**

The arguments and variables of a descriptor are resolved into a `Launch`, the process is started, its
output is logged line by line, and the last lines are kept. That a process failed is a result, not an
error; errors are left to runs that could not start.

* `result_eq_ok_iff` — a report is a success when the process ended with code zero in time.
-/

import DeviceTrial.Bindings
import DeviceTrial.Descriptor
import DeviceTrial.Process.Output
import DeviceTrial.Secret

namespace DeviceTrial

/-- How the process under test ended. -/
inductive DriveStatus where
  /-- With code zero. -/
  | passed
  /-- With another code, or by a signal. -/
  | nonZeroExit
  /-- Its time ran out. -/
  | timeout
deriving DecidableEq, Repr

/-- The name of a status in the log. -/
def DriveStatus.logName : DriveStatus → String
  | .passed => "Passed"
  | .nonZeroExit => "NonZeroExit"
  | .timeout => "Timeout"

/-- The name of a status in a report. -/
def DriveStatus.name : DriveStatus → String
  | .passed => "passed"
  | .nonZeroExit => "non_zero_exit"
  | .timeout => "timeout"

/-- What is known of a process that ran. -/
structure DriveReport where
  /-- How it ended. -/
  status : DriveStatus
  /-- The code that it ended with. -/
  code : Option Int
  /-- The last lines of its output. -/
  tail : List String
  /-- The time that it had, in milliseconds. -/
  budget : Nat
deriving DecidableEq, Repr

namespace DriveReport

/-- Whether the process did what it should. -/
def passed (report : DriveReport) : Bool := report.status == .passed

/-- The report, or the error that a failed process is. -/
def result (report : DriveReport) : Except TrialError DriveReport :=
  match report.status with
  | .passed => .ok report
  | .nonZeroExit => .error (.driveFailed report.code)
  | .timeout => .error (.driveTimedOut (report.budget / 1000))

theorem result_eq_ok_iff (report other : DriveReport) :
    report.result = .ok other ↔ report.status = .passed ∧ other = report := by
  unfold result
  cases status : report.status <;> simp [eq_comm]

end DriveReport

namespace Drive

/-! ### Resolving -/

/-- The texts that one argument becomes. -/
def resolveArgument (bindings : Bindings) (argument : Argument) :
    Action TrialError (List String) :=
  match argument.secret, argument.data with
  | some secret, _ => do return [argument.name, ← resolveSecret secret]
  | none, some data => return [argument.name, bindings.expand data]
  | none, none => return [argument.name]

/-- The texts that arguments become, in order; the first secret that cannot be read ends it. -/
def resolveArguments (bindings : Bindings) : List Argument → Action TrialError (List String)
  | [] => return []
  | argument :: rest => do
    let own ← resolveArgument bindings argument
    let others ← resolveArguments bindings rest
    return own ++ others

/-- The variables for the process: those of the descriptor, and then those of the run. -/
def environmentFor (descriptor : Descriptor) (bindings : Bindings) : List (String × String) :=
  descriptor.environment.map (fun entry => (entry.1, bindings.expand entry.2)) ++
    bindings.environment

/-- The time that the process has, in milliseconds. -/
def budgetFor (descriptor : Descriptor) (defaultSeconds : Nat) : Nat :=
  descriptor.timeout.getD defaultSeconds * 1000

/-- Resolves a descriptor. -/
def prepare (descriptor : Descriptor) (bindings : Bindings) (defaultSeconds : Nat) :
    Action TrialError Launch := do
  let arguments ← resolveArguments bindings descriptor.arguments
  return { program := descriptor.command
           arguments := arguments
           environment := environmentFor descriptor bindings
           directory := descriptor.directory
           budget := budgetFor descriptor defaultSeconds }

/-! ### Running -/

/-- Logs what was read from the output. -/
def logReadings : List (Channel × Reading) → Action TrialError Unit
  | [] => return ()
  | (channel, .line text) :: rest => do
    Action.log .info .output text [("stream", channel.name)]
    logReadings rest
  | (channel, .unreadable) :: rest => do
    Action.log .warn .drive "stopped reading driven process output"
      [("stream", channel.name), ("error", "stream did not contain valid UTF-8")]
    logReadings rest

/-- The last lines of the output, at most `limit` of them. -/
def tailOf (limit : Nat) (readings : List (Channel × Reading)) : List String :=
  lastLines limit (readings.filterMap fun entry => entry.2.text?)

/-- The status and the code that an ending amounts to. -/
def statusOf : Ending → Except TrialError (DriveStatus × Option Int)
  | .exited code => .ok (if code = 0 then .passed else .nonZeroExit, some code)
  | .signalled => .ok (.nonZeroExit, none)
  | .expired => .ok (.timeout, none)
  | .lost reason => .error (.system reason)

/-- The text of a code in the log. -/
def codeText : Option Int → String
  | some code => "Some(" ++ toString code ++ ")"
  | none => "None"

/-- Logs that the time of a process ran out. -/
def logExpiry (launch : Launch) (ending : Ending) : Action TrialError Unit :=
  if ending = .expired then
    Action.log .warn .drive "driven process timed out, killing it"
      [("program", launch.program), ("timeout_secs", toString launch.budgetSeconds)]
  else return ()

/-- Starts a process and waits for it. Three things are left out, as they hang on the clock and on the
system alone: the field `elapsed_ms` of the last event, the end that is put to reading when the output
is still open two seconds after the process ended, and the warnings that a process whose time ran out,
or its group, could not be killed. What was read is part of the `Finish` in any case. -/
def execute (launch : Launch) (tailLimit : Nat) : Action TrialError DriveReport := do
  match ← Action.ask (.launch launch) with
  | .error reason => Action.fail (.launchFailed (launch.program ++ ": " ++ reason))
  | .ok finish =>
    logReadings finish.readings
    let (status, code) ← Action.ofExcept (statusOf finish.ending)
    logExpiry launch finish.ending
    Action.log .info .drive Event.driveEnd
      [("program", launch.program), ("status", status.logName), ("exit_code", codeText code)]
    return ⟨status, code, tailOf tailLimit finish.readings, launch.budget⟩

/-- Runs the descriptor at a path. -/
def run (path : Path) (bindings : Bindings) (defaultSeconds tailLimit : Nat) :
    Action TrialError DriveReport := do
  let descriptor ← Descriptor.load path
  let launch ← prepare descriptor bindings defaultSeconds
  Action.log .info .drive "launching driven process"
    [("scenario", path.text), ("description", descriptor.description),
     ("program", launch.program), ("run_id", bindings.tag.text),
     ("timeout_secs", toString launch.budgetSeconds)]
  execute launch tailLimit

end Drive

end DeviceTrial
