/-
**The whole program.**

The command line is read, the trial is prepared, the control plane is connected to, the trial is
conducted, and the verdict is said. The exit code is 0 for a trial that passed, 2 for wrong arguments
or settings, and 1 for all else. Logging and the recording of metrics are set up for the whole process
and not by the program itself, so a `Setup` says whether that can be done.

* `start` — everything before logging begins;
* `finish` — everything after it;
* `runWith` — the one after the other; `run` when everything can be set up.
-/

import DeviceTrial.Logging
import DeviceTrial.MetricsFile
import DeviceTrial.Preparation
import DeviceTrial.Trial

namespace DeviceTrial

/-- Why something cannot be set up in the process, if it cannot. -/
structure Setup where
  /-- Why no events can be logged. -/
  logging : Option String
  /-- Why no metrics can be recorded. -/
  metrics : Option String

/-- Everything can be set up. -/
def Setup.free : Setup := ⟨none, none⟩

namespace Application

/-- The exit code of a verdict. -/
def verdictCode : Verdict → Nat
  | .passed => 0
  | .failed => 1

/-- Prints a line on standard error. -/
def complain {ε : Type} (line : String) : Action ε Unit := Action.ask (.print .err line)

/-- The line about an abort. -/
def abortLine (abort : Abort) : String := "ERROR: " ++ abort.message

/-! ### Before logging begins -/

/-- Reads the command line and prepares the trial; an exit code if there is nothing to be done. No
event is logged yet. -/
def start (arguments : List String) (around : Surroundings) :
    Action Empty (Except Nat Prepared) :=
  match CommandLine.select arguments with
  | .error halt => return .error halt.exitCode
  | .ok selection => do
    match ← (Preparation.prepare selection around).attempt with
    | .ok prepared => return .ok prepared
    | .error abort =>
      complain (abortLine abort)
      return .error abort.exitCode

/-! ### After logging began -/

/-- Connects to the control plane of a region. -/
def connect (region : String) : Action PlaneError Unit := do
  let endpoint ← Action.connect region
  Action.log .debug .service "control plane clients ready"
    [("region", region), ("data_endpoint", endpoint)]

/-- Has metrics recorded. -/
def recordMetrics (setup : Setup) : Action Abort Unit :=
  match setup.metrics with
  | none => Action.log .debug .exposition "Prometheus metrics recorder installed" []
  | some reason => Action.fail (.setup ("failed to install metrics recorder: " ++ reason))

/-- Has metrics recorded, if they are wanted, and says what is about to be done. -/
def announce (setup : Setup) (prepared : Prepared) : Action Abort Unit := do
  if prepared.settings.get .metricsEnabled then
    recordMetrics setup
  Action.log .info .program "devicetest starting"
    [("scenario", prepared.plan.family.name), ("run_id", prepared.plan.tag.text),
     ("identity", prepared.plan.identity), ("region", prepared.plan.region),
     ("scenario_file", prepared.plan.descriptor.text)]

/-- Hands the metrics on, if they are wanted. -/
def handMetricsOn (settings : Settings) : Action Abort Unit :=
  if settings.get .metricsEnabled then MetricsFile.handOn (settings.get .metricsOutput)
  else return ()

/-- Conducts a trial that cannot fail as a whole. -/
def conduct (prepared : Prepared) : Action Abort Report :=
  (Trial.conduct prepared.plan prepared.settings.limits).mapError Empty.elim

/-- Connects to the control plane and conducts the trial. -/
def execute (setup : Setup) (prepared : Prepared) : Action Abort Verdict := do
  announce setup prepared
  (connect prepared.plan.region).mapError fun fault => .unreachable fault.message
  let report ← conduct prepared
  Trial.printLines report.lines
  handMetricsOn prepared.settings
  return report.verdict

/-- Executes a prepared trial and finds the exit code. -/
def conclude (setup : Setup) (prepared : Prepared) : Action Empty Nat := do
  match ← (execute setup prepared).attempt with
  | .ok verdict => return verdictCode verdict
  | .error abort =>
    Action.log .error .entry "devicetest aborted" [("error", abort.message)]
    complain (abortLine abort)
    return abort.exitCode

/-- Which events are logged; none when logging cannot be set up. -/
def isLogged : Except String Logging → Event → Bool
  | .ok logging, event => logging.filter.allows event
  | .error _, _ => false

/-- Warns when logging cannot be set up. -/
def warn : Except String Logging → Action Empty Unit
  | .ok _ => return ()
  | .error reason => complain ("warning: " ++ reason)

/-- How events are logged, if they can be. -/
def loggingFor (setup : Setup) (settings : Settings) (environment : Variables) :
    Except String Logging := do
  let logging ← Logging.prepare settings environment
  match setup.logging with
  | none => return logging
  | some reason =>
    .error ("failed to initialize " ++ logging.format.name ++ " tracing subscriber: " ++ reason)

/-- Sets logging up and executes a prepared trial. -/
def finish (setup : Setup) (around : Surroundings) (prepared : Prepared) : Action Empty Nat := do
  let logging := loggingFor setup prepared.settings around.environment
  warn logging
  (conclude setup prepared).heard (isLogged logging)

/-- The program in a process in which something may not be possible: its exit code. -/
def runWith (setup : Setup) (arguments : List String) (around : Surroundings) :
    Action Empty Nat := do
  match ← (start arguments around).heard fun _ => false with
  | .ok prepared => finish setup around prepared
  | .error code => return code

/-- The program: its exit code. -/
def run (arguments : List String) (around : Surroundings) : Action Empty Nat :=
  runWith .free arguments around

end Application

end DeviceTrial
