/-
**The program on the command line.**

The only module that acts: it answers the effects of the program with the files, the environment and
the console of the machine. No control plane can be reached and no process started from here, and
that is what the program is told.
-/

import DeviceTrial.Application
import DeviceTrial.CommandLine.Usage

namespace DeviceTrial.Console

/-- What is kept while the program runs. -/
structure Session where
  /-- The format of the log, once logging has begun. -/
  format : Option LogFormat
  /-- The metrics that were recorded. -/
  samples : IO.Ref (List Sample)

/-- Why nothing outside the machine answers. -/
def offline : String := "no connection"

/-- The fault that an error of the system is. -/
def faultOf : IO.Error → FileFault
  | .noFileOrDirectory _ _ _ => .notFound
  | other => .other (toString other)

/-- Tries an operation on files. -/
def tryFile {α : Type} (operation : IO α) : IO (Except FileFault α) := do
  try
    return .ok (← operation)
  catch fault =>
    return .error (faultOf fault)

/-- The permissions of a file that belongs to its owner alone. -/
def ownerOnly : IO.FileRight := { user := { read := true, write := true } }

/-- Works on files. -/
def answerFile : (request : FileRequest) → IO request.Answer
  | .read path => tryFile (IO.FS.readFile path.text)
  | .write path content => tryFile (IO.FS.writeFile path.text content)
  | .makeDirectories path => tryFile (IO.FS.createDirAll path.text)
  | .restrict path => tryFile (IO.setAccessRights path.text ownerOnly)
  | .remove path => tryFile (IO.FS.removeFile path.text)
  | .rename source target => tryFile (IO.FS.rename source.text target.text)

/-- Draws a random tag. -/
def drawTag : IO RunTag := do
  let bytes ← IO.getRandomBytes 16
  return RunTag.random fun i => (bytes.data.getD i 0).toNat

/-- Prints a line. -/
def printOn : Channel → String → IO Unit
  | .out, line => IO.println line
  | .err, line => IO.eprintln line

/-- Answers an effect. -/
def answer (session : Session) : (effect : Effect) → IO effect.Answer
  | .call request => return Reply.error (.refused request.operation.name offline)
  | .connect _ => return Reply.error (.refused "DescribeEndpoint" offline)
  | .file request => answerFile request
  | .launch _ => return Except.error offline
  | .log event => do
    if let some format := session.format then
      printOn .err (event.line format)
  | .record sample => session.samples.modify (· ++ [sample])
  | .recorded => session.samples.get
  | .print channel line => printOn channel line
  | .drawTag => drawTag

/-- Runs a program. -/
def interpret {α : Type} (session : Session) : Program α → IO α
  | .done value => return value
  | .perform effect next => do
    let given ← answer session effect
    interpret session (next given)

/-- The exit code of a program that broke down. -/
def breakdownCode : Nat := 101

/-- Runs an action that cannot fail, and goes on with its value. -/
def runThen {α : Type} (session : Session) (action : Action Empty α) (next : α → IO Nat) :
    IO Nat := do
  match ← interpret session action.program with
  | .done value => next value
  | .failed fault => nomatch fault
  | .panicked message =>
    IO.eprintln message
    return breakdownCode
  | .hung => return breakdownCode

/-- The variables of the environment that matter. -/
def environment : IO Variables := do
  let names := Logging.filterVariable :: Field.all.map Field.variableName
  names.filterMapM fun name => do return (← IO.getEnv name).map fun value => (name, value)

/-- Says what is to be said when there is no scenario to run. -/
def explain (arguments : List String) : IO Unit := do
  match CommandLine.select arguments with
  | .ok _ => return ()
  | .error halt =>
    for line in halt.lines do
      printOn (if halt.exitCode = 0 then .out else .err) line

/-- What the program finds around it. -/
def surroundings : IO Surroundings := do
  return ⟨← environment, ⟨(← IO.currentDir).toString⟩⟩

/-- Runs the program and finds its exit code. -/
def run (arguments : List String) : IO Nat := do
  let around ← surroundings
  let samples ← IO.mkRef []
  explain arguments
  runThen ⟨none, samples⟩ (Application.start arguments around) fun
    | .error code => return code
    | .ok prepared =>
      let format := (Logging.prepare prepared.settings around.environment).toOption.map Logging.format
      runThen ⟨format, samples⟩ (Application.finish .free around prepared) fun code => return code

end DeviceTrial.Console

/-- Runs the program. -/
def main (arguments : List String) : IO UInt32 := do
  return (← DeviceTrial.Console.run arguments).toUInt32
