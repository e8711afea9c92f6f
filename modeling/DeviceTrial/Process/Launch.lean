/-
**Starting a process and how it ends.**

A `Launch` is everything that a process is started with. What comes back is its `Finish`: the bytes
of both output channels, the order in which their lines came in, and how it ended.
-/

import DeviceTrial.Path

namespace DeviceTrial

/-- Everything that a process is started with. -/
structure Launch where
  /-- The program, looked up when it is no path. -/
  program : String
  /-- The arguments. -/
  arguments : List String
  /-- The variables that are added to the environment; of one name the last value counts. -/
  environment : List (String × String)
  /-- The directory to start in, if not the current one. -/
  directory : Option Path
  /-- The time that the process has, in milliseconds. -/
  budget : Nat
deriving DecidableEq

/-- The time that the process has, in whole seconds. -/
def Launch.budgetSeconds (launch : Launch) : Nat := launch.budget / 1000

/-- The value that the started process finds under a name among the added variables. -/
def Launch.valueOf? (launch : Launch) (name : String) : Option String :=
  (launch.environment.reverse.find? fun entry => entry.1 == name).map Prod.snd

/-- An output channel of a process. -/
inductive Channel where
  /-- Standard output. -/
  | out
  /-- Standard error. -/
  | err
deriving DecidableEq, Repr

/-- The name of an output channel. -/
def Channel.name : Channel → String
  | .out => "stdout"
  | .err => "stderr"

/-- How a process ended. -/
inductive Ending where
  /-- It ended with a code. -/
  | exited (code : Int)
  /-- A signal ended it. -/
  | signalled
  /-- Its time ran out and it was killed. -/
  | expired
  /-- The system could not tell. -/
  | lost (reason : String)
deriving DecidableEq, Repr

-- outputs are compared as core compares bytes
local instance payloadEq : DecidableEq ByteArray := ByteArray.instDecidableEq

/-- What is known of a process that was started. -/
structure Finish where
  /-- The bytes on standard output. -/
  out : ByteArray
  /-- The bytes on standard error. -/
  err : ByteArray
  /-- The order in which the lines of the channels came in; what it leaves out comes last. -/
  order : List Channel
  /-- How the process ended. -/
  ending : Ending
deriving DecidableEq

end DeviceTrial
