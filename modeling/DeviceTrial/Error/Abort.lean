/-
**Why the program ends without a verdict.**

Failed phases are no errors of the program: they make a verdict. These are the ways in which it does
not come to one, with the exit code of each.

* `exitCode_eq_two_iff` — the code 2 is that of wrong settings and of nothing else.
-/

import DeviceTrial.Error.Trial

namespace DeviceTrial

/-- Why the program ends without a verdict. -/
inductive Abort where
  /-- The settings or the selection of the scenario are wrong. -/
  | settings (reason : String)
  /-- Logging or metrics could not be set up. -/
  | setup (reason : String)
  /-- The control plane could not be reached before anything was made. -/
  | unreachable (reason : String)
  /-- The system refused an operation. -/
  | system (reason : String)
deriving DecidableEq, Repr

/-- The text of an abort. -/
def Abort.message : Abort → String
  | .settings reason => s!"configuration error: {reason}"
  | .setup reason => s!"initialization error: {reason}"
  | .unreachable reason => s!"control plane unavailable: {reason}"
  | .system reason => s!"io error: {reason}"

/-- The exit code of the program: 2 for wrong settings and 1 for all else. -/
def Abort.exitCode : Abort → Nat
  | .settings _ => 2
  | .setup _ | .unreachable _ | .system _ => 1

/-- An error met before the trial starts; those of the system stay what they are. -/
def Abort.ofTrialError : TrialError → Abort
  | .system reason => .system reason
  | other => .settings other.message

theorem Abort.exitCode_eq_two_iff (abort : Abort) :
    abort.exitCode = 2 ↔ ∃ reason, abort = .settings reason := by
  cases abort <;> simp [exitCode]

end DeviceTrial
