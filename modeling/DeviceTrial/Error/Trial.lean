/-
**Every way in which a trial can fail.**

Each phase of a trial ends well or with one of these errors, and the text of the error is the reason
that the report gives.
-/

import DeviceTrial.Error.Setting
import DeviceTrial.Error.Discrepancy

namespace DeviceTrial

/-- Why a trial, or a part of it, failed. -/
inductive TrialError where
  /-- The settings are wrong. -/
  | settings (cause : SettingError)
  /-- A named secret could not be read. -/
  | secretUnavailable (name reason : String)
  /-- A step of making the identity failed. -/
  | provisioningFailed (identity reason : String)
  /-- The scenario descriptor is missing or malformed. -/
  | descriptor (path reason : String)
  /-- The driven process could not be started. -/
  | launchFailed (reason : String)
  /-- The driven process ran out of its time and was killed. -/
  | driveTimedOut (seconds : Nat)
  /-- The driven process ended with another code than zero, or with none at all. -/
  | driveFailed (code : Option Int)
  /-- The control plane does not show what the trial should have done. -/
  | verificationFailed (cause : Discrepancy)
  /-- Taking the identity away failed. -/
  | cleanupFailed (identity reason : String)
  /-- The system refused an operation. -/
  | system (reason : String)
deriving DecidableEq, Repr

/-- The words for the end of a process that failed. -/
def exitText : Option Int → String
  | some code => s!"code {code}"
  | none => "no exit code (terminated by signal)"

/-- The text of an error. -/
def TrialError.message : TrialError → String
  | .settings cause => s!"config error: {cause.message}"
  | .secretUnavailable name reason => s!"secret '{name}' unavailable: {reason}"
  | .provisioningFailed identity reason => s!"provisioning of '{identity}' failed: {reason}"
  | .descriptor path reason => s!"scenario descriptor {path}: {reason}"
  | .launchFailed reason => s!"failed to launch driven process: {reason}"
  | .driveTimedOut seconds => s!"driven process timed out after {seconds}s"
  | .driveFailed code => s!"driven process exited with {exitText code}"
  | .verificationFailed cause => s!"verification failed: {cause.message}"
  | .cleanupFailed identity reason => s!"cleanup of '{identity}' failed: {reason}"
  | .system reason => s!"io error: {reason}"

end DeviceTrial
