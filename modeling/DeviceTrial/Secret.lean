/-
**Reading secrets.**

A secret is looked up once; one that cannot be read is an error that names it. The value of a secret
never goes into the log.
-/

import DeviceTrial.Error.Trial
import DeviceTrial.Program

namespace DeviceTrial

/-- The value of a secret. -/
def resolveSecret (name : String) : Action TrialError String := do
  match ← (Action.call (.getSecret name)).attempt with
  | .ok value =>
    Action.log .debug .secrets "secret resolved" [("secret", name)]
    return value
  | .error fault =>
    Action.log .warn .secrets "secret unavailable"
      [("secret", name), ("error", fault.message)]
    Action.fail (.secretUnavailable name fault.message)

end DeviceTrial
