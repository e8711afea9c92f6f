/-
**Looking at what a trial has done.**

The control plane is asked once, and what it answers is judged. Nothing is asked again: the process
under test has said that it is done.

* `queryFailure` — how a fault of the question is reported.
-/

import DeviceTrial.Expectation
import DeviceTrial.Secret

namespace DeviceTrial

namespace Verification

/-- The discrepancy that a failed question is: a missing resource is one, all else is not known. -/
def queryFailure : PlaneError → Discrepancy
  | .notFound resource => .resourceMissing resource
  | other => .queryFailed other.message

/-- Asks the control plane and judges the answer. -/
def askAndJudge (call : Call) (judge : call.Answer → Except Discrepancy Unit) :
    Action TrialError (Except Discrepancy Unit) := do
  match ← (Action.call call).attempt with
  | .ok answer => return judge answer
  | .error fault => return .error (queryFailure fault)

/-- The judgement on an expectation of an identity. -/
def judge (expectation : Expectation) (identity : String) :
    Action TrialError (Except Discrepancy Unit) :=
  match expectation with
  | .thingExists => askAndJudge (.describeThing identity) fun _ => .ok ()
  | .jobSucceeded jobSecret => do
    let job ← resolveSecret jobSecret
    askAndJudge (.describeJob job identity) judgeJob
  | .shadowReported shadow property expected =>
    askAndJudge (.fetchShadow identity shadow) fun payload =>
      judgeShadow payload property expected

/-- Fails unless an expectation of an identity is met. -/
def verify (expectation : Expectation) (identity : String) : Action TrialError Unit := do
  match ← judge expectation identity with
  | .ok () =>
    Action.log .info .verification "verification passed"
      [("identity", identity), ("expectation", expectation.name)]
  | .error found =>
    Action.log .warn .verification "verification failed"
      [("identity", identity), ("expectation", expectation.name), ("reason", found.label),
       ("error", found.message)]
    Action.fail (.verificationFailed found)

end Verification

end DeviceTrial
