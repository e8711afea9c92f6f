/-
**What a trial must have brought about.**

An `Expectation` is judged on what the control plane answers. The judgements are pure; asking the
control plane is the work of `DeviceTrial.Verification`.

* `judgeJob_eq_ok_iff` — a job is as expected when its execution has the one good status;
* `lookUp_eq_ok_iff` — a path is found when every key on it is a member of the value before it;
* `judgeShadow_eq_ok_iff` — a shadow is as expected when its property is found and agrees.
-/

import DeviceTrial.Error.Discrepancy
import DeviceTrial.Json.Printer
import DeviceTrial.Plane.Call

namespace DeviceTrial

/-- What a trial must have brought about. -/
inductive Expectation where
  /-- The identity is registered. -/
  | thingExists
  /-- The job whose identifier is kept in a secret succeeded on the identity. -/
  | jobSucceeded (jobSecret : String)
  /-- A property of the shadow that the identity reported has the expected value. -/
  | shadowReported (shadow : Option String) (property expected : String)
deriving DecidableEq, Repr

/-- The short name of an expectation. -/
def Expectation.name : Expectation → String
  | .thingExists => "thing-exists"
  | .jobSucceeded _ => "job-succeeded"
  | .shadowReported _ _ _ => "shadow-reported"

/-! ### Jobs -/

/-- The status of a job that succeeded. -/
def succeeded : String := "SUCCEEDED"

/-- Judges the execution of a job. -/
def judgeJob : Option JobExecution → Except Discrepancy Unit
  | none => .error (.missingField "execution")
  | some ⟨none, _⟩ => .error (.missingField "execution.status")
  | some ⟨some status, _⟩ =>
    if status = succeeded then .ok ()
    else .error (.differs "execution.status" succeeded status)

theorem judgeJob_eq_ok_iff (execution : Option JobExecution) :
    judgeJob execution = .ok () ↔ ∃ number, execution = some ⟨some succeeded, number⟩ := by
  match execution with
  | none => simp [judgeJob]
  | some ⟨none, number⟩ => simp [judgeJob]
  | some ⟨some status, number⟩ =>
    by_cases good : status = succeeded <;> simp [judgeJob, good]

/-! ### Shadows -/

/-- The keys that lead to a property that a device reported. -/
def reportedPath (property : String) : List String := ["state", "reported", property]

/-- Keys joined by points. -/
def dotted (keys : List String) : String := ".".intercalate keys

/-- Follows keys through objects. `passed` are the keys before; the error is the path up to the first
key that is missing. -/
def lookUp (passed : List String) : List String → Json.Value → Except (List String) Json.Value
  | [], value => .ok value
  | key :: keys, value =>
    match value.member? key with
    | some member => lookUp (passed ++ [key]) keys member
    | none => .error (passed ++ [key])

/-- That keys lead from one value to another. -/
inductive Leads : List String → Json.Value → Json.Value → Prop where
  | here (value : Json.Value) : Leads [] value value
  | step {key : String} {keys : List String} {value member last : Json.Value}
      (found : value.member? key = some member) (rest : Leads keys member last) :
      Leads (key :: keys) value last

theorem lookUp_eq_ok_iff (passed keys : List String) (start last : Json.Value) :
    lookUp passed keys start = .ok last ↔ Leads keys start last := by
  induction keys generalizing passed start with
  | nil =>
    constructor
    · intro same
      cases same
      exact .here _
    · intro leads
      cases leads
      rfl
  | cons key keys step =>
    cases found : start.member? key with
    | none =>
      simp only [lookUp, found]
      constructor
      · intro wrong
        cases wrong
      · intro leads
        cases leads with
        | step other rest => rw [found] at other; cases other
    | some member =>
      simp only [lookUp, found, step]
      constructor
      · exact .step found
      · intro leads
        cases leads with
        | step other rest =>
          rw [found] at other
          cases other
          exact rest

/-- Whether a value is as expected: texts are compared themselves, all else by its compact text. -/
def agrees (expected : String) : Json.Value → Bool
  | .text actual => actual == expected
  | other => other.render == expected

/-- Judges a property of a decoded shadow. -/
def judgeDocument (property expected : String) (document : Json.Value) :
    Except Discrepancy Unit :=
  match lookUp [] (reportedPath property) document with
  | .error path => .error (.missingField (dotted path))
  | .ok actual =>
    if agrees expected actual then .ok ()
    else .error (.differs (dotted (reportedPath property)) (Json.quoted expected) actual.render)

/-- The text in front of the reason why a shadow cannot be understood. -/
def undecodable : String := "undecodable shadow document: "

/-- The JSON value of bytes. -/
def decodeDocument? (payload : ByteArray) : Option Json.Value :=
  (String.fromUTF8? payload).bind Json.Value.read?

/-- Judges a shadow. -/
def judgeShadow (payload : ByteArray) (property expected : String) : Except Discrepancy Unit :=
  match decodeDocument? payload with
  | none => .error (.queryFailed (undecodable ++ "not a JSON value"))
  | some document => judgeDocument property expected document

theorem judgeDocument_eq_ok_iff (property expected : String) (document : Json.Value) :
    judgeDocument property expected document = .ok () ↔
      ∃ actual, Leads (reportedPath property) document actual ∧ agrees expected actual = true := by
  simp only [← lookUp_eq_ok_iff []]
  unfold judgeDocument
  cases found : lookUp [] (reportedPath property) document with
  | error path => simp
  | ok actual => by_cases good : agrees expected actual = true <;> simp [good]

/-- A shadow is as expected when it can be understood and its property is. -/
theorem judgeShadow_eq_ok_iff (payload : ByteArray) (property expected : String) :
    judgeShadow payload property expected = .ok () ↔
      ∃ document actual, decodeDocument? payload = some document ∧
        Leads (reportedPath property) document actual ∧ agrees expected actual = true := by
  unfold judgeShadow
  cases known : decodeDocument? payload with
  | none => simp
  | some document => simp [judgeDocument_eq_ok_iff]

end DeviceTrial
