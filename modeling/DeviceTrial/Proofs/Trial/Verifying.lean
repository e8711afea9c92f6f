/-
**The errands of the verification.**

An expectation is looked at with one question to the control plane; only for a job a secret is read
before. `Inquires` says which errands there are and what each reply leads to, and `Asking` is the script
when every call gives its answer.

* `inquires_of_shows` — **all that can become of looking at an expectation**, as the replies have it;
* `verify_of_shows` — what becomes of the verification is known from this;
* `verifies_of_shows` — the verification passes when its question was answered and the answer is as
  expected; otherwise it fails, or stops with the call that gave no answer.
-/

import DeviceTrial.Verification
import DeviceTrial.Proofs.Identity.Making

namespace DeviceTrial

namespace Verification

/-- The errands of looking at an expectation, and the judgement on what they give. -/
inductive Asking (identity : String) :
    Expectation → List Errand → Except Discrepancy Unit → Prop where
  /-- Asks for the thing. -/
  | thing (known : Thing) :
    Asking identity .thingExists [.call (.describeThing identity) (.ok known)] (.ok ())
  /-- Reads the identifier of the job and asks for its execution. -/
  | job (secret job : String) (execution : Option JobExecution) :
    Asking identity (.jobSucceeded secret) [.call (.getSecret secret) (.ok job),
      .call (.describeJob job identity) (.ok execution)] (judgeJob execution)
  /-- Asks for the shadow. -/
  | shadow (name : Option String) (property expected : String) (payload : ByteArray) :
    Asking identity (.shadowReported name property expected)
      [.call (.fetchShadow identity name) (.ok payload)] (judgeShadow payload property expected)

/-- What a judgement makes of the verification. -/
def fateOf : Except Discrepancy Unit → Fate TrialError Unit
  | .ok () => .done ()
  | .error found => .failed (.verificationFailed found)

/-- What the reply to a question makes of the judgement. -/
def judged {α : Type} (assess : α → Except Discrepancy Unit) :
    Reply α → Fate TrialError (Except Discrepancy Unit)
  | .ok answer => .done (assess answer)
  | .error fault => .done (.error (queryFailure fault))
  | .panic message => .panicked message
  | .hang => .hung

/-- The errands of looking at an expectation, whatever the control plane replies, and what becomes of
it. -/
inductive Inquires (identity : String) :
    Expectation → List Errand → Fate TrialError (Except Discrepancy Unit) → Prop where
  /-- The thing is asked for. -/
  | thing (reply : Reply Thing) :
    Inquires identity .thingExists [.call (.describeThing identity) reply]
      (judged (fun _ => .ok ()) reply)
  /-- The identifier of the job cannot be read, and nothing is asked for. -/
  | unread (secret : String) {reply : Reply String}
      {fate : Fate TrialError (Except Discrepancy Unit)}
      (stops : (reply.fate.mapError fun fault => .secretUnavailable secret fault.message).Stops fate) :
    Inquires identity (.jobSucceeded secret) [.call (.getSecret secret) reply] fate
  /-- The identifier of the job is read, and then the execution of this job is asked for. -/
  | job (secret job : String) (reply : Reply (Option JobExecution)) :
    Inquires identity (.jobSucceeded secret)
      [.call (.getSecret secret) (.ok job), .call (.describeJob job identity) reply]
      (judged judgeJob reply)
  /-- The shadow is asked for. -/
  | shadow (name : Option String) (property expected : String) (reply : Reply ByteArray) :
    Inquires identity (.shadowReported name property expected)
      [.call (.fetchShadow identity name) reply]
      (judged (fun payload => judgeShadow payload property expected) reply)

/-- What becomes of the verification when looking at the expectation came out so. -/
def concluded : Fate TrialError (Except Discrepancy Unit) → Fate TrialError Unit
  | .done judgement => fateOf judgement
  | .failed error => .failed error
  | .panicked message => .panicked message
  | .hung => .hung

/-- The errands and the end of a verification. -/
inductive Verifies (identity : String) (expectation : Expectation) :
    List Errand → Fate TrialError Unit → Prop where
  /-- The question was answered. -/
  | judged {seen : List Errand} {judgement : Except Discrepancy Unit}
      (asking : Asking identity expectation seen judgement) :
    Verifies identity expectation seen (fateOf judgement)
  /-- A call gave no answer. -/
  | broken {seen script : List Errand} {judgement : Except Discrepancy Unit}
      {fate : Fate TrialError Unit} (meant : Asking identity expectation script judgement)
      (breaks : Errand.Breaks seen script) (halts : Halts seen fate) :
    Verifies identity expectation seen fate

variable {β : Type} {identity : String} {expectation : Expectation} {seen : List Errand}

theorem Asking.reading {judgement : Except Discrepancy Unit}
    (asking : Asking identity expectation seen judgement) : ∀ errand ∈ seen, errand.IsReading := by
  cases asking <;> simp [Call.operation, Operation.isReading]

theorem Asking.succeeds {judgement : Except Discrepancy Unit}
    (asking : Asking identity expectation seen judgement) : ∀ errand ∈ seen, errand.Succeeds := by
  cases asking <;> simp

theorem Verifies.halts {fate : Fate TrialError Unit}
    (verifies : Verifies identity expectation seen fate) (unmet : fate ≠ .done ()) :
    Halts seen fate := by
  cases verifies with
  | @judged judgement asking =>
    cases judgement with
    | ok value => exact absurd rfl unmet
    | error found => exact .failed _
  | broken meant breaks halts => exact halts

theorem Verifies.reading {fate : Fate TrialError Unit}
    (verifies : Verifies identity expectation seen fate) : ∀ errand ∈ seen, errand.IsReading := by
  cases verifies with
  | judged asking => exact asking.reading
  | broken meant breaks halts => exact Errand.Follows.reading (.inr breaks) meant.reading

theorem askAndJudge_of_shows {request : Call} {assess : request.Answer → Except Discrepancy Unit}
    {fate : Fate TrialError (Except Discrepancy Unit)}
    (shown : Action.Shows Errand.view (askAndJudge request assess) seen fate) :
    ∃ reply, seen = [.call request reply] ∧ fate = judged assess reply := by
  unfold askAndJudge at shown
  rcases Action.shows_attempt_call_bind shown with
    ⟨answer, rest, rfl, after⟩ | ⟨fault, rest, rfl, after⟩ | ⟨reply, crash, rfl, crashes⟩
  · obtain ⟨rfl, rfl⟩ := (Action.shows_pure_iff _ _ _ _).mp after
    exact ⟨.ok answer, rfl, rfl⟩
  · obtain ⟨rfl, rfl⟩ := (Action.shows_pure_iff _ _ _ _).mp after
    exact ⟨.error fault, rfl, rfl⟩
  · refine ⟨reply, rfl, ?_⟩
    cases crash <;> cases crashes <;> rfl

/-- **All that can become of looking at an expectation.** -/
theorem inquires_of_shows {fate : Fate TrialError (Except Discrepancy Unit)}
    (shown : Action.Shows Errand.view (judge expectation identity) seen fate) :
    Inquires identity expectation seen fate := by
  cases expectation with
  | thingExists =>
    obtain ⟨reply, rfl, rfl⟩ := askAndJudge_of_shows shown
    exact .thing reply
  | jobSucceeded secret =>
    rcases (Action.shows_bind_iff _ _ _ _ _).mp shown with
      ⟨job, first, rest, read, asked, rfl⟩ | ⟨stop, read, stops⟩
    · obtain ⟨reply, rfl, same⟩ := resolveSecret_of_shows read
      obtain ⟨answer, rfl, rfl⟩ := askAndJudge_of_shows asked
      cases reply <;> cases same
      exact .job secret job answer
    · obtain ⟨reply, rfl, rfl⟩ := resolveSecret_of_shows read
      exact .unread secret stops
  | shadowReported name property expected =>
    obtain ⟨reply, rfl, rfl⟩ := askAndJudge_of_shows shown
    exact .shadow name property expected reply

/-- What becomes of a verification is known from what became of looking at the expectation. -/
theorem verify_of_shows {fate : Fate TrialError Unit}
    (shown : Action.Shows Errand.view (verify expectation identity) seen fate) :
    ∃ inner, Inquires identity expectation seen inner ∧ fate = concluded inner := by
  unfold verify at shown
  rcases (Action.shows_bind_iff _ _ _ _ _).mp shown with
    ⟨judgement, first, rest, judged, ends, rfl⟩ | ⟨stop, judged, stops⟩
  · have last : rest = [] ∧ fate = fateOf judgement := by
      cases judgement with
      | ok value => exact (Action.shows_log_iff _ _ _ _ _).mp ends
      | error found =>
        dsimp only at ends
        rw [Action.shows_log_bind_iff, Action.shows_fail_iff] at ends
        exact ends
    obtain ⟨rfl, rfl⟩ := last
    exact ⟨.done judgement, by rw [List.append_nil]; exact inquires_of_shows judged, rfl⟩
  · exact ⟨stop, inquires_of_shows judged, by cases stops <;> rfl⟩

/-- A question that was not answered ends the verification. -/
theorem halts_of_judged {request : Call} {reply : Reply request.Answer} (bad : ¬ reply.IsOk)
    (assess : request.Answer → Except Discrepancy Unit) :
    Halts [.call request reply] (concluded (judged assess reply)) := by
  cases reply with
  | ok answer => exact absurd ⟨answer, rfl⟩ bad
  | error fault => exact .failed _
  | panic message => exact .panicked List.mem_cons_self
  | hang => exact .hung List.mem_cons_self

/-- **A verification passes or fails with its answer, or stops with a call that gave none.** -/
theorem verifies_of_shows {fate : Fate TrialError Unit}
    (shown : Action.Shows Errand.view (verify expectation identity) seen fate) :
    Verifies identity expectation seen fate := by
  obtain ⟨inner, inquires, rfl⟩ := verify_of_shows shown
  cases inquires with
  | thing reply =>
    by_cases good : reply.IsOk
    · obtain ⟨known, rfl⟩ := good
      exact .judged (.thing known)
    · exact .broken (.thing default) (.here rfl good) (halts_of_judged good _)
  | @unread secret reply _ stops =>
    have bad : ¬ reply.IsOk := by
      rintro ⟨job, rfl⟩
      cases stops
    have halts := (Halts.of_reply (.getSecret secret) _ bad).stops stops
    refine .broken (.job secret "" none) (.here rfl bad) ?_
    cases halts with
    | failed error => exact .failed error
    | panicked called => exact .panicked called
    | hung called => exact .hung called
  | job secret job reply =>
    by_cases good : reply.IsOk
    · obtain ⟨execution, rfl⟩ := good
      exact .judged (.job secret job execution)
    · refine .broken (.job secret job none) (.later _ (.here rfl good)) ?_
      exact (halts_of_judged good _).mono fun _ => List.mem_cons_of_mem _
  | shadow name property expected reply =>
    by_cases good : reply.IsOk
    · obtain ⟨payload, rfl⟩ := good
      exact .judged (.shadow name property expected payload)
    · exact .broken (.shadow name property expected .empty) (.here rfl good)
        (halts_of_judged good _)

end Verification

end DeviceTrial
