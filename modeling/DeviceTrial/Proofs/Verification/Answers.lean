/-
**What a verification makes of the answers.**

A verification only looks. It asks one question, for a job after it has read which job is meant, and the
reply to this question decides: data that is missing, data that differs, a resource that does not exist
and a question that failed are told apart.

* `Reports` — what a verification makes of the reply to its question;
* `Cloud.refused_of_isFault` — a request that failed is a refusal, and never data that is missing;
* `verify_reports` — **what becomes of every verification**, and what the cloud service has to do with
  it.
-/

import DeviceTrial.Proofs.Cloud.Exchange
import DeviceTrial.Proofs.Trial.Verifying

namespace DeviceTrial

/-! ### Looking at the cloud service -/

namespace Cloud

/-- A request that failed for another reason than that something does not exist is a refusal. -/
theorem outputOf_of_isFault {response : Response} (fault : response.IsFault) (operation : String)
    (resource : Option String) :
    outputOf operation resource response = .error (refusal operation response) := by
  obtain ⟨bad, other⟩ := fault
  unfold outputOf
  split
  · rename_i output
    exact absurd ⟨output, rfl⟩ bad
  · cases resource with
    | none => rfl
    | some name =>
      dsimp only
      rw [other]
      exact if_neg Bool.false_ne_true

theorem replyWith_of_isFault {α : Type} (read : Output → Except PlaneError α) {request : Request}
    {script : Script} (fault : (script.serve request).1.IsFault) (resource : Option String) :
    (replyWith read (send request resource script)).1 =
      .error (refusal request.operation (script.serve request).1) := by
  rw [send, outputOf_of_isFault fault]
  rfl

/-- **A call that only looks is refused when its request failed** for another reason than that something
does not exist. -/
theorem refused_of_isFault {call : Call} (reads : call.operation.isReading = true) {script : Script}
    (fault : (script.serve (requestOf call)).1.IsFault) :
    (answer call script).1 =
      .error (refusal (requestOf call).operation (script.serve (requestOf call)).1) := by
  cases call with
  | getSecret name => exact replyWith_of_isFault _ fault _
  | describeThing thing => exact replyWith_of_isFault _ fault _
  | fetchShadow thing shadow => exact replyWith_of_isFault _ fault _
  | describeJob job thing =>
    show (describeJob job thing script).1 = _
    obtain ⟨bad, other⟩ := fault
    rw [requestOf] at bad other ⊢
    unfold describeJob
    dsimp only
    split
    · rename_i output same
      exact absurd ⟨output, same⟩ bad
    · exact congrArg Prod.fst (if_neg (Bool.eq_false_iff.mp other))
  | _ => cases reads

/-- A job execution that the service does not know is no execution. -/
theorem describeJob_of_missing {job thing : String} {script : Script}
    (missing : (script.serve (.describeJobExecution job thing)).1.isResourceNotFound = true) :
    (answer (.describeJob job thing) script).1 = .ok none := by
  show (describeJob job thing script).1 = _
  unfold describeJob
  dsimp only
  split
  · rename_i output same
    rw [same] at missing
    cases missing
  · exact congrArg Prod.fst (if_pos missing)

/-- Every exchange of a run that only looks is that of one of its calls. -/
theorem exists_reading_of_exchange {launch : Launch → FileSystem → Except String Finish × FileSystem}
    {tag : Nat → RunTag} {ε α : Type} {action : Action ε α} {world : World Script}
    (reading : ∀ errand ∈ Errand.view.seen (action.historyIn (overCloud launch tag) world),
      ∃ operation, errand.operation? = some operation ∧ operation.isReading = true)
    {exchange : Exchange}
    (inside : exchange ∈ exchangesOf (action.historyIn (overCloud launch tag) world)) :
    ∃ (call : Call) (script : Script), call.operation.isReading = true ∧
      exchange = ⟨requestOf call, (script.serve (requestOf call)).1⟩ ∧
      .call call (answer call script).1 ∈
        Errand.view.seen (action.historyIn (overCloud launch tag) world) := by
  obtain ⟨call, script, seen, made⟩ :=
    exists_call_of_exchange (fun errand seen => (reading errand seen).imp fun _ => And.left) inside
  obtain ⟨operation, same, reads⟩ := reading _ seen
  cases same
  have single : call.operation ≠ .listPrincipals := by
    intro list
    rw [list] at reads
    cases reads
  rw [exchanges_of_single single] at made
  exact ⟨call, script, reads, List.mem_singleton.mp made, seen⟩

end Cloud

namespace Verification

/-! ### Replies -/

/-- What a verification makes of the reply to its question. -/
structure Reports {α : Type} (good lacking : α → Prop) (reply : Reply α)
    (outcome : Fate TrialError Unit) : Prop where
  /-- It passes with a good answer, and only then. -/
  passed : outcome = .done () ↔ ∃ answer, reply = .ok answer ∧ good answer
  /-- An answer that lacks something is a field that is missing. -/
  lacks : ∀ answer, reply = .ok answer → lacking answer →
    ∃ path, outcome = .failed (.verificationFailed (.missingField path))
  /-- What does not exist is a resource that is missing. -/
  missing : ∀ resource, reply = .error (.notFound resource) →
    outcome = .failed (.verificationFailed (.resourceMissing resource))
  /-- Every other fault is a question that failed. -/
  unknown : ∀ fault, reply = .error fault → fault.isNotFound = false →
    outcome = .failed (.verificationFailed (.queryFailed fault.message))

/-- A question reports what it makes of its answer. -/
theorem reports_judged {α : Type} {assess : α → Except Discrepancy Unit} {good lacking : α → Prop}
    (passes : ∀ answer, assess answer = .ok () ↔ good answer)
    (misses : ∀ answer, lacking answer → ∃ path, assess answer = .error (.missingField path))
    (reply : Reply α) : Reports good lacking reply (concluded (judged assess reply)) where
  passed := by
    cases reply with
    | ok answer =>
      have done : concluded (judged assess (.ok answer)) = .done () ↔ assess answer = .ok () := by
        cases same : assess answer with
        | ok value => exact iff_of_true (by rw [judged, same]; rfl) rfl
        | error found =>
          refine iff_of_false ?_ nofun
          rw [judged, same]
          nofun
      rw [done, passes]
      exact ⟨fun accepted => ⟨answer, rfl, accepted⟩, by rintro ⟨_, ⟨⟩, accepted⟩; exact accepted⟩
    | error | panic | hang => exact iff_of_false nofun (by rintro ⟨_, ⟨⟩, -⟩)
  lacks := by
    rintro answer rfl lacking
    obtain ⟨path, same⟩ := misses answer lacking
    exact ⟨path, by rw [judged, same]; rfl⟩
  missing := by
    rintro resource rfl
    rfl
  unknown := by
    rintro fault rfl other
    cases fault with
    | notFound resource => cases other
    | refused | incomplete => rfl

/-! ### Verifications -/

variable {identity : String} {expectation : Expectation} {seen : List Errand}
  {fate : Fate TrialError (Except Discrepancy Unit)}

/-- Nothing but reading calls is made. -/
theorem Inquires.reading (inquires : Inquires identity expectation seen fate) :
    ∀ errand ∈ seen, ∃ operation, errand.operation? = some operation ∧
      operation.isReading = true := by
  cases inquires <;> simp [Errand.operation?, Call.operation, Operation.isReading]

/-- A call that was refused is the secret that cannot be read, or the question that failed. -/
theorem Inquires.of_refused (inquires : Inquires identity expectation seen fate) {call : Call}
    {operation reason : String} (refused : .call call (.error (.refused operation reason)) ∈ seen) :
    (∃ secret reason, concluded fate = .failed (.secretUnavailable secret reason)) ∨
      ∃ reason, concluded fate = .failed (.verificationFailed (.queryFailed reason)) := by
  cases inquires with
  | thing reply =>
    cases List.mem_singleton.mp refused
    exact .inr ⟨_, rfl⟩
  | unread secret stops =>
    cases List.mem_singleton.mp refused
    cases stops
    exact .inl ⟨secret, _, rfl⟩
  | job secret job reply =>
    rcases List.mem_cons.mp refused with wrong | asked
    · cases wrong
    · cases List.mem_singleton.mp asked
      exact .inr ⟨_, rfl⟩
  | shadow name property expected reply =>
    cases List.mem_singleton.mp refused
    exact .inr ⟨_, rfl⟩

/-- A job without an execution lacks it. -/
theorem Inquires.of_unexecuted (inquires : Inquires identity expectation seen fate)
    {job thing : String} (asked : .call (.describeJob job thing) (.ok none) ∈ seen) :
    concluded fate = .failed (.verificationFailed (.missingField "execution")) := by
  cases inquires with
  | thing reply => cases List.mem_singleton.mp asked
  | unread secret stops => cases List.mem_singleton.mp asked
  | job secret job reply =>
    rcases List.mem_cons.mp asked with wrong | asked
    · cases wrong
    · cases List.mem_singleton.mp asked
      rfl
  | shadow name property expected reply => cases List.mem_singleton.mp asked

/-- Every run of a verification asks its question, and its outcome is what the question says. -/
theorem exists_inquires (expectation : Expectation) (identity : String) {σ : Type} (host : Host σ)
    (world : World σ) : ∃ fate,
      Inquires identity expectation
        (Errand.view.seen ((verify expectation identity).historyIn host world)) fate ∧
      ((verify expectation identity).runIn host world).1 = concluded fate :=
  verify_of_shows ((verify expectation identity).shows_historyIn Errand.view host world)

/-! ### Over the cloud service -/

section OverCloud

variable {launch : Launch → FileSystem → Except String Finish × FileSystem} {tag : Nat → RunTag}
  {world : World Cloud.Script} {exchange : Cloud.Exchange}

/-- A request that failed is reported as such. -/
theorem reported_of_isFault
    (inside : exchange ∈ Cloud.exchangesOf
      ((verify expectation identity).historyIn (Cloud.overCloud launch tag) world))
    (fault : exchange.response.IsFault) :
    let outcome := ((verify expectation identity).runIn (Cloud.overCloud launch tag) world).1
    (∃ secret reason, outcome = .failed (.secretUnavailable secret reason)) ∨
      ∃ reason, outcome = .failed (.verificationFailed (.queryFailed reason)) := by
  obtain ⟨fate, inquires, outcome⟩ :=
    exists_inquires expectation identity (Cloud.overCloud launch tag) world
  obtain ⟨call, script, reads, rfl, seen⟩ := Cloud.exists_reading_of_exchange inquires.reading inside
  rw [Cloud.refused_of_isFault reads fault] at seen
  rw [outcome]
  exact inquires.of_refused seen

/-- A job execution that the service does not know is one that is missing. -/
theorem reported_of_unknown {job : String}
    (inside : exchange ∈ Cloud.exchangesOf
      ((verify expectation identity).historyIn (Cloud.overCloud launch tag) world))
    (asked : exchange.request = .describeJobExecution job identity)
    (unknown : exchange.response.isResourceNotFound = true) :
    ((verify expectation identity).runIn (Cloud.overCloud launch tag) world).1 =
      .failed (.verificationFailed (.missingField "execution")) := by
  obtain ⟨fate, inquires, outcome⟩ :=
    exists_inquires expectation identity (Cloud.overCloud launch tag) world
  obtain ⟨call, script, reads, rfl, seen⟩ := Cloud.exists_reading_of_exchange inquires.reading inside
  rw [outcome]
  cases call with
  | describeJob job thing =>
    rw [Cloud.describeJob_of_missing unknown] at seen
    exact inquires.of_unexecuted seen
  | _ => cases asked

end OverCloud

/-- **What becomes of every verification.** It only looks, at what was asked for, and reports what the
reply says. Over the cloud service, a job execution that the service does not know is none, and a request
that failed for any other reason is reported as such. -/
theorem verify_reports (expectation : Expectation) (identity : String) :
    (∀ {σ : Type} (host : Host σ) (world : World σ),
      let outcome := ((verify expectation identity).runIn host world).1
      let errands := Errand.view.seen ((verify expectation identity).historyIn host world)
      (∀ errand ∈ errands, errand.IsReading) ∧
      match expectation with
      | .thingExists => ∃ reply : Reply Thing, errands = [.call (.describeThing identity) reply] ∧
          Reports (fun _ => True) (fun _ => False) reply outcome
      | .jobSucceeded secret =>
          (∃ reply : Reply String, ¬ reply.IsOk ∧ errands = [.call (.getSecret secret) reply] ∧
            outcome ≠ .done () ∧ ∀ fault, reply = .error fault →
              outcome = .failed (.secretUnavailable secret fault.message)) ∨
          ∃ (job : String) (reply : Reply (Option JobExecution)),
            errands = [.call (.getSecret secret) (.ok job), .call (.describeJob job identity) reply] ∧
            Reports (fun execution => ∃ number, execution = some ⟨some "SUCCEEDED", number⟩)
              (fun execution => execution = none ∨ ∃ number, execution = some ⟨none, number⟩)
              reply outcome
      | .shadowReported name property expected => ∃ reply : Reply ByteArray,
          errands = [.call (.fetchShadow identity name) reply] ∧
          Reports (fun payload => judgeShadow payload property expected = .ok ())
            (fun payload => ∃ path,
              judgeShadow payload property expected = .error (.missingField path))
            reply outcome) ∧
    (∀ (script : Cloud.Script) (job thing : String),
      (script.serve (.describeJobExecution job thing)).1.isResourceNotFound = true →
        (Cloud.answer (.describeJob job thing) script).1 = .ok none) ∧
    (∀ (script : Cloud.Script) (call : Call), call.operation.isReading = true →
      (script.serve (Cloud.requestOf call)).1.IsFault →
        ∃ operation reason, (Cloud.answer call script).1 = .error (.refused operation reason)) ∧
    ∀ (launch : Launch → FileSystem → Except String Finish × FileSystem) (tag : Nat → RunTag)
      (world : World Cloud.Script),
      let outcome := ((verify expectation identity).runIn (Cloud.overCloud launch tag) world).1
      let made := Cloud.exchangesOf
        ((verify expectation identity).historyIn (Cloud.overCloud launch tag) world)
      (∀ exchange ∈ made, exchange.response.IsFault →
        (∃ secret reason, outcome = .failed (.secretUnavailable secret reason)) ∨
          ∃ reason, outcome = .failed (.verificationFailed (.queryFailed reason))) ∧
      ∀ exchange ∈ made, (∃ job, exchange.request = .describeJobExecution job identity) →
        exchange.response.isResourceNotFound = true →
          outcome = .failed (.verificationFailed (.missingField "execution")) := by
  refine ⟨fun host world => ?_, fun _ _ _ => Cloud.describeJob_of_missing,
    fun _ _ reads fault => ⟨_, _, Cloud.refused_of_isFault reads fault⟩, fun launch tag world =>
      ⟨fun _ inside fault => reported_of_isFault inside fault, ?_⟩⟩
  · obtain ⟨fate, inquires, outcome⟩ := exists_inquires expectation identity host world
    generalize Errand.view.seen ((verify expectation identity).historyIn host world) = errands
      at inquires
    dsimp only
    rw [outcome]
    refine ⟨fun errand inside operation called => ?_, ?_⟩
    · obtain ⟨_, same, reads⟩ := inquires.reading errand inside
      cases called.symm.trans same
      exact reads
    · cases inquires with
      | thing reply =>
        exact ⟨reply, rfl, reports_judged (fun _ => iff_of_true rfl trivial) (fun _ => nofun) reply⟩
      | @unread secret reply _ stops =>
        refine .inl ⟨reply, ?_, rfl, ?_, ?_⟩
        · rintro ⟨job, rfl⟩
          cases stops
        · cases reply <;> cases stops <;> nofun
        · rintro fault rfl
          cases stops
          rfl
      | job secret job reply =>
        refine .inr ⟨job, reply, rfl, reports_judged judgeJob_eq_ok_iff ?_ reply⟩
        rintro execution (rfl | ⟨number, rfl⟩)
        · exact ⟨_, rfl⟩
        · exact ⟨_, rfl⟩
      | shadow name property expected reply =>
        exact ⟨reply, rfl, reports_judged (fun _ => Iff.rfl) (fun _ lacking => lacking) reply⟩
  · rintro exchange inside ⟨job, asked⟩ unknown
    exact reported_of_unknown inside asked unknown

end Verification

end DeviceTrial
