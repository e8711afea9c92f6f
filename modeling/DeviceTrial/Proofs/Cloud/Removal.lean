/-
**Taking an identity away over the cloud service.**

The answer of a removal is known from the replies to its calls, and these from the responses of the
service. So the removal never reports a success that the service has not confirmed:

* `exists_exchange_iff` — what is true of the calls of a removal is true of its exchanges;
* `dismantle_over_cloud` — **a removal fails exactly when a request ended in another error than that
  something does not exist**, and otherwise says what the last page or the deletion said.
-/

import DeviceTrial.Proofs.Cloud.Exchange
import DeviceTrial.Proofs.Identity.Answering

namespace DeviceTrial.Cloud

namespace Exchange

/-- That a thing was deleted. -/
def IsDeletion (thing : String) (exchange : Exchange) : Prop :=
  ∃ output, exchange = ⟨.deleteThing thing, .success output⟩

/-- That a page of a list or the deletion of the thing was answered by what is missing. -/
def IsMissing (thing : String) (exchange : Exchange) : Prop :=
  exchange.response.isResourceNotFound = true ∧
    ((∃ token, exchange.request = .listThingPrincipals thing token) ∨
      exchange.request = .deleteThing thing)

end Exchange

/-! ### Calls -/

variable {call : Call} {identity : String}

/-- The reply of a list. -/
def listReply : Option (Except PlaneError (List String)) → Reply (List String)
  | some (.ok principals) => .ok principals
  | some (.error fault) => .error fault
  | none => .hang

theorem answer_list (thing : String) (script : Script) :
    (answer (.listPrincipals thing) script).1 =
      listReply (listPages thing (pageBound script) none script).1 := by
  show (listPrincipals thing script).1 = _
  unfold listPrincipals
  rcases listPages thing (pageBound script) none script with ⟨_ | _ | _, after⟩ <;> rfl

theorem listReply_error_iff {result : Option (Except PlaneError (List String))}
    {fault : PlaneError} : listReply result = .error fault ↔ result = some (.error fault) := by
  rcases result with _ | _ | _ <;> simp [listReply]

theorem listReply_ok_iff {result : Option (Except PlaneError (List String))}
    {principals : List String} :
    listReply result = .ok principals ↔ result = some (.ok principals) := by
  rcases result with _ | _ | _ <;> simp [listReply]

/-- A call that takes something away fails when one of its requests does. -/
theorem fault_iff (takes : call.operation.isTeardown = true) (script : Script) :
    (∃ exchange ∈ exchanges call script, exchange.response.IsFault) ↔
      (Errand.call call (answer call script).1).IsFault := by
  rw [Errand.isFault_call_iff]
  by_cases single : call.operation = .listPrincipals
  · cases call with
    | listPrincipals thing =>
      rw [answer_list, exchanges, (lists_pages thing _ none script).1.fault_iff]
      simp only [listReply_error_iff]
    | _ => cases single
  · rw [exchanges_of_single single, ← (settles_answer takes single script).fault_iff]
    simp

/-- A call that takes something away does not break down, and only a list never comes back. -/
theorem crash_of_answer (takes : call.operation.isTeardown = true) {script : Script}
    (crash : (answer call script).1.IsCrash) : call.operation = .listPrincipals ∧
      Errand.call call (answer call script).1 = .call call .hang := by
  by_cases single : call.operation = .listPrincipals
  · refine ⟨single, ?_⟩
    cases call with
    | listPrincipals thing =>
      rw [answer_list] at crash ⊢
      generalize (listPages thing (pageBound script) none script).1 = result at crash ⊢
      rcases result with _ | fault | principals
      · rfl
      · nomatch (show (Reply.error fault : Reply (List String)).IsCrash from crash)
      · nomatch (show (Reply.ok principals : Reply (List String)).IsCrash from crash)
    | _ => cases single
  · have settles := settles_answer takes single script
    generalize (answer call script).1 = reply at settles crash
    cases settles with
    | done value good => cases crash
    | refused bad same => cases crash

/-- A page is asked for by a list alone. -/
theorem call_of_page {exchange : Exchange} {thing : String} {token : Option String}
    {script : Script} (inside : exchange ∈ exchanges call script)
    (asked : exchange.request = .listThingPrincipals thing token) : call = .listPrincipals thing := by
  cases call with
  | listPrincipals other =>
    obtain ⟨_, same⟩ := (lists_pages other _ none script).1.request exchange inside
    cases same.symm.trans asked
    rfl
  | _ =>
    cases List.mem_singleton.mp inside
    cases asked

/-- The deletion of a thing is asked for by that call alone. -/
theorem call_of_deletion {exchange : Exchange} {thing : String} {script : Script}
    (inside : exchange ∈ exchanges call script) (asked : exchange.request = .deleteThing thing) :
    call = .deleteThing thing := by
  cases call with
  | listPrincipals other =>
    obtain ⟨_, same⟩ := (lists_pages other _ none script).1.request exchange inside
    cases same.symm.trans asked
  | _ =>
    cases List.mem_singleton.mp inside
    cases asked <;> rfl

theorem reply_eq_of_call_eq {request other : Call} {reply : Reply request.Answer}
    {expected : Reply other.Answer} (same : Errand.call request reply = .call other expected) :
    request = other ∧ HEq reply expected := by
  cases same
  exact ⟨rfl, HEq.rfl⟩

/-- What a list says to be missing. -/
theorem list_missing_iff (thing : String) (script : Script) :
    (∃ exchange ∈ exchanges (.listPrincipals thing) script,
      exchange.response.isResourceNotFound = true) ↔
    ∃ fault, (answer (.listPrincipals thing) script).1 = .error fault ∧ fault.isNotFound = true := by
  rw [answer_list, exchanges, (lists_pages thing _ none script).1.missing_iff]
  simp only [listReply_error_iff]

/-- What the deletion of a thing says. -/
theorem settles_deletion (thing : String) (script : Script) :
    Settles (script.serve (.deleteThing thing)).1 (answer (.deleteThing thing) script).1 :=
  settles_send _ _ script

/-- What a call says to be missing. -/
theorem missing_iff (call : Call) (script : Script) :
    (∃ exchange ∈ exchanges call script, exchange.IsMissing identity) ↔
      ∃ fault, fault.isNotFound = true ∧
        (Errand.call call (answer call script).1 =
            .call (.listPrincipals identity) (.error fault) ∨
          Errand.call call (answer call script).1 =
            .call (.deleteThing identity) (.error fault)) := by
  constructor
  · rintro ⟨exchange, inside, missing, ⟨token, asked⟩ | asked⟩
    · obtain rfl := call_of_page inside asked
      obtain ⟨fault, same, notFound⟩ := (list_missing_iff identity script).mp
        ⟨exchange, inside, missing⟩
      exact ⟨fault, notFound, .inl (congrArg _ same)⟩
    · obtain rfl := call_of_deletion inside asked
      cases List.mem_singleton.mp inside
      obtain ⟨fault, same, notFound⟩ := (settles_deletion identity script).missing_iff.mp missing
      exact ⟨fault, notFound, .inr (congrArg _ same)⟩
  · rintro ⟨fault, notFound, same | same⟩
    · obtain ⟨rfl, reply⟩ := reply_eq_of_call_eq same
      obtain ⟨exchange, inside, missing⟩ :=
        (list_missing_iff identity script).mpr ⟨fault, eq_of_heq reply, notFound⟩
      exact ⟨exchange, inside, missing, .inl ((lists_pages _ _ none script).1.request _ inside)⟩
    · obtain ⟨rfl, reply⟩ := reply_eq_of_call_eq same
      have missing := (settles_deletion identity script).missing_iff.mpr
        ⟨fault, eq_of_heq reply, notFound⟩
      exact ⟨_, List.mem_singleton_self _, missing, .inr rfl⟩

/-- What a call says to be deleted. -/
theorem deletion_iff (call : Call) (script : Script) :
    (∃ exchange ∈ exchanges call script, exchange.IsDeletion identity) ↔
      Errand.call call (answer call script).1 = .call (.deleteThing identity) (.ok ()) := by
  constructor
  · rintro ⟨exchange, inside, output, rfl⟩
    obtain rfl := call_of_deletion inside rfl
    have made := List.mem_singleton.mp inside
    have good : (script.serve (.deleteThing identity)).1.IsSuccess :=
      ⟨output, (congrArg Exchange.response made).symm⟩
    obtain ⟨_, same⟩ := (settles_deletion identity script).ok_iff.mp good
    exact congrArg _ same
  · intro same
    obtain ⟨rfl, reply⟩ := reply_eq_of_call_eq same
    obtain ⟨output, good⟩ :=
      (settles_deletion identity script).ok_iff.mpr ⟨(), eq_of_heq reply⟩
    exact ⟨_, List.mem_singleton_self _, output, congrArg (Exchange.mk _) good⟩

/-- What a call has listed. -/
theorem listed_iff (call : Call) (script : Script) :
    (∃ exchange ∈ exchanges call script, exchange.IsLastPage identity) ↔
      ∃ principals, Errand.call call (answer call script).1 =
        .call (.listPrincipals identity) (.ok principals) := by
  -- of the pages of the list itself
  have own : (∃ exchange ∈ exchanges (.listPrincipals identity) script,
      exchange.IsLastPage identity) ↔
      ∃ principals, (answer (.listPrincipals identity) script).1 = .ok principals := by
    rw [answer_list, exchanges, (lists_pages identity _ none script).1.ok_iff]
    simp only [listReply_ok_iff]
  constructor
  · rintro ⟨exchange, inside, token, output, rfl, ends⟩
    obtain rfl := call_of_page inside rfl
    obtain ⟨principals, same⟩ := own.mp ⟨_, inside, token, output, rfl, ends⟩
    exact ⟨principals, congrArg _ same⟩
  · rintro ⟨principals, same⟩
    obtain ⟨rfl, reply⟩ := reply_eq_of_call_eq same
    exact own.mpr ⟨principals, eq_of_heq reply⟩

/-! ### Runs -/

variable {launch : Launch → FileSystem → Except String Finish × FileSystem} {tag : Nat → RunTag}
  {world : World Script}

section Seen

variable {ε α : Type} {action : Action ε α}

variable (takes : ∀ errand ∈ Errand.view.seen (action.historyIn (overCloud launch tag) world),
  errand.IsTeardown)

include takes

/-- **What is true of the calls of a run is true of its exchanges**, when all its errands are calls
that take something away. -/
theorem exists_exchange_iff {shows : Exchange → Prop} {tells : Errand → Prop}
    (each : ∀ (call : Call) (script : Script), call.operation.isTeardown = true →
      ((∃ exchange ∈ exchanges call script, shows exchange) ↔
        tells (.call call (answer call script).1))) :
    (∃ exchange ∈ exchangesOf (action.historyIn (overCloud launch tag) world), shows exchange) ↔
      ∃ errand ∈ Errand.view.seen (action.historyIn (overCloud launch tag) world),
        tells errand := by
  constructor
  · rintro ⟨exchange, inside, shown⟩
    obtain ⟨call, script, seen, made⟩ :=
      exists_call_of_exchange (fun errand seen => (takes errand seen).imp fun _ => And.left) inside
    obtain ⟨_, same, teardown⟩ := takes _ seen
    cases same
    exact ⟨_, seen, (each call script teardown).mp ⟨exchange, made, shown⟩⟩
  · rintro ⟨errand, inside, told⟩
    obtain ⟨operation, called, teardown⟩ := takes errand inside
    obtain ⟨call, script, rfl, all⟩ := exists_script_of_call inside called
    cases called
    obtain ⟨exchange, made, shown⟩ := (each call script teardown).mpr told
    exact ⟨exchange, all exchange made, shown⟩

/-- Only a list crashes, and it does so by never coming back. -/
theorem hang_of_crash {errand : Errand}
    (inside : errand ∈ Errand.view.seen (action.historyIn (overCloud launch tag) world))
    (crash : errand.IsCrash) : ∃ thing, errand = .call (.listPrincipals thing) .hang := by
  obtain ⟨operation, called, teardown⟩ := takes errand inside
  obtain ⟨call, script, rfl, -⟩ := exists_script_of_call inside called
  cases called
  obtain ⟨list, hangs⟩ := crash_of_answer teardown (Errand.isCrash_call_iff.mp crash)
  rw [hangs]
  cases call with
  | listPrincipals thing => exact ⟨thing, rfl⟩
  | _ => cases list

/-- A response is a fault exactly when a call failed. -/
theorem exists_fault_iff :
    (∃ exchange ∈ exchangesOf (action.historyIn (overCloud launch tag) world),
      exchange.response.IsFault) ↔
    ∃ errand ∈ Errand.view.seen (action.historyIn (overCloud launch tag) world), errand.IsFault :=
  exists_exchange_iff takes fun _ script teardown => fault_iff teardown script

/-- A response says that the identity is missing exactly when a call does. -/
theorem exists_missing_iff :
    (∃ exchange ∈ exchangesOf (action.historyIn (overCloud launch tag) world),
      exchange.IsMissing identity) ↔
    Identity.IsMissing identity (Errand.view.seen (action.historyIn (overCloud launch tag) world)) := by
  have told : (∃ exchange ∈ exchangesOf (action.historyIn (overCloud launch tag) world),
      exchange.IsMissing identity) ↔
      ∃ errand ∈ Errand.view.seen (action.historyIn (overCloud launch tag) world),
        ∃ fault, fault.isNotFound = true ∧
          (errand = .call (.listPrincipals identity) (.error fault) ∨
            errand = .call (.deleteThing identity) (.error fault)) :=
    exists_exchange_iff takes fun call script _ => missing_iff call script
  rw [told]
  constructor
  · rintro ⟨_, inside, fault, notFound, rfl | rfl⟩
    · exact ⟨fault, notFound, .inl inside⟩
    · exact ⟨fault, notFound, .inr inside⟩
  · rintro ⟨fault, notFound, inside | inside⟩
    · exact ⟨_, inside, fault, notFound, .inl rfl⟩
    · exact ⟨_, inside, fault, notFound, .inr rfl⟩

/-- The responses say that the identity is deleted exactly when the calls do. -/
theorem exists_deleted_iff :
    ((∃ exchange ∈ exchangesOf (action.historyIn (overCloud launch tag) world),
        exchange.IsLastPage identity) ∧
      ∃ exchange ∈ exchangesOf (action.historyIn (overCloud launch tag) world),
        exchange.IsDeletion identity) ↔
    Identity.IsDeleted identity (Errand.view.seen (action.historyIn (overCloud launch tag) world)) := by
  have ends : (∃ exchange ∈ exchangesOf (action.historyIn (overCloud launch tag) world),
      exchange.IsLastPage identity) ↔
      ∃ errand ∈ Errand.view.seen (action.historyIn (overCloud launch tag) world),
        ∃ principals, errand = .call (.listPrincipals identity) (.ok principals) :=
    exists_exchange_iff takes fun call script _ => listed_iff call script
  have gone : (∃ exchange ∈ exchangesOf (action.historyIn (overCloud launch tag) world),
      exchange.IsDeletion identity) ↔
      ∃ errand ∈ Errand.view.seen (action.historyIn (overCloud launch tag) world),
        errand = .call (.deleteThing identity) (.ok ()) :=
    exists_exchange_iff takes fun call script _ => deletion_iff call script
  rw [ends, gone]
  constructor
  · rintro ⟨⟨_, listed, principals, rfl⟩, ⟨_, last, rfl⟩⟩
    exact ⟨⟨principals, listed⟩, last⟩
  · rintro ⟨⟨principals, listed⟩, last⟩
    exact ⟨⟨_, listed, principals, rfl⟩, ⟨_, last, rfl⟩⟩

end Seen

/-- **Taking an identity away over the cloud service** exchanges requests and responses with it, and
the answer says what became of them:

* it never comes back exactly when the list of the principals has no end;
* it fails exactly when some response is an error other than that something does not exist;
* it has removed the identity exactly when there is no such error, the last page of the list is there
  and the thing was deleted;
* it has found no identity exactly when there is no such error, and a page of the list or the deletion
  of the thing was answered by what does not exist. -/
theorem dismantle_over_cloud (launch : Launch → FileSystem → Except String Finish × FileSystem)
    (tag : Nat → RunTag) (identity : String) (world : World Script) :
    let run := (Identity.dismantle identity).runIn (overCloud launch tag) world
    let made := exchangesOf ((Identity.dismantle identity).historyIn (overCloud launch tag) world)
    Replays world.plane made run.2.plane ∧
      (run.1 = .hung ↔ ∀ fuel, (listPages identity fuel none world.plane).1 = none) ∧
      ((∃ reason, run.1 = .failed (.cleanupFailed identity reason)) ↔
        ∃ exchange ∈ made, exchange.response.IsFault) ∧
      (run.1 = .done .removed ↔ (∀ exchange ∈ made, ¬ exchange.response.IsFault) ∧
        (∃ exchange ∈ made, exchange.IsLastPage identity) ∧
          ∃ exchange ∈ made, exchange.IsDeletion identity) ∧
      (run.1 = .done .absent ↔ (∀ exchange ∈ made, ¬ exchange.response.IsFault) ∧
        ∃ exchange ∈ made, exchange.IsMissing identity) := by
  intro run made
  let host := overCloud launch tag
  let seen := Errand.view.seen ((Identity.dismantle identity).historyIn host world)
  have dismantles : Identity.Dismantles identity seen run.1 :=
    Identity.dismantles_of_shows (Action.shows_historyIn Errand.view host _ world)
  have takes : ∀ errand ∈ seen, errand.IsTeardown := dismantles.teardown
  -- the list is the first call, and the only one
  obtain ⟨reply, rest, starts, others⟩ := dismantles.starts
  have first : seen = .call (.listPrincipals identity)
      (answer (.listPrincipals identity) world.plane).1 :: seen.tail := rfl
  obtain ⟨same, -⟩ := List.cons.inj (starts.symm.trans first)
  have replied : reply = (answer (.listPrincipals identity) world.plane).1 :=
    eq_of_heq (Errand.call.inj same).2
  -- so nothing else can fail to come back
  have sane : ∀ errand ∈ seen, errand.IsCrash → errand = .call (.listPrincipals identity) .hang := by
    intro errand inside crash
    obtain ⟨thing, rfl⟩ := hang_of_crash takes inside crash
    rw [starts] at inside
    rcases List.mem_cons.mp inside with same | later
    · cases same
      rfl
    · obtain ⟨_, called, -, other⟩ := others _ later
      cases called
      exact absurd rfl other
  have answers := dismantles.answers sane
  have faults : (∃ exchange ∈ made, exchange.response.IsFault) ↔ ∃ errand ∈ seen, errand.IsFault :=
    exists_fault_iff takes
  have clean : (∀ exchange ∈ made, ¬ exchange.response.IsFault) ↔
      ∀ errand ∈ seen, ¬ errand.IsFault := by
    simpa using not_congr faults
  refine ⟨replays_history launch tag _ world, ?_, ?_, ?_, ?_⟩
  · rw [answers.hung_iff, starts, Identity.isEndless_cons_iff others, replied]
    exact answer_hangs_iff identity world.plane
  · exact answers.failed_iff.trans faults.symm
  · rw [answers.removed_iff, clean, exists_deleted_iff takes]
  · rw [answers.absent_iff, clean, exists_missing_iff takes]

/-- A world with a service that lists two principals on two pages, of which it does not deactivate the
first. -/
def sampleListing : World Script :=
  .start (.start ((Table.empty.insert "ListThingPrincipals"
      [.success { Output.empty with principals := ["arn:cert/c1"], nextToken := some "more" },
        .success { Output.empty with principals := ["arn:cert/c2"] }]).insert
    "UpdateCertificate" [.serviceError "Throttled" "slow down", .success .empty]) true)
    ⟨Table.empty⟩

/-- The removal fails, with a round of requests for each of the principals, of which the first is not
deleted. -/
theorem dismantle_over_cloud_two_pages :
    let run := (Identity.dismantle "device-a").runIn
      (overCloud (fun _ files => (.error "", files)) fun _ => ⟨"a", isTag_a⟩) sampleListing
    (∃ reason, run.1 = .failed (.cleanupFailed "device-a" reason)) ∧
      run.2.plane.requests =
        [.listThingPrincipals "device-a" none, .listThingPrincipals "device-a" (some "more"),
          .detachThingPrincipal "device-a" "arn:cert/c1", .updateCertificate "c1" "INACTIVE",
          .detachThingPrincipal "device-a" "arn:cert/c2", .updateCertificate "c2" "INACTIVE",
          .deleteCertificate "c2" true, .deleteThing "device-a"] := by
  obtain ⟨-, -, failed, -⟩ := dismantle_over_cloud (fun _ files => (.error "", files))
    (fun _ => ⟨"a", isTag_a⟩) "device-a" sampleListing
  refine ⟨failed.mpr ⟨⟨.updateCertificate "c1" "INACTIVE",
    .serviceError "Throttled" "slow down"⟩, by decide +kernel, ?_, by decide⟩, by decide +kernel⟩
  rintro ⟨_, same⟩
  cases same

end DeviceTrial.Cloud
