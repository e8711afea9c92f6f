/-
**What a program asks of the cloud service.**

A call to the control plane is one request to the service, or one for each page of a list. An
`Exchange` is a request with the response to it.

* `replays_history` — **every run** leads from one script to another through its exchanges;
* `Settles` — what a response makes of a call that takes something away;
* `lists_pages` — what the pages make of a list: it fails with the page that fails, and it succeeds
  with the last page;
* `listPages_endless` — a list that has not ended when the script repeats itself never ends;
* `exists_call_of_exchange`, `exists_script_of_call` — the exchanges of a run are those of its calls.
-/

import DeviceTrial.Cloud.Adapter
import DeviceTrial.Proofs.Run.Errand

namespace DeviceTrial.Cloud

/-- That a request succeeded. -/
def Response.IsSuccess (response : Response) : Prop := ∃ output, response = .success output

/-- That a request failed for another reason than that something does not exist. -/
def Response.IsFault (response : Response) : Prop :=
  ¬ response.IsSuccess ∧ response.isResourceNotFound = false

/-- A request and the response to it. -/
structure Exchange where
  /-- The request. -/
  request : Request
  /-- The response. -/
  response : Response
deriving DecidableEq

/-! ### The exchanges of a call -/

/-- The request that a call is; for a list it is that of the first page. -/
def requestOf : Call → Request
  | .getSecret name => .getSecretValue name
  | .createThing thing => .createThing thing
  | .createCertificate => .createKeysAndCertificate true
  | .attachPrincipal thing principal => .attachThingPrincipal thing principal
  | .attachPolicy policy target => .attachPolicy policy target
  | .joinGroup thing group => .addThingToThingGroup thing group
  | .describeThing thing => .describeThing thing
  | .listPrincipals thing => .listThingPrincipals thing none
  | .detachPrincipal thing principal => .detachThingPrincipal thing principal
  | .deactivateCertificate certificate => .updateCertificate certificate "INACTIVE"
  | .deleteCertificate certificate => .deleteCertificate certificate true
  | .deleteThing thing => .deleteThing thing
  | .describeJob job thing => .describeJobExecution job thing
  | .fetchShadow thing shadow => .getThingShadow thing shadow

/-- The exchanges of a list, page after page, at most `fuel` of them. -/
def pages (thing : String) : (fuel : Nat) → (token : Option String) → Script → List Exchange
  | 0, _, _ => []
  | fuel + 1, token, script =>
    let request := Request.listThingPrincipals thing token
    let served := script.serve request
    ⟨request, served.1⟩ ::
      match served.1 with
      | .success output =>
        match nextToken? output with
        | some next => pages thing fuel (some next) served.2
        | none => []
      | _ => []

/-- The exchanges of a call. -/
def exchanges : Call → Script → List Exchange
  | .listPrincipals thing, script => pages thing (pageBound script) none script
  | call, script => [⟨requestOf call, (script.serve (requestOf call)).1⟩]

theorem exchanges_of_single {call : Call} (single : call.operation ≠ .listPrincipals) (script : Script) :
    exchanges call script = [⟨requestOf call, (script.serve (requestOf call)).1⟩] := by
  cases call with
  | listPrincipals thing => exact absurd rfl single
  | _ => rfl

/-- That exchanges lead from one script to another. The region can be set in between. -/
inductive Replays : Script → List Exchange → Script → Prop where
  | nil (script : Script) : Replays script [] script
  | cons {script after last : Script} {request : Request} {response : Response}
      {more : List Exchange} (served : script.serve request = (response, after))
      (rest : Replays after more last) : Replays script (⟨request, response⟩ :: more) last
  | located {script last : Script} (region : String) {more : List Exchange}
      (rest : Replays { script with region := region } more last) : Replays script more last

theorem Replays.append {script middle last : Script} {front rest : List Exchange}
    (first : Replays script front middle) (second : Replays middle rest last) :
    Replays script (front ++ rest) last := by
  induction first with
  | nil script => exact second
  | cons served _ step => exact .cons served (step second)
  | located region _ step => exact .located region (step second)

/-- A service that can be reached keeps the requests. -/
theorem Replays.requests {script last : Script} {made : List Exchange}
    (replays : Replays script made last) (online : script.online = true) :
    last.requests = script.requests ++ made.map Exchange.request := by
  induction replays with
  | nil script => simp
  | @cons script after last request response more served rest step =>
    have kept : (script.serve request).2.online = true := by
      unfold Script.serve
      rw [if_pos online]
      dsimp only
      split <;> exact online
    have asked := Script.serve_requests online request
    rw [served] at kept asked
    rw [step kept, asked, List.append_assoc]
    rfl
  | located region rest step => exact step online

theorem replyWith_script {α : Type} (read : Output → Except PlaneError α)
    (sent : Except PlaneError Output × Script) : (replyWith read sent).2 = sent.2 := by
  obtain ⟨outcome, after⟩ := sent
  cases outcome with
  | ok output =>
    unfold replyWith
    dsimp only
    split <;> rfl
  | error fault => rfl

/-! ### Responses -/

theorem isResourceNotFound_success (output : Output) :
    (Response.success output).isResourceNotFound = false := rfl

theorem not_isFault_success (output : Output) : ¬ (Response.success output).IsFault :=
  fun fault => fault.1 ⟨output, rfl⟩

/-- A response that is no success makes a fault, which says whether something does not exist. -/
theorem outputOf_of_bad {response : Response} (bad : ¬ response.IsSuccess)
    (operation resource : String) :
    ∃ fault, outputOf operation (some resource) response = .error fault ∧
      fault.isNotFound = response.isResourceNotFound := by
  unfold outputOf
  split
  · rename_i output
    exact absurd ⟨output, rfl⟩ bad
  · dsimp only
    cases missing : response.isResourceNotFound with
    | true => exact ⟨_, if_pos rfl, rfl⟩
    | false => exact ⟨_, if_neg nofun, rfl⟩

theorem send_of_served {request : Request} {script after : Script} {response : Response}
    (served : script.serve request = (response, after)) (resource : Option String) :
    send request resource script = (outputOf request.operation resource response, after) := by
  rw [send, served]

/-- What a response makes of a call that can tell what is missing. -/
inductive Settles {α : Type} (response : Response) : Reply α → Prop where
  /-- The call succeeds. -/
  | done (value : α) (good : response.IsSuccess) : Settles response (.ok value)
  /-- The call fails. -/
  | refused {fault : PlaneError} (bad : ¬ response.IsSuccess)
      (same : fault.isNotFound = response.isResourceNotFound) : Settles response (.error fault)

section Settles

variable {α : Type} {response : Response} {reply : Reply α}

/-- It fails for another reason than that something does not exist when the response does. -/
theorem Settles.fault_iff (settles : Settles response reply) :
    response.IsFault ↔ ∃ fault, reply = .error fault ∧ fault.isNotFound = false := by
  cases settles with
  | done value good => simp [Response.IsFault, good]
  | refused bad same => simp [Response.IsFault, bad, same]

/-- It says that something does not exist when the response does. -/
theorem Settles.missing_iff (settles : Settles response reply) :
    response.isResourceNotFound = true ↔
      ∃ fault, reply = .error fault ∧ fault.isNotFound = true := by
  cases settles with
  | done value good =>
    obtain ⟨output, rfl⟩ := good
    simp [isResourceNotFound_success]
  | refused bad same => simp [same]

/-- It succeeds when the response does. -/
theorem Settles.ok_iff (settles : Settles response reply) :
    response.IsSuccess ↔ ∃ value, reply = .ok value := by
  cases settles with
  | done value good => exact iff_of_true good ⟨value, rfl⟩
  | refused bad same => exact iff_of_false bad nofun

end Settles

theorem settles_send (request : Request) (resource : String) (script : Script) :
    Settles (script.serve request).1
      (replyWith nothing (send request (some resource) script)).1 := by
  unfold send
  dsimp only
  by_cases good : (script.serve request).1.IsSuccess
  · obtain ⟨output, same⟩ := good
    rw [same]
    exact .done () ⟨output, rfl⟩
  · obtain ⟨fault, outcome, same⟩ := outputOf_of_bad good request.operation resource
    rw [outcome]
    exact .refused good same

/-- **What the response makes of a call that takes something away.** -/
theorem settles_answer {call : Call} (takes : call.operation.isTeardown = true)
    (single : call.operation ≠ .listPrincipals) (script : Script) :
    Settles (script.serve (requestOf call)).1 (answer call script).1 := by
  cases call with
  | detachPrincipal thing principal => exact settles_send _ _ script
  | deactivateCertificate certificate => exact settles_send _ _ script
  | deleteCertificate certificate => exact settles_send _ _ script
  | deleteThing thing => exact settles_send _ _ script
  | listPrincipals thing => exact absurd rfl single
  | _ => cases takes

/-! ### Lists -/

/-- What the pages of a list make of it; nothing is known of a list that is not at its end. -/
inductive Lists (thing : String) :
    List Exchange → Option (Except PlaneError (List String)) → Prop where
  /-- No further page was asked for. -/
  | unfinished : Lists thing [] none
  /-- The page cannot be had. -/
  | refused (token : Option String) {response : Response} {fault : PlaneError}
      (bad : ¬ response.IsSuccess) (same : fault.isNotFound = response.isResourceNotFound) :
    Lists thing [⟨.listThingPrincipals thing token, response⟩] (some (.error fault))
  /-- The page is the last one. -/
  | last (token : Option String) {output : Output} (last : nextToken? output = none) :
    Lists thing [⟨.listThingPrincipals thing token, .success output⟩] (some (.ok output.principals))
  /-- Another page follows. -/
  | more (token : Option String) {output : Output} {next : String} {others : List Exchange}
      {result : Option (Except PlaneError (List String))}
      (follows : nextToken? output = some next) (rest : Lists thing others result) :
    Lists thing (⟨.listThingPrincipals thing token, .success output⟩ :: others)
      (result.map fun principals => principals.map (output.principals ++ ·))

/-- A page that is followed by another. -/
theorem listPages_of_more {thing next : String} {token : Option String} {script after : Script}
    {output : Output}
    (sent : send (.listThingPrincipals thing token) (some (thingResource thing)) script =
      (.ok output, after))
    (follows : nextToken? output = some next) (fuel : Nat) :
    listPages thing (fuel + 1) token script =
      ((listPages thing fuel (some next) after).1.map fun principals =>
        principals.map (output.principals ++ ·), (listPages thing fuel (some next) after).2) := by
  rw [listPages, sent]
  dsimp only
  rw [follows]
  dsimp only
  rcases listPages thing fuel (some next) after with ⟨_ | _ | _, last⟩ <;> rfl

/-- A page is the last one, or is followed by another, or is refused. -/
theorem listPages_cases {thing : String} {token : Option String} {script after : Script}
    {response : Response}
    (served : script.serve (.listThingPrincipals thing token) = (response, after)) (fuel : Nat) :
    (∃ output, response = .success output ∧ nextToken? output = none ∧
      listPages thing (fuel + 1) token script = (some (.ok output.principals), after)) ∨
    (∃ output next, response = .success output ∧ nextToken? output = some next ∧
      listPages thing (fuel + 1) token script =
        ((listPages thing fuel (some next) after).1.map fun principals =>
          principals.map (output.principals ++ ·), (listPages thing fuel (some next) after).2)) ∨
    ¬ response.IsSuccess ∧ ∃ fault, fault.isNotFound = response.isResourceNotFound ∧
      listPages thing (fuel + 1) token script = (some (.error fault), after) := by
  have sent := send_of_served served (some (thingResource thing))
  by_cases good : response.IsSuccess
  · obtain ⟨output, rfl⟩ := good
    cases follows : nextToken? output with
    | none => exact .inl ⟨output, rfl, follows, listPages_of_last sent follows⟩
    | some next => exact .inr (.inl ⟨output, next, rfl, follows, listPages_of_more sent follows fuel⟩)
  · obtain ⟨fault, outcome, same⟩ :=
      outputOf_of_bad good (Request.listThingPrincipals thing token).operation (thingResource thing)
    refine .inr (.inr ⟨good, fault, same, ?_⟩)
    rw [listPages, sent, outcome]

/-- **What the pages make of a list**, and where they lead. -/
theorem lists_pages (thing : String) (fuel : Nat) (token : Option String) (script : Script) :
    Lists thing (pages thing fuel token script) (listPages thing fuel token script).1 ∧
      Replays script (pages thing fuel token script) (listPages thing fuel token script).2 := by
  induction fuel generalizing token script with
  | zero => exact ⟨.unfinished, .nil script⟩
  | succ fuel step =>
    rw [pages]
    generalize served : script.serve (.listThingPrincipals thing token) = answered
    obtain ⟨response, after⟩ := answered
    rcases listPages_cases served fuel with
      ⟨output, rfl, ends, same⟩ | ⟨output, next, rfl, follows, same⟩ | ⟨bad, fault, missing, same⟩
    · rw [same]
      simp only [ends]
      exact ⟨.last token ends, .cons served (.nil after)⟩
    · obtain ⟨lists, replays⟩ := step (some next) after
      rw [same]
      simp only [follows]
      exact ⟨.more token follows lists, .cons served replays⟩
    · rw [same]
      cases response with
      | success output => exact absurd ⟨output, rfl⟩ bad
      | _ => exact ⟨.refused token bad missing, .cons served (.nil after)⟩

/-- A page that is the last one. -/
def Exchange.IsLastPage (thing : String) (exchange : Exchange) : Prop :=
  ∃ token output, exchange = ⟨.listThingPrincipals thing token, .success output⟩ ∧
    nextToken? output = none

section Lists

variable {thing : String} {made : List Exchange}
  {result : Option (Except PlaneError (List String))}

/-- A list fails when one of its pages does. -/
theorem Lists.fault_iff (lists : Lists thing made result) :
    (∃ exchange ∈ made, exchange.response.IsFault) ↔
      ∃ fault, result = some (.error fault) ∧ fault.isNotFound = false := by
  induction lists with
  | unfinished => simp
  | refused token bad same => simp [Response.IsFault, bad, same]
  | last token last => simp [not_isFault_success]
  | @more token output next others result follows rest step =>
    simp only [List.exists_mem_cons_iff, not_isFault_success, false_or, step]
    rcases result with _ | _ | _ <;> simp [Except.map]

/-- It says that there is no such thing when one of its pages does. -/
theorem Lists.missing_iff (lists : Lists thing made result) :
    (∃ exchange ∈ made, exchange.response.isResourceNotFound = true) ↔
      ∃ fault, result = some (.error fault) ∧ fault.isNotFound = true := by
  induction lists with
  | unfinished => simp
  | refused token bad same => simp [same]
  | last token last => simp [isResourceNotFound_success]
  | @more token output next others result follows rest step =>
    simp only [List.exists_mem_cons_iff, isResourceNotFound_success, Bool.false_eq_true, false_or,
      step]
    rcases result with _ | _ | _ <;> simp [Except.map]

/-- It succeeds when its last page is there. -/
theorem Lists.ok_iff (lists : Lists thing made result) :
    (∃ exchange ∈ made, exchange.IsLastPage thing) ↔
      ∃ principals, result = some (.ok principals) := by
  induction lists with
  | unfinished => simp
  | @refused token response fault bad same =>
    refine iff_of_false ?_ nofun
    rintro ⟨exchange, inside, _, output, rfl, -⟩
    cases List.mem_singleton.mp inside
    exact bad ⟨output, rfl⟩
  | last token last => exact iff_of_true ⟨_, List.mem_cons_self, token, _, rfl, last⟩ ⟨_, rfl⟩
  | @more token output next others result follows rest step =>
    have further : ¬ Exchange.IsLastPage thing
        ⟨.listThingPrincipals thing token, .success output⟩ := by
      rintro ⟨_, _, same, ends⟩
      cases same
      cases follows.symm.trans ends
    simp only [List.exists_mem_cons_iff, further, false_or, step]
    rcases result with _ | _ | _ <;> simp [Except.map]

/-- Every page is asked of the thing. -/
theorem Lists.request (lists : Lists thing made result) :
    ∀ exchange ∈ made, ∃ token, exchange.request = .listThingPrincipals thing token := by
  induction lists with
  | unfinished => simp
  | refused token bad same => simp
  | last token last => simp
  | more token follows rest step => exact List.forall_mem_cons.mpr ⟨⟨token, rfl⟩, step⟩

end Lists

/-! ### Lists that never end -/

section Endless

variable {thing : String} {token : Option String} {script after : Script}

/-- A list is not at its end as long as every page is followed by another. -/
theorem listPages_eq_none_iff {response : Response}
    (served : script.serve (.listThingPrincipals thing token) = (response, after)) (fuel : Nat) :
    (listPages thing (fuel + 1) token script).1 = none ↔
      ∃ output next, response = .success output ∧ nextToken? output = some next ∧
        (listPages thing fuel (some next) after).1 = none := by
  rcases listPages_cases served fuel with
    ⟨output, rfl, ends, same⟩ | ⟨output, next, rfl, follows, same⟩ | ⟨bad, fault, -, same⟩
  · refine iff_of_false (by rw [same]; nofun) ?_
    rintro ⟨_, _, success, follows, -⟩
    cases success
    cases follows.symm.trans ends
  · rw [same]
    refine Option.map_eq_none_iff.trans ⟨fun none => ⟨output, next, rfl, follows, none⟩, ?_⟩
    rintro ⟨_, _, success, also, none⟩
    cases success
    cases follows.symm.trans also
    exact none
  · refine iff_of_false (by rw [same]; nofun) ?_
    rintro ⟨output, _, rfl, -, -⟩
    exact bad ⟨output, rfl⟩

/-- What a script answers, and what is left of it. -/
theorem serve_cases {request : Request} {response : Response} (online : script.online = true)
    (served : script.serve request = (response, after)) :
    after.online = true ∧
      (script.upcoming request.operation = [] ∧ response = .success .empty ∨
        (script.upcoming request.operation = [response] ∧
          after.upcoming request.operation = [response]) ∨
        ∃ second rest, script.upcoming request.operation = response :: second :: rest ∧
          after.upcoming request.operation = second :: rest) := by
  unfold Script.serve at served
  rw [if_pos online] at served
  dsimp only at served
  split at served
  · rename_i none
    cases served
    exact ⟨online, .inl ⟨none, rfl⟩⟩
  · rename_i last one
    cases served
    exact ⟨online, .inr (.inl ⟨one, one⟩)⟩
  · rename_i first second rest several
    cases served
    refine ⟨online, .inr (.inr ⟨second, rest, several, ?_⟩)⟩
    rw [Script.upcoming, Table.get?_insert_self]
    rfl

theorem online_of_success {request : Request} {output : Output}
    (served : script.serve request = (.success output, after)) : script.online = true := by
  by_contra offline
  rw [Script.serve, if_neg offline] at served
  cases served

/-- When the last page that a script has asks for another one, the list never ends. -/
theorem listPages_of_repeating {output : Output} {next : String} (online : script.online = true)
    (one : script.upcoming "ListThingPrincipals" = [.success output])
    (follows : nextToken? output = some next) (fuel : Nat) :
    (listPages thing fuel token script).1 = none := by
  induction fuel generalizing token script with
  | zero => rfl
  | succ fuel step =>
    generalize served : script.serve (.listThingPrincipals thing token) = answered
    obtain ⟨response, after⟩ := answered
    obtain ⟨still, ⟨none, -⟩ | ⟨here, left⟩ | ⟨second, rest, several, -⟩⟩ :=
      serve_cases online served
    · cases one.symm.trans none
    · cases one.symm.trans here
      exact (listPages_eq_none_iff served fuel).mpr ⟨output, next, rfl, follows, step still left⟩
    · cases one.symm.trans several

/-- **A list that has not ended when the script repeats itself never ends.** -/
theorem listPages_endless {bound : Nat}
    (enough : (script.upcoming "ListThingPrincipals").length ≤ bound)
    (unfinished : (listPages thing (bound + 1) token script).1 = none) (fuel : Nat) :
    (listPages thing fuel token script).1 = none := by
  induction bound generalizing token script fuel with
  | zero =>
    have spent := List.eq_nil_of_length_eq_zero (Nat.le_zero.mp enough)
    generalize served : script.serve (.listThingPrincipals thing token) = answered
    obtain ⟨response, after⟩ := answered
    obtain ⟨output, next, rfl, follows, -⟩ := (listPages_eq_none_iff served 0).mp unfinished
    obtain ⟨-, ⟨-, empty⟩ | ⟨here, -⟩ | ⟨second, rest, several, -⟩⟩ :=
      serve_cases (online_of_success served) served
    · cases empty
      cases follows
    · cases spent.symm.trans here
    · cases spent.symm.trans several
  | succ bound step =>
    generalize served : script.serve (.listThingPrincipals thing token) = answered
    obtain ⟨response, after⟩ := answered
    obtain ⟨output, next, rfl, follows, others⟩ :=
      (listPages_eq_none_iff served (bound + 1)).mp unfinished
    obtain ⟨-, ⟨-, empty⟩ | ⟨here, -⟩ | ⟨second, rest, several, left⟩⟩ :=
      serve_cases (online_of_success served) served
    · cases empty
      cases follows
    · exact listPages_of_repeating (online_of_success served) here follows fuel
    · have fewer : (after.upcoming "ListThingPrincipals").length ≤ bound := by
        have length := congrArg List.length several
        rw [show after.upcoming "ListThingPrincipals" = second :: rest from left]
        rw [show (script.upcoming "ListThingPrincipals").length = _ from length] at enough
        exact Nat.le_of_succ_le_succ enough
      cases fuel with
      | zero => rfl
      | succ fuel =>
        exact (listPages_eq_none_iff served fuel).mpr
          ⟨output, next, rfl, follows, step fewer others fuel⟩

/-- A call that lists principals never comes back exactly when there is always another page. -/
theorem answer_hangs_iff (thing : String) (script : Script) :
    (answer (.listPrincipals thing) script).1 = .hang ↔
      ∀ fuel, (listPages thing fuel none script).1 = none := by
  have reply : (answer (.listPrincipals thing) script).1 = .hang ↔
      (listPages thing (pageBound script) none script).1 = none := by
    show (listPrincipals thing script).1 = .hang ↔ _
    unfold listPrincipals
    rcases listPages thing (pageBound script) none script with ⟨_ | _ | _, after⟩ <;> simp
  rw [reply]
  exact ⟨fun unfinished => listPages_endless (Nat.le_refl _) unfinished, fun endless => endless _⟩

end Endless

/-! ### Runs -/

theorem replays_one (script : Script) (request : Request) :
    Replays script [⟨request, (script.serve request).1⟩] (script.serve request).2 := by
  have served : script.serve request = ((script.serve request).1, (script.serve request).2) := rfl
  exact .cons served (.nil _)

/-- A call leads from one script to another through its exchanges. -/
theorem replays_exchanges (call : Call) (script : Script) :
    Replays script (exchanges call script) (answer call script).2 := by
  have one : ∀ {request : Request} {after : Script}, (script.serve request).2 = after →
      Replays script [⟨request, (script.serve request).1⟩] after := by
    rintro request _ rfl
    exact replays_one script request
  cases call with
  | listPrincipals thing =>
    have leads := (lists_pages thing (pageBound script) none script).2
    have same : (answer (.listPrincipals thing) script).2 =
        (listPages thing (pageBound script) none script).2 := by
      show (listPrincipals thing script).2 = _
      unfold listPrincipals
      rcases listPages thing (pageBound script) none script with ⟨_ | _ | _, after⟩ <;> rfl
    rw [same]
    exact leads
  | describeJob job thing =>
    refine one ?_
    show _ = (describeJob job thing script).2
    unfold describeJob
    dsimp only
    split
    · rfl
    · split <;> rfl
  | _ =>
    refine one ?_
    rw [answer, replyWith_script]
    rfl

/-- The exchanges of one effect of a run. -/
def exchangesAt (moment : Moment (World Script)) : List Exchange :=
  match moment.effect with
  | .call call => exchanges call moment.before.plane
  | .connect region =>
    let request := Request.describeEndpoint dataEndpoint
    [⟨request, ({ moment.before.plane with region := region }.serve request).1⟩]
  | _ => []

/-- The exchanges of a run. -/
def exchangesOf (moments : List (Moment (World Script))) : List Exchange :=
  moments.flatMap exchangesAt

/-- A host whose control plane is the cloud service. -/
def overCloud (launch : Launch → FileSystem → Except String Finish × FileSystem)
    (tag : Nat → RunTag) : Host Script where
  plane := plane
  connect := connect
  launch := launch
  tag := tag

variable (launch : Launch → FileSystem → Except String Finish × FileSystem) (tag : Nat → RunTag)

theorem replays_handle (effect : Effect) (world : World Script) :
    Replays world.plane (exchangesAt ⟨world, effect, ((overCloud launch tag).handle effect world).1⟩)
      ((overCloud launch tag).handle effect world).2.plane := by
  cases effect with
  | call call => exact replays_exchanges call world.plane
  | connect region =>
    have leads := replays_one { world.plane with region := region } (.describeEndpoint dataEndpoint)
    have same : (connect region world.plane).2 = _ := replyWith_script _ _
    refine .located region ?_
    show Replays _ _ (connect region world.plane).2
    rw [same]
    exact leads
  | _ => exact .nil _

/-- **Every run** leads from one script to another through its exchanges. -/
theorem replays_history {ε α : Type} (action : Action ε α) (world : World Script) :
    Replays world.plane (exchangesOf (action.historyIn (overCloud launch tag) world))
      (action.runIn (overCloud launch tag) world).2.plane := by
  show Replays world.plane
    (exchangesOf (action.program.history (overCloud launch tag).handle world))
    (action.program.run (overCloud launch tag).handle world).2.plane
  induction action.program generalizing world with
  | done value => exact .nil _
  | perform effect next step =>
    rw [Program.history, exchangesOf, List.flatMap_cons]
    exact (replays_handle launch tag effect world).append (step _ _)

section Errands

variable {launch tag} {ε α : Type} {action : Action ε α} {world : World Script}

/-- What is no errand exchanges nothing. -/
theorem exchangesAt_of_silent {moment : Moment (World Script)}
    (silent : Errand.view moment.effect moment.answer = none) : exchangesAt moment = [] := by
  obtain ⟨before, effect, reply⟩ := moment
  cases effect with
  | call call => cases silent
  | connect region => cases silent
  | _ => rfl

/-- What an errand that is a call was answered, and what it exchanged. -/
theorem answered_of_moment {moment : Moment (World Script)}
    (happened : moment ∈ action.historyIn (overCloud launch tag) world) {errand : Errand}
    (shown : Errand.view moment.effect moment.answer = some errand) {operation : Operation}
    (called : errand.operation? = some operation) :
    ∃ call : Call, errand = .call call (answer call moment.before.plane).1 ∧
      exchangesAt moment = exchanges call moment.before.plane := by
  have answered := Program.answer_of_mem_history happened
  obtain ⟨before, effect, reply⟩ := moment
  dsimp only at answered shown
  subst answered
  cases effect with
  | call call =>
    cases shown
    exact ⟨call, rfl, rfl⟩
  | connect region =>
    cases shown
    cases called
  | launch request =>
    cases shown
    cases called
  | file request =>
    cases request with
    | read path =>
      cases shown
      cases called
    | _ => cases shown
  | _ => cases shown

/-- **Every exchange of a run belongs to one of its calls**, when all its errands are calls. -/
theorem exists_call_of_exchange
    (calls : ∀ errand ∈ Errand.view.seen (action.historyIn (overCloud launch tag) world),
      ∃ operation, errand.operation? = some operation)
    {exchange : Exchange}
    (inside : exchange ∈ exchangesOf (action.historyIn (overCloud launch tag) world)) :
    ∃ (call : Call) (script : Script),
      .call call (answer call script).1 ∈
        Errand.view.seen (action.historyIn (overCloud launch tag) world) ∧
      exchange ∈ exchanges call script := by
  obtain ⟨moment, happened, made⟩ := List.mem_flatMap.mp inside
  cases same : Errand.view moment.effect moment.answer with
  | none =>
    rw [exchangesAt_of_silent same] at made
    cases made
  | some errand =>
    have seen : errand ∈ Errand.view.seen (action.historyIn (overCloud launch tag) world) :=
      List.mem_filterMap.mpr ⟨moment, happened, same⟩
    obtain ⟨operation, called⟩ := calls errand seen
    obtain ⟨call, rfl, exchanged⟩ := answered_of_moment happened same called
    exact ⟨call, moment.before.plane, seen, exchanged ▸ made⟩

/-- **The exchanges of a call of a run are exchanges of the run.** -/
theorem exists_script_of_call {errand : Errand} {operation : Operation}
    (inside : errand ∈ Errand.view.seen (action.historyIn (overCloud launch tag) world))
    (called : errand.operation? = some operation) :
    ∃ (call : Call) (script : Script), errand = .call call (answer call script).1 ∧
      ∀ exchange ∈ exchanges call script,
        exchange ∈ exchangesOf (action.historyIn (overCloud launch tag) world) := by
  obtain ⟨moment, happened, same⟩ := List.mem_filterMap.mp inside
  obtain ⟨call, rfl, exchanged⟩ := answered_of_moment happened same called
  exact ⟨call, moment.before.plane, rfl, fun exchange made =>
    List.mem_flatMap.mpr ⟨moment, happened, exchanged ▸ made⟩⟩

end Errands

end DeviceTrial.Cloud
