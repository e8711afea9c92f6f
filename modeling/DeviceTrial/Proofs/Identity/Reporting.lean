/-
**What a removal tries, and what it reports.**

A removal gives every principal its round of calls. A round ends at the first call that fails for
another reason than that something is gone already, and the next round begins all the same; at the end
comes the deletion of the thing. Nothing is left out of the report, and nothing is told twice:

* `Round` — the calls for one principal, with the proof that each was made exactly when it had to be;
* `Removes.round`, `RemovesAll.rounds` — every removal of principals is made of rounds;
* `dismantle_reports` — **the errands and the answer of a removal**, read off its rounds.
-/

import DeviceTrial.Proofs.Identity.Clearing
import DeviceTrial.Proofs.Identity.Crashing

namespace DeviceTrial

/-- The fault of a call that takes away; that something is gone already is none. -/
def faultOf? : Except PlaneError Unit → Option PlaneError
  | .ok () => none
  | .error fault => if fault.isNotFound then none else some fault

/-- The fate of steps with at most one fault. -/
def Fate.ofFault : Option PlaneError → Fate PlaneError Unit
  | none => .done ()
  | some fault => .failed fault

theorem Fate.ofFault_eq_done_iff (fault : Option PlaneError) :
    Fate.ofFault fault = .done () ↔ fault = none := by
  cases fault <;> simp [ofFault]

namespace Reply

theorem forgiven_ofExcept (outcome : Except PlaneError Unit) :
    (Reply.ofExcept outcome).forgiven = Fate.ofFault (faultOf? outcome) := by
  cases outcome with
  | ok value => rfl
  | error fault =>
    cases missing : fault.isNotFound <;>
      simp [ofExcept, forgiven, fate, Fate.forgiven, faultOf?, Fate.ofFault, missing]

/-- A call that did not crash came back. -/
theorem exists_of_not_isCrash {α : Type} {reply : Reply α} (sane : ¬ reply.IsCrash) :
    ∃ outcome, reply = .ofExcept outcome := by
  cases reply with
  | ok value => exact ⟨.ok value, rfl⟩
  | error fault => exact ⟨.error fault, rfl⟩
  | panic message => exact absurd (.panic message) sane
  | hang => exact absurd .hang sane

end Reply

namespace Identity

open Registry

/-! ### Rounds -/

/-- The calls that are made for one principal, with what became of each. -/
structure Round where
  /-- The principal. -/
  principal : String
  /-- What became of detaching it. -/
  detaching : Except PlaneError Unit
  /-- What became of deactivating its certificate, if that was tried. -/
  deactivating : Option (Except PlaneError Unit)
  /-- What became of deleting its certificate, if that was tried. -/
  deleting : Option (Except PlaneError Unit)
  /-- A certificate is deactivated when it is detached. -/
  deactivated_iff : deactivating.isSome ↔
    faultOf? detaching = none ∧ (certificateOf? principal).isSome
  /-- It is deleted when it is deactivated. -/
  deleted_iff : deleting.isSome ↔ ∃ outcome, deactivating = some outcome ∧ faultOf? outcome = none

namespace Round

/-- The errands of a round, in order. -/
def errands (identity : String) (round : Round) : List Errand :=
  .call (.detachPrincipal identity round.principal) (.ofExcept round.detaching) ::
    match certificateOf? round.principal with
    | none => []
    | some certificate =>
      (round.deactivating.map fun outcome =>
        Errand.call (.deactivateCertificate certificate) (.ofExcept outcome)).toList ++
      (round.deleting.map fun outcome =>
        Errand.call (.deleteCertificate certificate) (.ofExcept outcome)).toList

/-- The first fault of a round. -/
def fault? (round : Round) : Option PlaneError :=
  (round.detaching :: (round.deactivating.toList ++ round.deleting.toList)).findSome? faultOf?

/-- What is reported of a round. -/
def report? (round : Round) : Option String :=
  round.fault?.map fun fault => round.principal ++ ": " ++ fault.message

end Round

/-- The number of faults of a removal: one for each round that met one, and one for the thing. -/
def failures (rounds : List Round) (last : Except PlaneError Unit) : Nat :=
  rounds.countP (·.fault?.isSome) + if (faultOf? last).isSome then 1 else 0

/-- The faults of a removal, in order. -/
def reports (rounds : List Round) (last : Except PlaneError Unit) : List String :=
  rounds.filterMap Round.report? ++
    ((faultOf? last).map fun fault => "delete thing: " ++ fault.message).toList

/-- The answer of a removal. -/
def answerOf (identity : String) (rounds : List Round) (last : Except PlaneError Unit) :
    Fate TrialError Removal :=
  if failures rounds last = 0 then .done (if last.isOk then .removed else .absent)
  else .failed (.cleanupFailed identity (toString (failures rounds last) ++ " step(s) failed: " ++
    "; ".intercalate (reports rounds last)))

/-- **The report has one text for each fault.** -/
theorem length_reports (rounds : List Round) (last : Except PlaneError Unit) :
    (reports rounds last).length = failures rounds last := by
  have told : rounds.countP (fun round => round.report?.isSome) =
      rounds.countP fun round => round.fault?.isSome := by
    simp [Round.report?]
  rw [reports, failures, List.length_append, List.length_filterMap_eq_countP, told]
  cases faultOf? last <;> rfl

variable {identity principal : String} {seen : List Errand}

/-- What the deletion of the thing adds to a removal. -/
theorem removalOf_eq (last : Except PlaneError Unit) :
    removalOf last = (if last.isOk then .removed else .absent,
      ((faultOf? last).map fun fault => "delete thing: " ++ fault.message).toList) := by
  cases last with
  | ok value => rfl
  | error fault =>
    cases missing : fault.isNotFound <;>
      simp [removalOf, faultOf?, missing, Except.isOk, Except.toBool]

/-- The end of a removal is its answer. -/
theorem summedUp_eq (identity : String) (rounds : List Round) (last : Except PlaneError Unit) :
    summedUp identity (rounds.filterMap Round.report?) last = answerOf identity rounds last := by
  have all : rounds.filterMap Round.report? ++ (removalOf last).2 = reports rounds last := by
    rw [removalOf_eq, reports]
  have none : (reports rounds last).isEmpty = true ↔ failures rounds last = 0 := by
    rw [List.isEmpty_iff, ← List.length_eq_zero_iff, length_reports]
  unfold summedUp answerOf dismantleReason
  rw [all]
  simp only [none, length_reports, removalOf_eq]

/-! ### A removal is made of rounds -/

/-- **The removal of one principal is a round.** -/
theorem Removes.round {fate : Fate PlaneError Unit} (removes : Removes identity principal seen fate)
    (sane : ∀ errand ∈ seen, ¬ errand.IsCrash) :
    ∃ round : Round, round.principal = principal ∧ seen = round.errands identity ∧
      fate = .ofFault round.fault? := by
  cases removes with
  | @undetached reply stays =>
    obtain ⟨detaching, rfl⟩ := Reply.exists_of_not_isCrash
      (Errand.isCrash_call_iff.not.mp (sane _ List.mem_cons_self))
    rw [Reply.forgiven_ofExcept] at stays ⊢
    rw [Ne, Fate.ofFault_eq_done_iff] at stays
    obtain ⟨fault, failed⟩ := Option.ne_none_iff_exists'.mp stays
    refine ⟨⟨principal, detaching, none, none, by simp [failed], by simp⟩, rfl, ?_, ?_⟩
    · unfold Round.errands
      split <;> rfl
    · simp [Round.fault?, failed]
  | @detached reply gone foreign =>
    obtain ⟨detaching, rfl⟩ := Reply.exists_of_not_isCrash
      (Errand.isCrash_call_iff.not.mp (sane _ List.mem_cons_self))
    rw [Reply.forgiven_ofExcept, Fate.ofFault_eq_done_iff] at gone
    refine ⟨⟨principal, detaching, none, none, by simp [foreign], by simp⟩, rfl, ?_, ?_⟩
    · simp [Round.errands, foreign]
    · simp [Round.fault?, gone, Fate.ofFault]
  | @active reply second certificate gone own stays =>
    obtain ⟨here, there, -⟩ := List.forall_mem_cons.mp sane |>.imp_right List.forall_mem_cons.mp
    obtain ⟨detaching, rfl⟩ := Reply.exists_of_not_isCrash (Errand.isCrash_call_iff.not.mp here)
    obtain ⟨deactivating, rfl⟩ := Reply.exists_of_not_isCrash (Errand.isCrash_call_iff.not.mp there)
    rw [Reply.forgiven_ofExcept, Fate.ofFault_eq_done_iff] at gone
    rw [Reply.forgiven_ofExcept] at stays ⊢
    rw [Ne, Fate.ofFault_eq_done_iff] at stays
    obtain ⟨fault, failed⟩ := Option.ne_none_iff_exists'.mp stays
    refine ⟨⟨principal, detaching, some deactivating, none, by simp [gone, own], by simp [failed]⟩,
      rfl, ?_, ?_⟩
    · simp [Round.errands, own]
    · simp [Round.fault?, gone, failed]
  | @deleting reply second certificate gone own inactive third =>
    obtain ⟨here, there, last, -⟩ := List.forall_mem_cons.mp sane |>.imp_right
      fun rest => (List.forall_mem_cons.mp rest).imp_right List.forall_mem_cons.mp
    obtain ⟨detaching, rfl⟩ := Reply.exists_of_not_isCrash (Errand.isCrash_call_iff.not.mp here)
    obtain ⟨deactivating, rfl⟩ := Reply.exists_of_not_isCrash (Errand.isCrash_call_iff.not.mp there)
    obtain ⟨deleting, rfl⟩ := Reply.exists_of_not_isCrash (Errand.isCrash_call_iff.not.mp last)
    rw [Reply.forgiven_ofExcept, Fate.ofFault_eq_done_iff] at gone inactive
    refine ⟨⟨principal, detaching, some deactivating, some deleting, by simp [gone, own],
      by simp [inactive]⟩, rfl, ?_, ?_⟩
    · simp [Round.errands, own]
    · rw [Reply.forgiven_ofExcept]
      cases failed : faultOf? deleting <;> simp [Round.fault?, gone, inactive, failed]

/-- **The removal of principals is a round for each**, and collects what is reported of them. -/
theorem RemovesAll.rounds {principals : List String} {fate : Fate TrialError (List String)}
    (all : RemovesAll identity principals seen fate) (sane : ∀ errand ∈ seen, ¬ errand.IsCrash) :
    ∃ rounds : List Round, rounds.map Round.principal = principals ∧
      seen = rounds.flatMap (Round.errands identity) ∧
      fate = .done (rounds.filterMap Round.report?) := by
  induction all with
  | nil => exact ⟨[], rfl, rfl, rfl⟩
  | removed one others step =>
    obtain ⟨here, later⟩ := List.forall_mem_append.mp sane
    obtain ⟨round, rfl, rfl, done⟩ := one.round here
    obtain ⟨rounds, rfl, rfl, rfl⟩ := step later
    have silent : round.report? = none := by
      rw [Round.report?, (Fate.ofFault_eq_done_iff _).mp done.symm]
      rfl
    exact ⟨round :: rounds, rfl, rfl, by rw [List.filterMap_cons_none silent]⟩
  | @kept _ _ _ _ _ fault one others step =>
    obtain ⟨here, later⟩ := List.forall_mem_append.mp sane
    obtain ⟨round, rfl, rfl, failed⟩ := one.round here
    obtain ⟨rounds, rfl, rfl, rfl⟩ := step later
    have told : round.report? = some (round.principal ++ ": " ++ fault.message) := by
      cases met : round.fault? with
      | none =>
        rw [met] at failed
        cases failed
      | some other =>
        rw [met] at failed
        cases failed
        rw [Round.report?, met]
        rfl
    exact ⟨round :: rounds, rfl, rfl, by rw [List.filterMap_cons_some told]; rfl⟩
  | crashed one crashes =>
    obtain ⟨round, rfl, rfl, rfl⟩ := one.round sane
    cases met : round.fault? <;> rw [met] at crashes <;> cases crashes

/-- A removal starts with the list of the principals. -/
theorem exists_seen_dismantle {σ : Type} (host : Host σ) (identity : String) (world : World σ) :
    ∃ rest, Errand.view.seen ((dismantle identity).historyIn host world) =
      .call (.listPrincipals identity)
        (host.plane.answer (.listPrincipals identity) world.plane).1 :: rest :=
  ⟨_, rfl⟩

/-- **A removal goes on after every fault and reports them all.** On any control plane that lists the
principals and then answers every call: each principal has its round, in the order of the list; then
the thing is deleted, once; and the answer counts and tells the first fault of each round, and that of
the thing. -/
theorem dismantle_reports {σ : Type} (host : Host σ) (identity : String) (world : World σ)
    (principals : List String)
    (lists : (host.plane.answer (.listPrincipals identity) world.plane).1 = .ok principals)
    (answers : ∀ errand ∈ Errand.view.seen ((dismantle identity).historyIn host world),
      ¬ errand.IsCrash) :
    ∃ (rounds : List Round) (last : Except PlaneError Unit),
      rounds.map Round.principal = principals ∧
      Errand.view.seen ((dismantle identity).historyIn host world) =
        .call (.listPrincipals identity) (.ok principals) ::
          (rounds.flatMap (Round.errands identity) ++
            [.call (.deleteThing identity) (.ofExcept last)]) ∧
      ((dismantle identity).runIn host world).1 = answerOf identity rounds last := by
  obtain ⟨rest, starts⟩ := exists_seen_dismantle host identity world
  rw [lists] at starts
  have dismantles := dismantles_of_shows ((dismantle identity).shows_historyIn Errand.view host world)
  generalize seenEq : Errand.view.seen ((dismantle identity).historyIn host world) = seen
    at dismantles starts answers
  have uncrashed := dismantles.crash_iff.not.mpr fun ⟨errand, inside, crash⟩ =>
    answers errand inside crash
  generalize ((dismantle identity).runIn host world).1 = fate at dismantles uncrashed
  cases dismantles with
  | absent missing => cases starts
  | unlisted other => cases starts
  | crashed crashes => exact absurd crashes.isCrash.2 uncrashed
  | stopped all crashes => exact absurd crashes.isCrash.2 uncrashed
  | broken all crashes => exact absurd crashes.isCrash.2 uncrashed
  | finished all last =>
    cases starts
    obtain ⟨rounds, rfl, rfl, same⟩ := all.rounds fun errand inside =>
      answers errand (List.mem_cons_of_mem _ (List.mem_append_left _ inside))
    cases same
    exact ⟨rounds, last, rfl, rfl, summedUp_eq identity rounds last⟩

/-! ### A removal with three faults -/

/-- The first principal stays attached, and the certificate of the second stays, of which it is said
before that it is gone. -/
def threeFaults : List Injection :=
  [⟨.detachPrincipal, some 1, .fault (.refused "DetachThingPrincipal" "throttled")⟩,
    ⟨.deactivateCertificate, some 1, .fault (.notFound "certificate")⟩,
    ⟨.deleteCertificate, some 1, .fault (.refused "DeleteCertificate" "denied")⟩]

/-- The other two principals have their rounds without a fault, and the thing cannot be deleted as
long as the first is attached to it. -/
theorem dismantle_reports_three :
    (sampleAttempt sampleCrowd threeFaults).1 = .failed (.cleanupFailed "device-a"
        ("3 step(s) failed: " ++ "; ".intercalate
          [(certificateNumber 1).arn ++ ": DetachThingPrincipal failed: throttled",
            (certificateNumber 2).arn ++ ": DeleteCertificate failed: denied",
            "delete thing: DeleteThing failed: thing 'device-a' still has 1 principal(s) attached"])) ∧
      ∃ (rounds : List Round) (last : Except PlaneError Unit),
        rounds.map Round.principal = [(certificateNumber 1).arn, (certificateNumber 2).arn,
          (certificateNumber 3).arn, "operator"] ∧
        (sampleAttempt sampleCrowd threeFaults).1 = answerOf "device-a" rounds last := by
  have reported : (sampleAttempt sampleCrowd threeFaults).1 = .failed (.cleanupFailed "device-a"
      ("3 step(s) failed: " ++ "; ".intercalate
        [(certificateNumber 1).arn ++ ": DetachThingPrincipal failed: throttled",
          (certificateNumber 2).arn ++ ": DeleteCertificate failed: denied",
          "delete thing: DeleteThing failed: thing 'device-a' still has 1 principal(s) attached"])) := by
    decide +kernel
  have uncrashed : ∀ errand ∈ Errand.view.seen ((dismantle "device-a").historyIn attemptHost
      (attemptWorld sampleCrowd threeFaults)), ¬ errand.IsCrash := by
    intro errand inside crash
    have crashed := (dismantles_of_shows ((dismantle "device-a").shows_historyIn Errand.view
      attemptHost (attemptWorld sampleCrowd threeFaults))).crash_iff.mpr ⟨errand, inside, crash⟩
    rw [show ((dismantle "device-a").runIn attemptHost (attemptWorld sampleCrowd threeFaults)).1 = _
      from reported] at crashed
    cases crashed
  obtain ⟨rounds, last, listed, -, answer⟩ := dismantle_reports attemptHost "device-a"
    (attemptWorld sampleCrowd threeFaults) [(certificateNumber 1).arn, (certificateNumber 2).arn,
      (certificateNumber 3).arn, "operator"] rfl uncrashed
  exact ⟨reported, rounds, last, listed, answer⟩

end Identity

end DeviceTrial
