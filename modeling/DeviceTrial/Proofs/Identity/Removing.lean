/-
**The errands of taking an identity away.**

`Identity.dismantle` lists the principals of a thing, removes one after the other, and deletes the
thing. What became of it is told by three relations, each from the one before:

* `Removes` — one principal: detached and, if it is a certificate, deactivated and deleted;
* `RemovesAll` — all principals: a failure is kept for the report, a crash ends it all;
* `Dismantles` — the whole removal; `dismantles_of_shows` says that nothing else can happen.
-/

import DeviceTrial.Identity
import DeviceTrial.Proofs.Run.Errand

namespace DeviceTrial

/-- The fate of a step that takes something away: what is gone already is no failure. -/
def Fate.forgiven : Fate PlaneError Unit → Fate PlaneError Unit
  | .failed fault => if fault.isNotFound then .done () else .failed fault
  | other => other

/-- What a reply makes of a step that takes something away. -/
def Reply.forgiven (reply : Reply Unit) : Fate PlaneError Unit := reply.fate.forgiven

/-- That nothing is left of what a call takes away: it succeeds, or there is nothing. -/
def Reply.IsGone {α : Type} (reply : Reply α) : Prop :=
  reply.IsOk ∨ ∃ fault, reply = .error fault ∧ fault.isNotFound = true

theorem Reply.forgiven_eq_done_iff (reply : Reply Unit) :
    reply.forgiven = .done () ↔ reply.IsGone := by
  cases reply with
  | ok value => simp [forgiven, fate, Fate.forgiven, IsGone, IsOk]
  | error fault =>
    cases missing : fault.isNotFound <;>
      simp [forgiven, fate, Fate.forgiven, IsGone, IsOk, missing]
  | panic message => simp [forgiven, fate, Fate.forgiven, IsGone, IsOk]
  | hang => simp [forgiven, fate, Fate.forgiven, IsGone, IsOk]

theorem Reply.IsGone.not_crashes {α δ β : Type} {reply : Reply α} {fate : Fate δ β}
    (gone : reply.IsGone) : ¬ reply.fate.Crashes fate := by
  obtain ⟨value, rfl⟩ | ⟨fault, rfl, -⟩ := gone <;> nofun

/-- The reply of a call that came back. -/
def Reply.ofExcept {α : Type} : Except PlaneError α → Reply α
  | .ok value => .ok value
  | .error fault => .error fault

namespace Errand

/-- That an errand calls one of the operations that take an identity away. -/
def IsTeardown (errand : Errand) : Prop :=
  ∃ operation, errand.operation? = some operation ∧ operation.isTeardown = true

theorem IsTeardown.of_call {request : Call} {reply : Reply request.Answer}
    (takes : (call request reply).IsTeardown) : request.operation.isTeardown = true := by
  obtain ⟨_, same, takes⟩ := takes
  cases same
  exact takes

end Errand

namespace Identity

/-- The errands and the end of removing one principal. -/
inductive Removes (identity principal : String) : List Errand → Fate PlaneError Unit → Prop where
  /-- It stays attached. -/
  | undetached {reply : Reply Unit} (stays : reply.forgiven ≠ .done ()) :
    Removes identity principal [.call (.detachPrincipal identity principal) reply] reply.forgiven
  /-- It is detached, and it is no certificate. -/
  | detached {reply : Reply Unit} (gone : reply.forgiven = .done ())
      (foreign : certificateOf? principal = none) :
    Removes identity principal [.call (.detachPrincipal identity principal) reply] (.done ())
  /-- It is detached, and the certificate stays active. -/
  | active {reply second : Reply Unit} {certificate : String} (gone : reply.forgiven = .done ())
      (own : certificateOf? principal = some certificate) (stays : second.forgiven ≠ .done ()) :
    Removes identity principal [.call (.detachPrincipal identity principal) reply,
      .call (.deactivateCertificate certificate) second] second.forgiven
  /-- It is detached, and the certificate is deleted, if that call takes it away. -/
  | deleting {reply second : Reply Unit} {certificate : String} (gone : reply.forgiven = .done ())
      (own : certificateOf? principal = some certificate) (inactive : second.forgiven = .done ())
      (third : Reply Unit) :
    Removes identity principal [.call (.detachPrincipal identity principal) reply,
      .call (.deactivateCertificate certificate) second,
      .call (.deleteCertificate certificate) third] third.forgiven

/-- The errands and the end of removing principals one after the other. -/
inductive RemovesAll (identity : String) :
    List String → List Errand → Fate TrialError (List String) → Prop where
  /-- There is none. -/
  | nil : RemovesAll identity [] [] (.done [])
  /-- The first is removed. -/
  | removed {principal : String} {principals : List String} {first rest : List Errand}
      {fate : Fate TrialError (List String)} (one : Removes identity principal first (.done ()))
      (others : RemovesAll identity principals rest fate) :
    RemovesAll identity (principal :: principals) (first ++ rest) fate
  /-- The first cannot be removed, which is kept for the report. -/
  | kept {principal : String} {principals : List String} {first rest : List Errand}
      {fate : Fate TrialError (List String)} {fault : PlaneError}
      (one : Removes identity principal first (.failed fault))
      (others : RemovesAll identity principals rest fate) :
    RemovesAll identity (principal :: principals) (first ++ rest)
      (fate.map ((principal ++ ": " ++ fault.message) :: ·))
  /-- The control plane crashes under the first. -/
  | crashed {principal : String} {principals : List String} {first : List Errand}
      {stop : Fate PlaneError Unit} {fate : Fate TrialError (List String)}
      (one : Removes identity principal first stop) (crashes : stop.Crashes fate) :
    RemovesAll identity (principal :: principals) first fate

/-- The end of a removal that came to the deletion of the thing. -/
def summedUp (identity : String) (faults : List String) (outcome : Except PlaneError Unit) :
    Fate TrialError Removal :=
  if (faults ++ (removalOf outcome).2).isEmpty then .done (removalOf outcome).1
  else .failed (.cleanupFailed identity (dismantleReason (faults ++ (removalOf outcome).2)))

/-- A removal that came to its end made no fault when it has a value. -/
theorem faultless_of_summedUp {identity : String} {faults : List String}
    {outcome : Except PlaneError Unit} {removal : Removal}
    (same : summedUp identity faults outcome = .done removal) :
    faults = [] ∧ (Reply.ofExcept outcome).IsGone := by
  unfold summedUp at same
  split at same
  · rename_i none
    obtain ⟨rfl, none⟩ := List.append_eq_nil_iff.mp (List.isEmpty_iff.mp none)
    refine ⟨rfl, ?_⟩
    cases outcome with
    | ok value => exact .inl ⟨value, rfl⟩
    | error fault =>
      refine .inr ⟨fault, rfl, ?_⟩
      by_contra other
      simp [removalOf, other] at none
  · cases same

theorem summedUp_of_gone {identity : String} {outcome : Except PlaneError Unit}
    (gone : (Reply.ofExcept outcome).IsGone) :
    summedUp identity [] outcome = .done (removalOf outcome).1 := by
  cases outcome with
  | ok value => rfl
  | error fault =>
    obtain ⟨_, same⟩ | ⟨_, same, missing⟩ := gone
    · cases same
    · cases same
      simp [summedUp, removalOf, missing]

/-- The errands and the end of taking an identity away. -/
inductive Dismantles (identity : String) : List Errand → Fate TrialError Removal → Prop where
  /-- There is no such thing. -/
  | absent {fault : PlaneError} (missing : fault.isNotFound = true) :
    Dismantles identity [.call (.listPrincipals identity) (.error fault)] (.done .absent)
  /-- Its principals cannot be listed. -/
  | unlisted {fault : PlaneError} (other : fault.isNotFound = false) :
    Dismantles identity [.call (.listPrincipals identity) (.error fault)]
      (.failed (.cleanupFailed identity ("list principals: " ++ fault.message)))
  /-- The control plane crashes under the list. -/
  | crashed {reply : Reply (List String)} {fate : Fate TrialError Removal}
      (crashes : reply.fate.Crashes fate) :
    Dismantles identity [.call (.listPrincipals identity) reply] fate
  /-- It crashes under a principal. -/
  | stopped {principals : List String} {seen : List Errand} {stop : Fate TrialError (List String)}
      {fate : Fate TrialError Removal} (all : RemovesAll identity principals seen stop)
      (crashes : stop.Crashes fate) :
    Dismantles identity (.call (.listPrincipals identity) (.ok principals) :: seen) fate
  /-- It crashes under the thing. -/
  | broken {principals faults : List String} {seen : List Errand} {reply : Reply Unit}
      {fate : Fate TrialError Removal} (all : RemovesAll identity principals seen (.done faults))
      (crashes : reply.fate.Crashes fate) :
    Dismantles identity (.call (.listPrincipals identity) (.ok principals) ::
      (seen ++ [.call (.deleteThing identity) reply])) fate
  /-- The deletion of the thing came back. -/
  | finished {principals faults : List String} {seen : List Errand}
      (all : RemovesAll identity principals seen (.done faults))
      (outcome : Except PlaneError Unit) :
    Dismantles identity (.call (.listPrincipals identity) (.ok principals) ::
      (seen ++ [.call (.deleteThing identity) (.ofExcept outcome)]))
      (summedUp identity faults outcome)

/-! ### Operations of a removal -/

/-- That an errand detaches, deactivates or deletes something. -/
def TakesAway (errand : Errand) : Prop :=
  ∃ operation, errand.operation? = some operation ∧ operation.isTeardown = true ∧
    operation ≠ .listPrincipals

theorem Removes.takesAway {identity principal : String} {seen : List Errand}
    {fate : Fate PlaneError Unit} (removes : Removes identity principal seen fate) :
    ∀ errand ∈ seen, TakesAway errand := by
  cases removes <;>
    simp [TakesAway, Errand.operation?, Call.operation, Operation.isTeardown]

theorem RemovesAll.takesAway {identity : String} {principals : List String} {seen : List Errand}
    {fate : Fate TrialError (List String)} (all : RemovesAll identity principals seen fate) :
    ∀ errand ∈ seen, TakesAway errand := by
  induction all with
  | nil => simp
  | removed one others step | kept one others step =>
    exact List.forall_mem_append.mpr ⟨one.takesAway, step⟩
  | crashed one crashes => exact one.takesAway

/-- A removal lists the principals once, at its start, and then takes away. -/
theorem Dismantles.starts {identity : String} {seen : List Errand} {fate : Fate TrialError Removal}
    (dismantles : Dismantles identity seen fate) :
    ∃ reply rest, seen = .call (.listPrincipals identity) reply :: rest ∧
      ∀ errand ∈ rest, TakesAway errand := by
  have deletes : ∀ reply, TakesAway (.call (.deleteThing identity) reply) :=
    fun reply => ⟨_, rfl, rfl, nofun⟩
  cases dismantles with
  | absent missing => exact ⟨_, _, rfl, by simp⟩
  | unlisted other => exact ⟨_, _, rfl, by simp⟩
  | crashed crashes => exact ⟨_, _, rfl, by simp⟩
  | stopped all crashes => exact ⟨_, _, rfl, all.takesAway⟩
  | broken all crashes =>
    refine ⟨_, _, rfl, fun errand inside => ?_⟩
    rcases List.mem_append.mp inside with first | last
    · exact all.takesAway errand first
    · rw [List.mem_singleton.mp last]
      exact deletes _
  | finished all outcome =>
    refine ⟨_, _, rfl, fun errand inside => ?_⟩
    rcases List.mem_append.mp inside with first | last
    · exact all.takesAway errand first
    · rw [List.mem_singleton.mp last]
      exact deletes _

/-- A removal calls nothing but operations that take away. -/
theorem Dismantles.teardown {identity : String} {seen : List Errand}
    {fate : Fate TrialError Removal}
    (dismantles : Dismantles identity seen fate) : ∀ errand ∈ seen, errand.IsTeardown := by
  obtain ⟨reply, rest, rfl, takes⟩ := dismantles.starts
  refine List.forall_mem_cons.mpr ⟨⟨_, rfl, rfl⟩, fun errand inside => ?_⟩
  obtain ⟨operation, same, teardown, -⟩ := takes errand inside
  exact ⟨operation, same, teardown⟩

/-! ### What the parts show -/

variable {β : Type} {identity : String} {seen : List Errand}

theorem takeAway_of_shows {operation : Action PlaneError Unit} {fate : Fate PlaneError Unit}
    (shown : Action.Shows Errand.view (takeAway operation) seen fate) :
    ∃ inner, Action.Shows Errand.view operation seen inner ∧ fate = inner.forgiven := by
  rcases Action.shows_attempt_bind shown with
    ⟨value, first, rest, one, two, rfl⟩ | ⟨fault, first, rest, one, two, rfl⟩ | ⟨stop, one, crashes⟩
  · obtain ⟨rfl, rfl⟩ := (Action.shows_pure_iff _ _ _ _).mp two
    exact ⟨_, by rwa [List.append_nil], rfl⟩
  · cases missing : fault.isNotFound with
    | true =>
      rw [forgive, if_pos missing] at two
      obtain ⟨rfl, rfl⟩ := (Action.shows_pure_iff _ _ _ _).mp two
      exact ⟨_, by rwa [List.append_nil], by simp [Fate.forgiven, missing]⟩
    | false =>
      rw [forgive, if_neg (by simp [missing])] at two
      obtain ⟨rfl, rfl⟩ := (Action.shows_fail_iff _ _ _ _).mp two
      exact ⟨_, by rwa [List.append_nil], by simp [Fate.forgiven, missing]⟩
  · cases crashes with
    | panicked message => exact ⟨_, one, rfl⟩
    | hung => exact ⟨_, one, rfl⟩

/-- A step that takes something away, and what comes after it. -/
theorem takeAway_bind_of_shows {operation : Action PlaneError Unit}
    {next : Unit → Action PlaneError Unit} {fate : Fate PlaneError Unit}
    (shown : Action.Shows Errand.view (takeAway operation >>= next) seen fate) :
    ∃ first inner, Action.Shows Errand.view operation first inner ∧
      ((inner.forgiven = .done () ∧
        ∃ rest, Action.Shows Errand.view (next ()) rest fate ∧ seen = first ++ rest) ∨
      (inner.forgiven ≠ .done () ∧ seen = first ∧ fate = inner.forgiven)) := by
  rcases (Action.shows_bind_iff _ _ _ _ _).mp shown with
    ⟨_, first, rest, one, two, rfl⟩ | ⟨stop, one, stops⟩
  · obtain ⟨inner, called, same⟩ := takeAway_of_shows one
    exact ⟨first, inner, called, .inl ⟨same.symm, rest, two, rfl⟩⟩
  · obtain ⟨inner, called, rfl⟩ := takeAway_of_shows one
    refine ⟨seen, inner, called, .inr ⟨fun done => ?_, rfl, stops.eq⟩⟩
    rw [done] at stops
    cases stops

theorem removes_of_shows {principal : String} {fate : Fate PlaneError Unit}
    (shown : Action.Shows Errand.view (removePrincipal identity principal) seen fate) :
    Removes identity principal seen fate := by
  obtain ⟨_, _, called, ⟨gone, rest, after, rfl⟩ | ⟨stays, rfl, rfl⟩⟩ :=
    takeAway_bind_of_shows shown
  · obtain ⟨reply, rfl, rfl⟩ := (Action.shows_call_iff _ _).mp called
    cases own : certificateOf? principal with
    | none =>
      simp only [own] at after
      obtain ⟨rfl, rfl⟩ := (Action.shows_log_iff _ _ _ _ _).mp after
      exact .detached gone own
    | some certificate =>
      simp only [own] at after
      obtain ⟨_, _, called, ⟨inactive, more, last, rfl⟩ | ⟨stays, rfl, rfl⟩⟩ :=
        takeAway_bind_of_shows after
      · obtain ⟨second, rfl, rfl⟩ := (Action.shows_call_iff _ _).mp called
        obtain ⟨_, _, called, ⟨deleted, ending, logged, rfl⟩ | ⟨stays, rfl, rfl⟩⟩ :=
          takeAway_bind_of_shows last
        · obtain ⟨third, rfl, rfl⟩ := (Action.shows_call_iff _ _).mp called
          obtain ⟨rfl, rfl⟩ := (Action.shows_log_iff _ _ _ _ _).mp logged
          rw [← deleted]
          exact .deleting gone own inactive third
        · obtain ⟨third, rfl, rfl⟩ := (Action.shows_call_iff _ _).mp called
          exact .deleting gone own inactive third
      · obtain ⟨second, rfl, rfl⟩ := (Action.shows_call_iff _ _).mp called
        exact .active gone own stays
  · obtain ⟨reply, rfl, rfl⟩ := (Action.shows_call_iff _ _).mp called
    exact .undetached stays

theorem removesAll_of_shows {principals : List String} {fate : Fate TrialError (List String)}
    (shown : Action.Shows Errand.view (removePrincipals identity principals) seen fate) :
    RemovesAll identity principals seen fate := by
  induction principals generalizing seen fate with
  | nil =>
    obtain ⟨rfl, rfl⟩ := (Action.shows_pure_iff _ _ _ _).mp shown
    exact .nil
  | cons principal principals step =>
    rcases Action.shows_attempt_bind shown with
      ⟨_, first, rest, one, others, rfl⟩ | ⟨fault, first, rest, one, two, rfl⟩ |
      ⟨stop, one, crashes⟩
    · exact .removed (removes_of_shows one) (step others)
    · dsimp only at two
      rw [Action.shows_log_bind_iff] at two
      rcases (Action.shows_bind_iff _ _ _ _ _).mp two with
        ⟨faults, early, late, others, done, rfl⟩ | ⟨stop, others, stops⟩
      · obtain ⟨rfl, rfl⟩ := (Action.shows_pure_iff _ _ _ _).mp done
        rw [List.append_nil]
        exact .kept (removes_of_shows one) (step others)
      · rw [stops.eq_map ((principal ++ ": " ++ fault.message) :: ·)]
        exact .kept (removes_of_shows one) (step others)
    · exact .crashed (removes_of_shows one) crashes

/-- Failures stop no removal, so only a crash does. -/
theorem RemovesAll.crashes {principals : List String} {stop : Fate TrialError (List String)}
    {fate : Fate TrialError β} (all : RemovesAll identity principals seen stop)
    (stops : stop.Stops fate) : stop.Crashes fate := by
  have unfailing : ∀ fault, stop ≠ .failed fault := by
    clear stops
    induction all with
    | nil => nofun
    | removed one others step => exact step
    | @kept _ _ _ _ inner _ one others step =>
      cases inner with
      | failed fault => exact absurd rfl (step fault)
      | _ => nofun
    | crashed one crashes => cases crashes <;> nofun
  cases stops with
  | failed fault => exact absurd rfl (unfailing fault)
  | panicked message => exact .panicked message
  | hung => exact .hung

/-- What the last step of a removal shows. -/
theorem summedUp_of_shows (faults principals : List String) (outcome : Except PlaneError Unit)
    {fate : Fate TrialError Removal}
    (shown : Action.Shows Errand.view (
      let (removal, more) := removalOf outcome
      let all := faults ++ more
      if all.isEmpty then do
        if removal = .removed then
          Action.record .identityRemoved
          Action.log .info .identity "identity deleted"
            [("identity", identity), ("principals", toString principals.length)]
        return removal
      else Action.fail (.cleanupFailed identity (dismantleReason all))) seen fate) :
    seen = [] ∧ fate = summedUp identity faults outcome := by
  dsimp only at shown
  unfold summedUp
  split at shown
  · rename_i none
    rw [if_pos none]
    split at shown
    · rw [Action.shows_record_bind_iff, Action.shows_log_bind_iff, Action.shows_pure_iff] at shown
      exact shown
    · exact (Action.shows_pure_iff _ _ _ _).mp shown
  · rename_i some
    rw [if_neg some]
    exact (Action.shows_fail_iff _ _ _ _).mp shown

/-- **All that can become of taking an identity away.** -/
theorem dismantles_of_shows {fate : Fate TrialError Removal}
    (shown : Action.Shows Errand.view (dismantle identity) seen fate) :
    Dismantles identity seen fate := by
  unfold dismantle at shown
  rcases Action.shows_attempt_call_bind shown with
    ⟨principals, rest, rfl, after⟩ | ⟨fault, rest, rfl, after⟩ | ⟨reply, _, rfl, crashes⟩
  · rcases (Action.shows_bind_iff _ _ _ _ _).mp after with
      ⟨faults, first, last, all, deleted, rfl⟩ | ⟨stop, all, stops⟩
    · rcases Action.shows_attempt_call_bind deleted with
        ⟨_, more, rfl, summed⟩ | ⟨fault, more, rfl, summed⟩ | ⟨reply, _, rfl, crashes⟩
      · obtain ⟨rfl, rfl⟩ := summedUp_of_shows faults principals (.ok ()) summed
        exact .finished (removesAll_of_shows all) (.ok ())
      · obtain ⟨rfl, rfl⟩ := summedUp_of_shows faults principals (.error fault) summed
        exact .finished (removesAll_of_shows all) (.error fault)
      · exact .broken (removesAll_of_shows all) crashes
    · exact .stopped (removesAll_of_shows all) ((removesAll_of_shows all).crashes stops)
  · dsimp only at after
    split at after
    · rename_i missing
      rw [Action.shows_log_bind_iff, Action.shows_pure_iff] at after
      obtain ⟨rfl, rfl⟩ := after
      exact .absent missing
    · rename_i other
      obtain ⟨rfl, rfl⟩ := (Action.shows_fail_iff _ _ _ _).mp after
      exact .unlisted (by simpa using other)
  · exact .crashed crashes

end Identity

end DeviceTrial
