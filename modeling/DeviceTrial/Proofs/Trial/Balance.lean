/-
**Identities that were made and taken away.**

Two metrics count the identities that trials have made and taken away. Making one is counted right
after its thing was made, and taking one away when the thing was found and nothing failed. So a trial
whose cleanup passed counts as many of the one as of the other, unless the thing was there before it.

* `marks_protected`, `marks_cleanup` — what the phases and the cleanup count;
* `Registry.ServesAll.exists_iff` — where no thing is deleted, a thing exists when it did before or was
  made;
* `conduct_accounts` — **metrics, log and record of a trial agree**.
-/

import DeviceTrial.Proofs.Identity.Retrying
import DeviceTrial.Proofs.Trial.Account
import DeviceTrial.Proofs.Trial.Verdict

namespace DeviceTrial

/-! ### Things that are made -/

namespace Registry

variable {meddling : Meddling} {registry after : Registry} {thing : String}

/-- A call that neither makes nor deletes a thing leaves things where they were. -/
theorem exists_of_step {call : Call} {value : call.Answer}
    (works : registry.step call = .ok (value, after)) (makes : call.operation ≠ .createThing)
    (deletes : call.operation ≠ .deleteThing) :
    after.things.get? thing ≠ none ↔ registry.things.get? thing ≠ none := by
  cases step_eq_ok_iff.mp works with
  | thingMade fresh => exact absurd rfl makes
  | thingDeleted registered bare => exact absurd rfl deletes
  | principalAttached registered => exact not_congr (Table.get?_update_eq_none_iff _ _ _ _)
  | groupJoined registered => exact not_congr (Table.get?_update_eq_none_iff _ _ _ _)
  | principalDetached registered => exact not_congr (Table.get?_update_eq_none_iff _ _ _ _)
  | _ => exact Iff.rfl

theorem exists_of_creating {other : String} {value : Unit}
    (works : registry.step (.createThing other) = .ok (value, after)) :
    after.things.get? thing ≠ none ↔ registry.things.get? thing ≠ none ∨ thing = other := by
  cases step_eq_ok_iff.mp works with
  | thingThere known =>
    refine (or_iff_left_of_imp ?_).symm
    rintro rfl
    rw [known]
    exact Option.some_ne_none _
  | thingMade fresh =>
    rw [Table.get?_insert]
    by_cases here : thing = other
    · simp [here]
    · simp [here]

/-- **A thing exists after a call** that deletes none when it did before or the call made it. -/
theorem Serves.exists_iff {call : Call} {reply : Reply call.Answer}
    (serves : Serves meddling registry call reply after) (keeps : call.operation ≠ .deleteThing) :
    after.things.get? thing ≠ none ↔ registry.things.get? thing ≠ none ∨
      Errand.call (.createThing thing) (.ok ()) = .call call reply := by
  by_cases good : reply.IsOk
  · obtain ⟨value, rfl⟩ := good
    by_cases makes : call.operation = .createThing
    · cases call <;> cases makes
      rename_i other
      have same : thing = other ↔ Errand.call (.createThing thing) (.ok ()) =
          .call (.createThing other) (.ok value) := by
        constructor
        · rintro rfl
          rfl
        · intro same
          cases same
          rfl
      rw [exists_of_creating serves.works, same]
    · rw [exists_of_step serves.works makes keeps, or_iff_left]
      intro same
      cases same
      exact makes rfl
  · rw [serves.of_not_ok good, or_iff_left]
    intro same
    cases same
    exact good ⟨(), rfl⟩

/-- **A thing exists after errands** that delete none when it did before or one of them made it. -/
theorem ServesAll.exists_iff {seen : List Errand} (serves : ServesAll meddling registry seen after)
    (keeps : ∀ errand ∈ seen, errand.operation? ≠ some .deleteThing) (thing : String) :
    after.things.get? thing ≠ none ↔ registry.things.get? thing ≠ none ∨
      .call (.createThing thing) (.ok ()) ∈ seen := by
  induction serves with
  | nil registry => simp
  | call serves rest step =>
    obtain ⟨here, others⟩ := List.forall_mem_cons.mp keeps
    rw [step others, serves.exists_iff fun same => here (congrArg some same), or_assoc,
      List.mem_cons]
  | @other _ _ errand _ silent rest step =>
    obtain ⟨-, others⟩ := List.forall_mem_cons.mp keeps
    have distinct : .call (.createThing thing) (.ok ()) ≠ errand := by
      rintro rfl
      cases silent
    rw [step others, List.mem_cons, or_iff_right distinct]

end Registry

/-! ### What is counted -/

/-- Something that makes an identity, or counts one. -/
inductive Mark where
  /-- A thing was made. -/
  | created (thing : String)
  /-- An identity was counted as made. -/
  | made
  /-- An identity was counted as taken away. -/
  | removed
deriving DecidableEq

namespace Mark

/-- Looking at things that are made and at identities that are counted. -/
def view : View Mark
  | .call (.createThing thing), .ok _ => some (.created thing)
  | .record sample, _ =>
    match sample.metric with
    | .identitiesMade => some .made
    | .identitiesRemoved => some .removed
    | _ => none
  | _, _ => none

theorem allowsWork : Effect.AllowsWork view.Hides where
  calls request makes _ := by
    intro reply
    cases request with
    | createThing thing => exact absurd rfl makes
    | _ => rfl
  secrets _ _ := rfl
  reads _ _ := rfl
  launches _ _ := rfl
  events _ _ _ := rfl

theorem allowsTelling : Trial.AllowsTelling view.Hides where
  events _ _ := rfl
  results _ _ _ _ := rfl
  durations _ _ _ := rfl
  verdicts _ _ _ := rfl

variable {σ : Type} (moments : List (Moment σ))

/-- The number of recordings of a metric is the number of its marks. -/
theorem countP_samples {metric : Metric} {mark : Mark}
    (marks : ∀ (effect : Effect) (answer : effect.Answer),
      ((Effect.sample? effect).map fun sample => decide (sample.metric = metric)).getD false =
        ((view effect answer).map fun other => decide (other = mark)).getD false) :
    ((View.ofAdded Effect.sample?).seen moments).countP (·.metric = metric) =
      (view.seen moments).countP (· = mark) := by
  rw [View.seen, View.seen, List.countP_filterMap, List.countP_filterMap]
  congr 1
  funext moment
  exact marks moment.effect moment.answer

theorem countP_made :
    ((View.ofAdded Effect.sample?).seen moments).countP (·.metric = .identitiesMade) =
      (view.seen moments).countP (· = .made) := by
  refine countP_samples moments fun effect answer => ?_
  cases effect with
  | call request => cases request <;> cases answer <;> rfl
  | record sample =>
    obtain ⟨metric, labels⟩ := sample
    cases metric <;> rfl
  | _ => rfl

theorem countP_removed :
    ((View.ofAdded Effect.sample?).seen moments).countP (·.metric = .identitiesRemoved) =
      (view.seen moments).countP (· = .removed) := by
  refine countP_samples moments fun effect answer => ?_
  cases effect with
  | call request => cases request <;> cases answer <;> rfl
  | record sample =>
    obtain ⟨metric, labels⟩ := sample
    cases metric <;> rfl
  | _ => rfl

/-- A thing was made by one of the errands. -/
theorem created_mem_iff {thing : String} :
    .call (.createThing thing) (.ok ()) ∈ Errand.view.seen moments ↔
      .created thing ∈ view.seen moments := by
  rw [View.seen, View.seen, List.mem_filterMap, List.mem_filterMap]
  refine exists_congr fun moment => and_congr_right fun _ => ?_
  obtain ⟨before, effect, answer⟩ := moment
  cases effect with
  | call request =>
    cases request with
    | createThing other =>
      cases answer with
      | ok value =>
        constructor
        · intro same
          cases same
          rfl
        · intro same
          cases same
          rfl
      | _ => constructor <;> intro same <;> cases same
    | _ => constructor <;> intro same <;> cases same
  | record sample =>
    obtain ⟨metric, labels⟩ := sample
    cases metric <;> constructor <;> intro same <;> cases same
  | file request => cases request <;> constructor <;> intro same <;> cases same
  | _ => constructor <;> intro same <;> cases same

end Mark

namespace Identity

variable {identity : String} {seen : List Mark}

/-- Making an identity makes its thing and counts it, or neither. -/
theorem marks_establish {source : PolicySource} {paths : CredentialPaths} {group : Option String}
    {fate : Fate TrialError Identity}
    (shown : (establish identity source paths group).Shows Mark.view seen fate) :
    seen = [] ∨ seen = [.created identity, .made] := by
  have upkeep := Mark.allowsWork.toAllowsUpkeep
  rw [establish_eq] at shown
  -- nothing is seen up to the thing, and nothing after the count
  rcases (within_policyName upkeep Mark.allowsWork.secrets source).shows_bind_or shown with
    ⟨policy, named⟩ | ⟨rfl, -⟩
  swap
  · exact .inl rfl
  rcases (Action.Within.of_log Mark.allowsWork.events (by nofun)).shows_bind_or named with
    ⟨_, logged⟩ | ⟨rfl, -⟩
  swap
  · exact .inl rfl
  rcases (Action.shows_bind_iff _ _ _ _ _).mp logged with
    ⟨_, first, rest, stepped, counted, rfl⟩ | ⟨stop, stepped, stops⟩
  · obtain ⟨inner, called, same⟩ :=
      (Action.shows_of_eq_bind _ (Action.mapError_eq_bind _ _) _ _).mp stepped
    obtain ⟨reply, rfl, rfl⟩ := (Action.shows_call _ _ _ _).mp called
    obtain ⟨_, others, rfl, certified⟩ := (Action.shows_ask_bind_iff _ _ _ _ _).mp counted
    rw [(within_certify upkeep (.of_all (fun _ _ => rfl) paths) _ _ _).shows_nil certified]
    cases reply with
    | ok value => exact .inr rfl
    | error fault => cases same
    | panic message => cases same
    | hang => cases same
  · obtain ⟨inner, called, same⟩ :=
      (Action.shows_of_eq_bind _ (Action.mapError_eq_bind _ _) _ _).mp stepped
    obtain ⟨reply, rfl, rfl⟩ := (Action.shows_call _ _ _ _).mp called
    cases reply with
    | ok value =>
      cases same
      cases stops
    | error fault => exact .inl rfl
    | panic message => exact .inl rfl
    | hang => exact .inl rfl

theorem marks_dismantle {found : Removal}
    (shown : (dismantle identity).Shows Mark.view seen (.done found)) :
    seen = if found = .removed then [.removed] else [] := by
  have upkeep := Mark.allowsWork.toAllowsUpkeep
  unfold dismantle at shown
  obtain ⟨listed, shown⟩ :=
    (Action.Within.of_calls upkeep (by nofun) (by nofun)).attempt.shows_bind shown
  cases listed with
  | error fault =>
    dsimp only at shown
    split at shown
    · obtain ⟨_, shown⟩ := (Action.Within.of_log upkeep.events (by nofun)).shows_bind shown
      obtain ⟨rfl, same⟩ := (Action.shows_pure_iff _ _ _ _).mp shown
      cases same
      rfl
    · obtain ⟨-, same⟩ := (Action.shows_fail_iff _ _ _ _).mp shown
      cases same
  | ok principals =>
    obtain ⟨faults, shown⟩ := (within_removePrincipals upkeep _ _).shows_bind shown
    obtain ⟨outcome, shown⟩ :=
      (Action.Within.of_calls upkeep (by nofun) (by nofun)).attempt.shows_bind shown
    dsimp only at shown
    split at shown
    · split at shown
      · rename_i removed
        obtain ⟨_, rest, rfl, counted⟩ := (Action.shows_ask_bind_iff _ _ _ _ _).mp shown
        obtain ⟨_, logged⟩ := (Action.Within.of_log upkeep.events (by nofun)).shows_bind counted
        obtain ⟨rfl, same⟩ := (Action.shows_pure_iff _ _ _ _).mp logged
        cases same
        rw [if_pos removed]
        rfl
      · rename_i other
        obtain ⟨rfl, same⟩ := (Action.shows_pure_iff _ _ _ _).mp shown
        cases same
        exact (if_neg other).symm
    · obtain ⟨-, same⟩ := (Action.shows_fail_iff _ _ _ _).mp shown
      cases same

end Identity

namespace Trial

open Registry

variable {plan : Plan} {limits : Limits} {seen : List Mark}

/-- The phases before the cleanup count an identity if they made its thing. -/
theorem marks_protected {fate : Fate Empty Progress}
    (shown : (protectedPhases plan limits).Shows Mark.view seen fate) :
    seen = [] ∨ seen = [.created plan.identity, .made] := by
  have drives := within_drivePhase Mark.allowsTelling Mark.allowsWork plan limits
  unfold protectedPhases at shown
  cases wanted : plan.provisioning with
  | none =>
    simp only [wanted] at shown
    have skips := within_skipPhase Mark.allowsTelling plan .provision blank
    exact .inl ((skips.bind drives).shows_nil shown)
  | some provisioning =>
    simp only [wanted] at shown
    unfold phase at shown
    rcases (Action.shows_bind_iff _ _ _ _ _).mp shown with
      ⟨outcome, first, rest, contained, after, rfl⟩ | ⟨stop, contained, stops⟩
    · obtain ⟨inner, established, -⟩ :=
        (Action.shows_of_eq_bind _ (Action.contain_eq_bind _) _ _).mp contained
      rw [(within_passing Mark.allowsTelling drives outcome).shows_nil after, List.append_nil]
      exact Identity.marks_establish established
    · obtain ⟨inner, established, -⟩ :=
        (Action.shows_of_eq_bind _ (Action.contain_eq_bind _) _ _).mp contained
      exact Identity.marks_establish established

/-- A cleanup counts an identity when it found one. -/
theorem marks_cleanup {found : Removal}
    (shown : (cleanup plan).Shows Mark.view seen (.done found)) :
    seen = if found = .removed then [.removed] else [] := by
  rw [cleanup_eq] at shown
  rcases (Action.shows_bind_iff _ _ _ _ _).mp shown with
    ⟨removed, first, rest, attempted, after, rfl⟩ | ⟨stop, -, stops⟩
  · obtain ⟨inner, dismantled, same⟩ :=
      (Action.shows_of_eq_bind _ (Action.attempt_eq_bind _) _ _).mp attempted
    cases found_of_afterwards after
    have silent : (afterwards plan (.ok found)).Within Mark.view.Hides :=
      within_afterwards (fun provisioning _ => Identity.within_removeCredentials Mark.allowsWork.events
        (.of_all (fun _ _ => rfl) provisioning.paths)) (fun _ => rfl) _
    rw [silent.shows_nil after, List.append_nil]
    cases inner with
    | done value =>
      cases same
      exact Identity.marks_dismantle dismantled
    | failed fault => cases same
    | panicked message => cases same
    | hung => cases same
  · cases stops

/-! ### Metrics, log and record -/

/-- The marks of a trial are those of its phases and those of its cleanup. -/
theorem marks_of_conduct {σ : Type} {host : Host σ} {world last : World σ} {report : Report}
    (run : (conduct plan limits).runIn host world = (.done report, last))
    (passed : report.card.cleanup = .passed) :
    ∃ middle found, ((protectedPhases plan limits).runIn host (begun plan world)).2 = middle ∧
      ((cleanup plan).runIn host middle).1 = .done found ∧
      Mark.view.seen ((conduct plan limits).historyIn host world) =
        Mark.view.seen ((protectedPhases plan limits).historyIn host (begun plan world)) ++
          if found = .removed then [.removed] else [] := by
  obtain ⟨progress, middle, phases, closing, history⟩ := conduct_run run
  obtain ⟨slot, cleaned, noted, known, rfl, closes⟩ := closing_run closing
  have good : (cleanupSlot plan limits ((cleanup plan).runIn host middle).1.limited).isGood = true := by
    rw [← known, show slot = .passed from passed]
    rfl
  obtain ⟨found, gone⟩ := removed_of_good good
  have cleans := (cleanup plan).shows_historyIn Mark.view host middle
  rw [gone] at cleans
  have finishes := within_finishPhase Mark.allowsTelling plan .cleanup slot progress
  have concludes := within_conclude Mark.allowsTelling plan (progress.write .cleanup slot)
  refine ⟨middle, found, congrArg Prod.snd phases, gone, ?_⟩
  rw [history, View.seen_cons, View.seen_append, closes, View.seen_append, View.seen_append,
    finishes.unseen, concludes.unseen, marks_cleanup cleans, List.append_nil, List.append_nil]
  rfl

/-- An identity that was not there before is counted as taken away when it was counted as made. -/
theorem marks_balance {connect : String → Reply String}
    {launch : Launch → FileSystem → Except String Finish × FileSystem} {tag : Nat → RunTag}
    {world last : World (Interrupted Registry)} {report : Report}
    (honest : world.plane.meddling.IsHonest)
    (unknown : world.plane.state.things.get? plan.identity = none)
    (run : (conduct plan limits).runIn (.inMemory connect launch tag) world = (.done report, last))
    (passed : report.card.cleanup = .passed) :
    Mark.view.seen ((conduct plan limits).historyIn (.inMemory connect launch tag) world) = [] ∨
      Mark.view.seen ((conduct plan limits).historyIn (.inMemory connect launch tag) world) =
        [.created plan.identity, .made, .removed] := by
  obtain ⟨middle, found, phases, gone, marks⟩ := marks_of_conduct run passed
  have counts := marks_protected ((protectedPhases plan limits).shows_historyIn Mark.view
    (.inMemory connect launch tag) (begun plan world))
  -- the phases delete no thing, so it is there after them exactly when they made it
  have opens := (protects_of_shows ((protectedPhases plan limits).shows_historyIn Errand.view
    (.inMemory connect launch tag) (begun plan world))).opens
  have serves := serves_run connect launch tag (protectedPhases plan limits) (begun plan world)
  have there := serves.2.exists_iff
    (fun errand inside => (opens.onlyDiscards errand inside).ne rfl ⟨nofun, nofun⟩) plan.identity
  rw [phases] at there serves
  have before : (begun plan world).plane.state.contents.things.get? plan.identity = none := unknown
  rw [before, Mark.created_mem_iff, or_iff_right fun absent => absent rfl] at there
  -- and the cleanup finds it exactly then
  have dismantles := dismantles_of_cleanup
    ((cleanup plan).shows_historyIn Errand.view (.inMemory connect launch tag) middle)
  rw [gone] at dismantles
  have removes := (serves_run connect launch tag (cleanup plan) middle).2
  have absent := dismantles.absent_iff removes (serves.1 ▸ honest)
  rw [marks]
  rcases counts with none | counted
  · rw [none] at there ⊢
    have missing : found = .absent := absent.mpr (not_not.mp fun some => nomatch there.mp some)
    exact .inl (by rw [missing]; rfl)
  · rw [counted] at there ⊢
    have present : found = .removed := by
      cases found with
      | removed => rfl
      | absent => exact absurd (absent.mp rfl) (there.mpr List.mem_cons_self)
    exact .inr (by rw [present]; rfl)

/-! ### Metrics, log and record -/

/-- **Metrics, log and record of a trial agree.** A trial ends with a report, and then its slots, the
metrics it recorded and the events it logged are those of one note on each phase; or it waits for ever
for a call of the phases before the cleanup. In memory, where existence is never denied, a trial whose
cleanup passed counts as many identities made as taken away, if the identity was not there before:
one when it made the thing, and none otherwise. -/
theorem conduct_accounts (plan : Plan) (limits : Limits) :
    (∀ {σ : Type} (host : Host σ) (world : World σ),
      (∃ report last notes samples events,
        (conduct plan limits).runIn host world = (.done report, last) ∧
        last.samples = world.samples ++ samples ∧ last.events = world.events ++ events ∧
        Accounts host plan limits ((conduct plan limits).historyIn host world) report notes samples
          events) ∨
      ((conduct plan limits).runIn host world).1 = .hung ∧
        ∃ request, request.operation ≠ .listPrincipals ∧
          .call request .hang ∈ Errand.view.seen ((conduct plan limits).historyIn host world)) ∧
    ∀ (connect : String → Reply String)
      (launch : Launch → FileSystem → Except String Finish × FileSystem) (tag : Nat → RunTag)
      (world last : World (Interrupted Registry)) (report : Report),
      world.plane.meddling.IsHonest →
      world.plane.state.things.get? plan.identity = none →
      (conduct plan limits).runIn (.inMemory connect launch tag) world = (.done report, last) →
      report.card.cleanup = .passed →
      ∃ samples, last.samples = world.samples ++ samples ∧
        samples.countP (·.metric = .identitiesMade) =
          samples.countP (·.metric = .identitiesRemoved) ∧
        samples.countP (·.metric = .identitiesMade) ≤ 1 ∧
        (samples.countP (·.metric = .identitiesMade) = 1 ↔
          .call (.createThing plan.identity) (.ok ()) ∈ Errand.view.seen
            ((conduct plan limits).historyIn (.inMemory connect launch tag) world)) := by
  refine ⟨fun {σ} host world => ?_, ?_⟩
  · have conducts := conducts_of_shows
      ((conduct plan limits).shows_historyIn Errand.view host world)
    cases run : (conduct plan limits).runIn host world with
    | mk fate last =>
      rw [run] at conducts
      dsimp only at conducts
      cases fate with
      | done report =>
        obtain ⟨notes, samples, events, recorded, logged, accounts⟩ := accounts_agree run
        exact .inl ⟨report, last, notes, samples, events, rfl, recorded, logged, accounts⟩
      | failed fault => exact fault.elim
      | panicked message => exact absurd rfl (conducts.not_panicked message)
      | hung => exact .inr ⟨rfl, conducts.hangs⟩
  · intro connect launch tag world last report honest unknown run passed
    have samples := Action.samples_runIn (.inMemory connect launch tag) (conduct plan limits) world
    rw [run] at samples
    refine ⟨_, samples, ?_⟩
    rw [Mark.countP_made, Mark.countP_removed, Mark.created_mem_iff]
    rcases marks_balance honest unknown run passed with none | counted
    · rw [none]
      exact ⟨rfl, Nat.zero_le 1, iff_of_false nofun nofun⟩
    · rw [counted]
      exact ⟨rfl, Nat.le_refl 1, iff_of_true rfl List.mem_cons_self⟩

/-- A thing whose certificate could not be made is counted, and is taken away. -/
theorem conduct_accounts_uncertified :
    ∃ report last, sampleRun (empty.panickingOn .createCertificate) = (.done report, last) ∧
      report.card.provision.isFailed ∧ report.card.cleanup = .passed ∧
      last.samples.countP (·.metric = .identitiesMade) = 1 ∧
      last.samples.countP (·.metric = .identitiesRemoved) = 1 := by
  have ended : (sampleRun (empty.panickingOn .createCertificate)).1 =
      .done ⟨.jobs, samplePlan.tag, "device-a", ⟨.failed ("panicked: " ++
        "mock control plane panic in CreateKeysAndCertificate for ''"), .notAttempted,
        .notAttempted, .passed⟩, []⟩ := by
    decide +kernel
  have once : (sampleRun (empty.panickingOn .createCertificate)).2.samples.countP
      (·.metric = .identitiesMade) = 1 := by
    decide +kernel
  have calm : (sampleWorld (empty.panickingOn .createCertificate)).plane.meddling.IsCalm :=
    isCalm_sampleWorld (by decide)
  obtain ⟨samples, recorded, balance, -⟩ := (conduct_accounts samplePlan ⟨1, 1, 1⟩).2 .ok
    sampleLaunch (fun _ => samplePlan.tag) (sampleWorld (empty.panickingOn .createCertificate)) _ _
    calm.honest rfl (Prod.ext ended rfl) rfl
  have all : (sampleRun (empty.panickingOn .createCertificate)).2.samples = samples := recorded
  rw [← all, once] at balance
  exact ⟨_, _, Prod.ext ended rfl, rfl, rfl, once, balance.symm⟩

end Trial

end DeviceTrial
