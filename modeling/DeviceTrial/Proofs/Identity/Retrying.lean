/-
**Taking an identity away in several attempts.**

A removal finds the certificates of an identity through the principals of its thing, and it detaches
a principal before it deletes the certificate. So an attempt that fails in between takes the way to
the certificate away, and no later attempt finds it. `Retried` is any number of attempts in which
calls were made to fail, each time others:

* `ServesAll.attached_iff`, `ServesAll.registered_iff` — a principal goes when it is detached, and a
  certificate when it is deleted, whatever else happens;
* `dismantle_retried` — **a last attempt in whose way nothing comes** always succeeds, and it leaves no
  certificate **except those that were detached and not deleted** in the attempts before;
* `retry_leaks` — two attempts that leave a certificate behind.
-/

import DeviceTrial.Proofs.Identity.Erasure
import DeviceTrial.Proofs.Plane.Soundness

namespace DeviceTrial

namespace Errand

/-- That an errand detached a principal from a thing, or found it gone. -/
def Detaches (thing principal : String) (errand : Errand) : Prop :=
  ∃ reply, errand = .call (.detachPrincipal thing principal) reply ∧ reply.IsGone

/-- That an errand deleted a certificate, or found it gone. -/
def Deletes (certificate : String) (errand : Errand) : Prop :=
  ∃ reply, errand = .call (.deleteCertificate certificate) reply ∧ reply.IsGone

theorem detaches_call_iff {thing other principal detached : String} {reply : Reply Unit} :
    Detaches thing principal (.call (.detachPrincipal other detached) reply) ↔
      (thing = other ∧ principal = detached) ∧ reply.IsGone := by
  constructor
  · rintro ⟨_, same, gone⟩
    cases same
    exact ⟨⟨rfl, rfl⟩, gone⟩
  · rintro ⟨⟨rfl, rfl⟩, gone⟩
    exact ⟨reply, rfl, gone⟩

theorem deletes_call_iff {certificate deleted : String} {reply : Reply Unit} :
    Deletes certificate (.call (.deleteCertificate deleted) reply) ↔
      certificate = deleted ∧ reply.IsGone := by
  constructor
  · rintro ⟨_, same, gone⟩
    cases same
    exact ⟨rfl, gone⟩
  · rintro ⟨rfl, gone⟩
    exact ⟨reply, rfl, gone⟩

end Errand

namespace Registry

variable {meddling : Meddling} {registry after : Registry} {thing principal certificate : String}

/-! ### What a call takes away -/

/-- A call that did not do its work took nothing away. -/
theorem Serves.of_not_gone {call : Call} {reply : Reply call.Answer}
    (serves : Serves meddling registry call reply after) (stays : ¬ reply.IsGone) :
    after = registry :=
  serves.of_not_ok fun works => stays (.inl works)

/-- A list of principals changes nothing. -/
theorem Serves.of_listing {reply : Reply (List String)}
    (serves : Serves meddling registry (.listPrincipals thing) reply after) : after = registry := by
  by_cases works : reply.IsOk
  · obtain ⟨principals, rfl⟩ := works
    exact (Serves.listed serves).1
  · exact serves.of_not_ok works

/-- Only a thing without principals is deleted. -/
theorem Serves.bare {reply : Reply Unit}
    (serves : Serves meddling registry (.deleteThing thing) reply after)
    (honest : meddling.IsHonest) (gone : reply.IsGone) : registry.principalsOf thing = [] := by
  obtain ⟨_, -, fulfils⟩ | ⟨rfl, _, -, denies, missing⟩ := serves.of_gone honest rfl gone
  · cases fulfils with
    | thingDeleted found bare =>
      rw [principalsOf, found]
      exact bare
  · rw [principalsOf, (denies.unknownThing rfl missing).2]
    rfl

theorem principalsOf_update (registry : Registry) (other : String)
    (change : RegisteredThing → RegisteredThing) :
    ({ registry with things := registry.things.update other change } : Registry).principalsOf
        thing =
      if thing = other then
        (((registry.things.get? other).map change).map (·.principals)).getD []
      else registry.principalsOf thing := by
  simp only [principalsOf, Table.get?_update]
  split <;> rfl

/-- **A principal stays attached until it is detached.** -/
theorem Serves.attached_iff {call : Call} {reply : Reply call.Answer}
    (serves : Serves meddling registry call reply after) (honest : meddling.IsHonest)
    (takes : call.operation.isTeardown = true) :
    principal ∈ after.principalsOf thing ↔
      principal ∈ registry.principalsOf thing ∧
        ¬ Errand.Detaches thing principal (.call call reply) := by
  -- what detaches nothing changes no principals
  have same : after.principalsOf thing = registry.principalsOf thing →
      (∀ other detached, call = .detachPrincipal other detached → ¬ reply.IsGone) →
      (principal ∈ after.principalsOf thing ↔ principal ∈ registry.principalsOf thing ∧
        ¬ Errand.Detaches thing principal (.call call reply)) := by
    intro kept silent
    rw [kept]
    refine (and_iff_left ?_).symm
    rintro ⟨detachment, made, gone⟩
    cases made
    exact silent _ _ rfl gone
  by_cases gone : reply.IsGone
  · cases call with
    | detachPrincipal other detached =>
      rw [serves.detached honest gone, principalsOf_update, Errand.detaches_call_iff]
      by_cases here : thing = other
      · rw [if_pos here, here, principalsOf]
        cases registry.things.get? other with
        | none => simp
        | some known => simp [gone]
      · rw [if_neg here]
        exact (and_iff_left fun detaches => here detaches.1.1).symm
    | listPrincipals other =>
      refine same ?_ (by rintro _ _ ⟨⟩)
      rw [serves.of_listing]
    | deactivateCertificate other =>
      refine same ?_ (by rintro _ _ ⟨⟩)
      rw [serves.deactivated honest gone]
      rfl
    | deleteCertificate other =>
      refine same ?_ (by rintro _ _ ⟨⟩)
      rw [serves.deleted honest gone]
      rfl
    | deleteThing other =>
      refine same ?_ (by rintro _ _ ⟨⟩)
      have bare := serves.bare honest gone
      rw [serves.thingDeleted honest gone, principalsOf, Table.get?_erase]
      by_cases here : thing = other
      · rw [if_pos here, here, bare]
        rfl
      · rw [if_neg here, principalsOf]
    | _ => cases takes
  · refine same ?_ fun _ _ _ => gone
    rw [serves.of_not_gone gone]

/-- **A certificate stays registered until it is deleted.** -/
theorem Serves.registered_iff {call : Call} {reply : Reply call.Answer}
    (serves : Serves meddling registry call reply after) (honest : meddling.IsHonest)
    (takes : call.operation.isTeardown = true) :
    after.certificates.get? certificate ≠ none ↔
      registry.certificates.get? certificate ≠ none ∧
        ¬ Errand.Deletes certificate (.call call reply) := by
  -- what deletes nothing changes no certificate, or marks one that stays
  have same : (after.certificates.get? certificate ≠ none ↔
        registry.certificates.get? certificate ≠ none) →
      (∀ deleted, call = .deleteCertificate deleted → ¬ reply.IsGone) →
      (after.certificates.get? certificate ≠ none ↔
        registry.certificates.get? certificate ≠ none ∧
          ¬ Errand.Deletes certificate (.call call reply)) := by
    intro kept silent
    rw [kept]
    refine (and_iff_left ?_).symm
    rintro ⟨deletion, made, gone⟩
    cases made
    exact silent _ rfl gone
  by_cases gone : reply.IsGone
  · cases call with
    | detachPrincipal other detached =>
      refine same ?_ (by rintro _ ⟨⟩)
      rw [serves.detached honest gone]
    | listPrincipals other =>
      refine same ?_ (by rintro _ ⟨⟩)
      rw [serves.of_listing]
    | deactivateCertificate other =>
      refine same ?_ (by rintro _ ⟨⟩)
      rw [serves.deactivated honest gone, Ne, Table.get?_update_eq_none_iff]
    | deleteCertificate other =>
      rw [serves.deleted honest gone, Table.get?_erase, Errand.deletes_call_iff]
      by_cases here : certificate = other
      · simp [here, gone]
      · rw [if_neg here]
        exact (and_iff_left fun deletes => here deletes.1).symm
    | deleteThing other =>
      refine same ?_ (by rintro _ ⟨⟩)
      rw [serves.thingDeleted honest gone]
    | _ => cases takes
  · refine same ?_ fun _ _ => gone
    rw [serves.of_not_gone gone]

/-! ### What a run takes away -/

theorem ServesAll.attached_iff {seen : List Errand} (serves : ServesAll meddling registry seen after)
    (honest : meddling.IsHonest) (takes : ∀ errand ∈ seen, errand.IsTeardown)
    (thing principal : String) :
    principal ∈ after.principalsOf thing ↔
      principal ∈ registry.principalsOf thing ∧
        ∀ errand ∈ seen, ¬ errand.Detaches thing principal := by
  induction serves with
  | nil registry => simp
  | call serves rest step =>
    obtain ⟨here, others⟩ := List.forall_mem_cons.mp takes
    rw [step others, serves.attached_iff honest here.of_call, List.forall_mem_cons, and_assoc]
  | other silent rest step =>
    obtain ⟨_, same, -⟩ := takes _ List.mem_cons_self
    cases silent.symm.trans same

theorem ServesAll.registered_iff {seen : List Errand}
    (serves : ServesAll meddling registry seen after) (honest : meddling.IsHonest)
    (takes : ∀ errand ∈ seen, errand.IsTeardown) (certificate : String) :
    after.certificates.get? certificate ≠ none ↔
      registry.certificates.get? certificate ≠ none ∧
        ∀ errand ∈ seen, ¬ errand.Deletes certificate := by
  induction serves with
  | nil registry => simp
  | call serves rest step =>
    obtain ⟨here, others⟩ := List.forall_mem_cons.mp takes
    rw [step others, serves.registered_iff honest here.of_call, List.forall_mem_cons, and_assoc]
  | other silent rest step =>
    obtain ⟨_, same, -⟩ := takes _ List.mem_cons_self
    cases silent.symm.trans same

/-- That two registries have the same things and the same certificates. -/
structure SameIdentities (left right : Registry) : Prop where
  things : left.things = right.things
  certificates : left.certificates = right.certificates

theorem SameIdentities.principalsOf {left right : Registry} (same : left.SameIdentities right)
    (thing : String) : left.principalsOf thing = right.principalsOf thing := by
  rw [Registry.principalsOf, same.things, Registry.principalsOf]

/-- A certificate is left when no principal of the thing names it. -/
theorem registered_dismantled_iff (registry : Registry) (thing certificate : String) :
    (registry.dismantled thing).certificates.get? certificate ≠ none ↔
      registry.certificates.get? certificate ≠ none ∧
        ∀ principal ∈ registry.principalsOf thing, certificateOf? principal ≠ some certificate := by
  have forgotten : ∀ (principals : List String) (certificates : Table String RegisteredCertificate),
      (principals.foldl forget certificates).get? certificate ≠ none ↔
        certificates.get? certificate ≠ none ∧
          ∀ principal ∈ principals, certificateOf? principal ≠ some certificate := by
    intro principals
    induction principals with
    | nil => simp
    | cons principal principals step =>
      intro certificates
      rw [List.foldl_cons, step, List.forall_mem_cons, forget]
      cases names : certificateOf? principal with
      | none => simp
      | some other =>
        by_cases here : certificate = other
        · simp [here]
        · simp [Table.get?_erase, here, Ne.symm here]
  exact forgotten _ _

theorem get?_foldl_without (principals : List String) (registry : Registry) (thing : String) :
    (principals.foldl (without thing) registry).things.get? thing = none ↔
      registry.things.get? thing = none := by
  induction principals generalizing registry with
  | nil => exact Iff.rfl
  | cons principal principals step =>
    rw [List.foldl_cons, step, without, Table.get?_update_eq_none_iff]

end Registry

namespace Identity

open Registry

variable {connect : String → Reply String}
  {launch : Launch → FileSystem → Except String Finish × FileSystem} {tag : Nat → RunTag}
  {identity principal certificate : String} {registry last : Registry} {attempts : List (List Errand)}

/-! ### Attempts -/

/-- **Attempts to take an identity away**, with the errands of each. Every attempt finds the things and
certificates as the one before has left them, and its calls fail as they will; only that something
exists is never denied. -/
inductive Retried (connect : String → Reply String)
    (launch : Launch → FileSystem → Except String Finish × FileSystem) (tag : Nat → RunTag)
    (identity : String) : Registry → List (List Errand) → Registry → Prop where
  /-- Nothing was tried. -/
  | never (registry : Registry) : Retried connect launch tag identity registry [] registry
  /-- One attempt, and those after it. -/
  | again {registry last : Registry} {attempts : List (List Errand)}
      {world : World (Interrupted Registry)}
      (finds : world.plane.state.SameIdentities registry)
      (honest : world.plane.meddling.IsHonest)
      (others : Retried connect launch tag identity
        ((dismantle identity).runIn (.inMemory connect launch tag) world).2.plane.state attempts
        last) :
    Retried connect launch tag identity registry
      (Errand.view.seen ((dismantle identity).historyIn (.inMemory connect launch tag) world) ::
        attempts) last

variable (connect launch tag) in
/-- The errands of one attempt, and where they lead. -/
theorem serves_dismantle (identity : String) (world : World (Interrupted Registry)) :
    Dismantles identity
        (Errand.view.seen ((dismantle identity).historyIn (.inMemory connect launch tag) world))
        ((dismantle identity).runIn (.inMemory connect launch tag) world).1 ∧
      ServesAll world.plane.meddling world.plane.state.contents
        (Errand.view.seen ((dismantle identity).historyIn (.inMemory connect launch tag) world))
        ((dismantle identity).runIn (.inMemory connect launch tag) world).2.plane.state.contents :=
  ⟨dismantles_of_shows ((dismantle identity).shows_historyIn Errand.view _ world),
    (serves_run connect launch tag (dismantle identity) world).2⟩

/-- A principal stays attached as long as no attempt detaches it. -/
theorem Retried.attached_iff (retried : Retried connect launch tag identity registry attempts last)
    (principal : String) :
    principal ∈ last.principalsOf identity ↔ principal ∈ registry.principalsOf identity ∧
      ∀ seen ∈ attempts, ∀ errand ∈ seen, ¬ errand.Detaches identity principal := by
  induction retried with
  | never registry => simp
  | @again registry last attempts world finds honest others step =>
    obtain ⟨dismantles, serves⟩ := serves_dismantle connect launch tag identity world
    have attached := serves.attached_iff honest dismantles.teardown identity principal
    rw [step, List.forall_mem_cons, ← and_assoc, ← finds.principalsOf]
    exact and_congr_left fun _ => attached

/-- A certificate stays registered as long as no attempt deletes it. -/
theorem Retried.registered_iff
    (retried : Retried connect launch tag identity registry attempts last) (certificate : String) :
    last.certificates.get? certificate ≠ none ↔ registry.certificates.get? certificate ≠ none ∧
      ∀ seen ∈ attempts, ∀ errand ∈ seen, ¬ errand.Deletes certificate := by
  induction retried with
  | never registry => simp
  | @again registry last attempts world finds honest others step =>
    obtain ⟨dismantles, serves⟩ := serves_dismantle connect launch tag identity world
    have registered := serves.registered_iff honest dismantles.teardown certificate
    rw [step, List.forall_mem_cons, ← and_assoc, ← finds.certificates]
    exact and_congr_left fun _ => registered

/-- A removal that found no fault says that there was no such thing when there was none. -/
theorem Dismantles.absent_iff {meddling : Meddling} {registry after : Registry}
    {seen : List Errand} {removal : Removal}
    (dismantles : Dismantles identity seen (.done removal))
    (serves : ServesAll meddling registry seen after) (honest : meddling.IsHonest) :
    removal = .absent ↔ registry.things.get? identity = none := by
  generalize same : (Fate.done removal : Fate TrialError Removal) = fate at dismantles
  cases dismantles with
  | absent missing =>
    cases same
    obtain ⟨middle, lists, rest⟩ := servesAll_cons_call_iff.mp serves
    refine iff_of_true rfl ?_
    obtain ⟨_, wrong, -⟩ | ⟨rfl, fault, -, denies, unknown⟩ :=
      lists.of_gone honest rfl (.inr ⟨_, rfl, missing⟩)
    · cases wrong
    · exact (denies.unknownThing rfl unknown).2
  | unlisted other => cases same
  | crashed crashes => exact absurd same.symm (crashes.not_done removal)
  | stopped all crashes => exact absurd same.symm (crashes.not_done removal)
  | broken all crashes => exact absurd same.symm (crashes.not_done removal)
  | @finished principals faults errands all outcome =>
    obtain ⟨first, lists, rest⟩ := servesAll_cons_call_iff.mp serves
    obtain ⟨second, removes, last⟩ := servesAll_append_iff.mp rest
    obtain ⟨third, deletes, -⟩ := servesAll_cons_call_iff.mp last
    obtain ⟨rfl, rfl, known, found⟩ := Serves.listed lists
    obtain ⟨rfl, gone⟩ := faultless_of_summedUp same.symm
    have there : ¬ first.things.get? identity = none := by
      rw [found]
      exact Option.some_ne_none _
    -- the thing was there until its deletion, so the deletion did its work
    refine iff_of_false (fun absent => there ?_) there
    rw [← get?_foldl_without (first.principalsOf identity), ← all.serves removes honest]
    obtain ⟨value, works, -⟩ | ⟨rfl, fault, failed, denies, missing⟩ :=
      deletes.of_gone honest rfl gone
    · cases outcome with
      | ok value =>
        cases same
        cases absent
      | error fault => cases works
    · exact (denies.unknownThing rfl missing).2

variable (connect launch tag) in
/-- **A last attempt in whose way nothing comes**, after any number of attempts. It succeeds, and the
thing is gone; a certificate is left exactly when the attempts before detached every principal that
names it and did not delete it. -/
theorem dismantle_retried (identity : String) (registry last : Registry)
    (attempts : List (List Errand))
    (retried : Retried connect launch tag identity registry attempts last)
    (world : World (Interrupted Registry)) (finds : world.plane.state.SameIdentities last)
    (calm : world.plane.meddling.IsCalm) :
    ∃ removal final, (dismantle identity).runIn (.inMemory connect launch tag) world =
        (.done removal, final) ∧
      (removal = .absent ↔ last.things.get? identity = none) ∧
      final.plane.state.things.get? identity = none ∧
      ∀ certificate, final.plane.state.certificates.get? certificate ≠ none ↔
        registry.certificates.get? certificate ≠ none ∧
          (∀ principal ∈ registry.principalsOf identity,
            certificateOf? principal = some certificate →
            ∃ seen ∈ attempts, ∃ errand ∈ seen, errand.Detaches identity principal) ∧
          ∀ seen ∈ attempts, ∀ errand ∈ seen, ¬ errand.Deletes certificate := by
  obtain ⟨dismantles, serves⟩ := serves_dismantle connect launch tag identity world
  obtain ⟨removal, done⟩ := dismantles.undisturbed serves calm
  rw [done] at dismantles
  have gone := dismantles.serves serves calm.honest
  have things : ((dismantle identity).runIn (.inMemory connect launch tag)
      world).2.plane.state.things = world.plane.state.things.erase identity :=
    congrArg Registry.things gone
  refine ⟨removal, _, Prod.ext done rfl, ?_, ?_, fun certificate => ?_⟩
  · rw [dismantles.absent_iff serves calm.honest, ← finds.things]
    rfl
  · rw [things]
    exact Table.get?_erase_self _ _
  · have left := registered_dismantled_iff world.plane.state.contents identity certificate
    rw [← gone] at left
    refine left.trans ?_
    have registered := retried.registered_iff certificate
    rw [← finds.certificates] at registered
    have attached : ∀ principal, principal ∈ world.plane.state.contents.principalsOf identity ↔ _ :=
      fun principal => finds.principalsOf identity ▸ retried.attached_iff principal
    rw [show world.plane.state.contents.certificates = world.plane.state.certificates from rfl,
      registered, and_assoc]
    refine and_congr_right fun _ => ?_
    rw [and_comm]
    refine and_congr_left fun _ => ⟨fun unnamed principal listed names => ?_,
      fun detached principal listed names => ?_⟩
    · by_contra undetached
      have kept : ∀ seen ∈ attempts, ∀ errand ∈ seen, ¬ errand.Detaches identity principal :=
        fun seen tried errand inside detaches => undetached ⟨seen, tried, errand, inside, detaches⟩
      exact unnamed principal ((attached principal).mpr ⟨listed, kept⟩) names
    · obtain ⟨listed, kept⟩ := (attached principal).mp listed
      obtain ⟨seen, tried, errand, inside, detaches⟩ := detached principal listed names
      exact kept seen tried errand inside detaches

/-! ### Attempts to try -/

/-- A registry with one identity. -/
def sampleIdentity : Registry :=
  let made := (Registry.answer .createCertificate (empty.withThing "device-a")).2
  (Registry.answer (.attachPrincipal "device-a" (certificateNumber 1).arn) made).2

theorem reachable_sampleIdentity : Reachable sampleIdentity :=
  .called (.called (.thing .empty "device-a") .createCertificate)
    (.attachPrincipal "device-a" (certificateNumber 1).arn)

/-- A world with a registry to which calls are made to fail. -/
def attemptWorld (registry : Registry) (injections : List Injection) :
    World (Interrupted Registry) :=
  .start (.start registry injections) ⟨Table.empty⟩

/-- A host on which no process can be started. -/
abbrev attemptHost : Host (Interrupted Registry) :=
  .inMemory .ok (fun _ files => (.error "", files)) fun _ => ⟨"a", isTag_a⟩

/-- One attempt to take the identity away. -/
def sampleAttempt (registry : Registry) (injections : List Injection) :
    Fate TrialError Removal × World (Interrupted Registry) :=
  (dismantle "device-a").runIn attemptHost (attemptWorld registry injections)

/-- The first call that deactivates a certificate fails. -/
def undeactivated : List Injection :=
  [⟨.deactivateCertificate, some 1, .fault (.refused "UpdateCertificate" "throttled")⟩]

/-- What the attempt leaves in which the certificate cannot be deactivated. -/
def afterFailure : Registry := (sampleAttempt sampleIdentity undeactivated).2.plane.state

/-- Only what was injected comes in the way of calls to a registry that was not sabotaged. -/
theorem exists_injection_of_meddling {registry : Registry} {injections : List Injection}
    {operation : Operation} {interruption : Interruption} (failing : registry.failing = [])
    (panicking : registry.panicking = [])
    (meddles : (attemptWorld registry injections).plane.meddling operation interruption) :
    ∃ injection ∈ injections, injection.operation = operation ∧
      injection.interruption = interruption := by
  rcases meddles with found | ⟨fails, -⟩ | ⟨panics, -⟩
  · exact found
  · rw [show (attemptWorld registry injections).plane.state.failing = [] from failing] at fails
    cases fails
  · rw [show (attemptWorld registry injections).plane.state.panicking = [] from panicking]
      at panics
    cases panics

theorem honest_undeactivated :
    (attemptWorld sampleIdentity undeactivated).plane.meddling.IsHonest := by
  intro operation fault meddles _
  obtain ⟨injection, inside, rfl, same⟩ := exists_injection_of_meddling rfl rfl meddles
  cases List.mem_singleton.mp inside
  cases same
  rfl

theorem calm_afterFailure : (attemptWorld afterFailure []).plane.meddling.IsCalm := by
  have spared : afterFailure.failing = [] ∧ afterFailure.panicking = [] := by decide +kernel
  intro operation interruption meddles
  obtain ⟨injection, inside, -⟩ := exists_injection_of_meddling spared.1 spared.2 meddles
  cases inside

/-- The certificate that is left was detached by the first attempt, which did not delete it. -/
theorem retried_undeactivated :
    ∃ final, sampleAttempt afterFailure [] = (.done .absent, final) ∧
      final.plane.state.things.get? "device-a" = none ∧
      final.plane.state.certificates.get? (Registry.certificateId 1) ≠ none ∧
      ∃ errand ∈ Errand.view.seen ((dismantle "device-a").historyIn attemptHost
          (attemptWorld sampleIdentity undeactivated)),
        errand.Detaches "device-a" (arnOf (Registry.certificateId 1)) := by
  obtain ⟨removal, final, run, absent, gone, left⟩ :=
    dismantle_retried .ok (fun _ files => (.error "", files)) (fun _ => ⟨"a", isTag_a⟩)
      "device-a" sampleIdentity afterFailure _ (.again ⟨rfl, rfl⟩ honest_undeactivated (.never _))
      (attemptWorld afterFailure []) ⟨rfl, rfl⟩ calm_afterFailure
  have missing : afterFailure.things.get? "device-a" = none := by decide +kernel
  have stays : (sampleAttempt afterFailure []).2.plane.state.certificates.get?
      (Registry.certificateId 1) ≠ none := by decide +kernel
  have attached : arnOf (Registry.certificateId 1) ∈ sampleIdentity.principalsOf "device-a" := by
    decide +kernel
  rw [show sampleAttempt afterFailure [] = _ from run] at stays
  obtain ⟨-, detached, -⟩ := (left _).mp stays
  obtain ⟨seen, tried, errand, inside, detaches⟩ := detached _ attached
    (certificateOf?_arnOf (isEmpty_certificateId 1))
  cases List.mem_singleton.mp tried
  cases absent.mpr missing
  exact ⟨final, run, gone, stays, errand, inside, detaches⟩

/-- **Two attempts that leave a certificate behind.** The second has no way to it any more, and says
that there is nothing to be taken away. -/
theorem retry_leaks :
    Reachable sampleIdentity ∧
      (sampleAttempt sampleIdentity undeactivated).1 = .failed (.cleanupFailed "device-a"
        ("1 step(s) failed: " ++ arnOf (Registry.certificateId 1) ++
          ": UpdateCertificate failed: throttled")) ∧
      (sampleAttempt afterFailure []).1 = .done .absent ∧
      (sampleAttempt afterFailure []).2.plane.state.certificates.get? (Registry.certificateId 1) =
        some ⟨arnOf (Registry.certificateId 1), true, []⟩ := by
  refine ⟨reachable_sampleIdentity, ?_⟩
  decide +kernel

end Identity

end DeviceTrial
