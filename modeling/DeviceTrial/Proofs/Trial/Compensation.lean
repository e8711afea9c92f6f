/-
**What a trial leaves in the control plane.**

A trial takes away what it made. When its identity was not registered before and nothing comes in
the way of taking away, its run ends with a report, whatever else fails or breaks down; and unless
the control plane crashes when the new certificate is to be attached, everything is as it was:

* `conduct_restores` — **errors are compensated exactly**: things, certificates, secrets, jobs and
  shadows are those of before, and the cleanup passed;
* `conduct_contains_iff` — under breakdowns the thing is gone in any case, and the certificate is
  gone **exactly when its attachment did not break down**;
* `attachment_breakdown_leaks` — a run that leaves its certificate behind.
-/

import DeviceTrial.Proofs.Identity.Residue
import DeviceTrial.Proofs.Trial.Protocol

namespace DeviceTrial

namespace Meddling

/-- That calls are made to fail, and nothing else. -/
def OnlyFails (meddling : Meddling) : Prop :=
  ∀ operation interruption, meddling operation interruption → ∃ fault, interruption = .fault fault

end Meddling

namespace Registry

/-- That two registries differ at most in their certificates. -/
structure SameBesides (left right : Registry) : Prop where
  things : left.things = right.things
  secrets : left.secrets = right.secrets
  jobs : left.jobs = right.jobs
  shadows : left.shadows = right.shadows

variable {meddling : Meddling} {registry after : Registry} {thing : String}

/-- **What is left is taken away exactly.** -/
theorem Leaves.dismantled (leaves : registry.Leaves thing after) (sound : registry.IsSound)
    (unknown : registry.things.get? thing = none) :
    (after.dismantled thing).SameBesides registry ∧
      (after.dismantled thing).certificates = registry.certificates := by
  have erased : ∀ known, (registry.things.insert thing known).erase thing = registry.things :=
    Table.erase_insert unknown
  cases leaves with
  | nothing =>
    refine ⟨⟨Table.erase_of_get?_eq_none unknown, rfl, rfl, rfl⟩, ?_⟩
    simp [Registry.dismantled, principalsOf, unknown]
  | bare =>
    refine ⟨⟨erased _, rfl, rfl, rfl⟩, ?_⟩
    simp [Registry.dismantled, principalsOf, withThing, RegisteredThing.bare]
  | equipped policies groups =>
    refine ⟨⟨erased _, rfl, rfl, rfl⟩, ?_⟩
    have names : certificateOf? (arnOf registry.nextId) = some registry.nextId :=
      certificateOf?_arnOf (isEmpty_certificateId _)
    simp only [Registry.dismantled, principalsOf, withIdentity, withCertificate,
      Table.get?_insert_self, Option.map_some, Option.getD_some, List.foldl_cons, List.foldl_nil,
      forget, names]
    exact Table.erase_insert sound.fresh _
  | discarded =>
    refine ⟨⟨erased _, rfl, rfl, rfl⟩, ?_⟩
    simp [Registry.dismantled, principalsOf, withThing, RegisteredThing.bare]

/-- A certificate that is attached to nothing stays. -/
theorem dismantled_loose (unknown : registry.things.get? thing = none) :
    ((registry.loose thing).dismantled thing).SameBesides registry ∧
      ((registry.loose thing).dismantled thing).certificates.get? registry.nextId =
        some ⟨arnOf registry.nextId, true, []⟩ := by
  refine ⟨⟨Table.erase_insert unknown _, rfl, rfl, rfl⟩, ?_⟩
  simp [Registry.dismantled, principalsOf, loose, withThing, withCertificate,
    RegisteredThing.bare]

end Registry

namespace Trial

open Registry

variable {plan : Plan} {limits : Limits} {meddling : Meddling} {registry after : Registry}
  {seen : List Errand}

/-- What is left after the identity was made and then only looked at. -/
theorem Making.leaves {making rest : List Errand} (made : Making plan making)
    (reading : ∀ errand ∈ rest, errand.IsReading) (sound : registry.IsSound)
    (unknown : registry.things.get? plan.identity = none)
    (serves : ServesAll meddling registry (making ++ rest) after) :
    registry.Leaves plan.identity after ∧
      ∀ errand ∈ making ++ rest, ¬ Identity.IsCrashedAttachment errand := by
  obtain ⟨middle, makes, looks⟩ := servesAll_append_iff.mp serves
  cases looks.of_reading reading
  constructor
  · cases made with
    | skipped unwanted =>
      cases makes
      exact .nothing
    | made wanted names certificate => exact Identity.leaves_of_made names sound unknown makes
  · intro errand inside crashed
    rcases List.mem_append.mp inside with inside | inside
    · exact Identity.uncrashed_of_succeeds made.succeeds errand inside crashed
    · cases reading errand inside _ (Identity.operation_of_crashed crashed)

/-- **What the phases leave.** -/
theorem Protects.leaves {fate : Fate Empty Progress} (protects : Protects plan limits seen fate)
    (sound : registry.IsSound) (unknown : registry.things.get? plan.identity = none)
    (calm : meddling.IsCalm) (serves : ServesAll meddling registry seen after) :
    (registry.Leaves plan.identity after ∧
        ∀ errand ∈ seen, ¬ Identity.IsCrashedAttachment errand) ∨
      Identity.Strands registry plan.identity seen after := by
  cases protects with
  | unprovisioned wanted establishes unmade => exact establishes.leaves sound unknown calm serves
  | unpassed made meant breaks bad =>
    have reading := Errand.Follows.reading (.inr breaks) meant.reading
    exact .inl (made.leaves reading sound unknown serves)
  | undriven made meant breaks halts =>
    have reading := Errand.Follows.reading (.inr breaks) meant.reading
    exact .inl (made.leaves reading sound unknown serves)
  | @verified making driving asked _ made drives verifies =>
    have reading := List.forall_mem_append.mpr ⟨drives.reading, verifies.reading⟩
    exact .inl (made.leaves reading sound unknown serves)

/-- **What a trial leaves**, with the end of its run. -/
theorem Conducts.leaves {fate : Fate Empty Report} (conducts : Conducts plan limits seen fate)
    (sound : registry.IsSound) (unknown : registry.things.get? plan.identity = none)
    (calm : meddling.IsCalm) (returns : meddling.NeverHangs)
    (serves : ServesAll meddling registry seen after) :
    ∃ report, fate = .done report ∧ report.card.cleanup = .passed ∧
      after.SameBesides registry ∧
      ((after.certificates = registry.certificates ∧
          ∀ errand ∈ seen, ¬ Identity.IsCrashedAttachment errand) ∨
        after.certificates.get? registry.nextId = some ⟨arnOf registry.nextId, true, []⟩ ∧
          .call .createCertificate (.ok (certificateNumber (registry.issued + 1))) ∈ seen ∧
          ∃ errand ∈ seen, Identity.IsCrashedAttachment errand) := by
  cases conducts with
  | hung protects =>
    obtain ⟨request, waits⟩ := protects.hangs
    exact absurd waits (serves.comes_back returns request)
  | @concluded first rest progress _ protects dismantles =>
    obtain ⟨middle, opens, closes⟩ := servesAll_append_iff.mp serves
    obtain ⟨removal, rfl⟩ := dismantles.undisturbed closes calm
    obtain rfl := dismantles.serves closes calm.honest
    refine ⟨_, rfl, rfl, ?_⟩
    -- the closing attaches nothing
    have detaching : ∀ errand ∈ rest, ¬ Identity.IsCrashedAttachment errand := by
      obtain ⟨reply, others, rfl, takes⟩ := dismantles.starts
      intro errand inside crashed
      have attaches := Identity.operation_of_crashed crashed
      rcases List.mem_cons.mp inside with rfl | inside
      · cases attaches
      · obtain ⟨operation, same, teardown, -⟩ := takes errand inside
        rw [attaches] at same
        cases same
        cases teardown
    rcases protects.leaves sound unknown calm opens with
      ⟨leaves, sane⟩ | ⟨rfl, created, errand, inside, crashed⟩
    · obtain ⟨same, certificates⟩ := leaves.dismantled sound unknown
      exact ⟨same, .inl ⟨certificates, List.forall_mem_append.mpr ⟨sane, detaching⟩⟩⟩
    · obtain ⟨same, stays⟩ := dismantled_loose unknown
      exact ⟨same, .inr ⟨stays, List.mem_append_left _ created, errand,
        List.mem_append_left _ inside, crashed⟩⟩

/-! ### Runs -/

section InMemory

variable {connect : String → Reply String}
  {launch : Launch → FileSystem → Except String Finish × FileSystem} {tag : Nat → RunTag}
  {world : World (Interrupted Registry)}

/-- A crashed attachment was a breakdown that was asked for. -/
theorem panics_of_crashed (returns : meddling.NeverHangs)
    (serves : ServesAll meddling registry seen after) {errand : Errand} (inside : errand ∈ seen)
    (crashed : Identity.IsCrashedAttachment errand) :
    ∃ message, meddling .attachPrincipal (.panic message) := by
  obtain ⟨_, _, reply, crash, rfl⟩ := crashed
  obtain ⟨interruption, meddles, rfl⟩ := serves.meddled crash inside
  cases interruption with
  | fault fault => cases crash
  | panic message => exact ⟨message, meddles⟩
  | hang => exact absurd meddles (returns _)

variable (connect launch tag) in
/-- What a trial leaves that is run against a registry. -/
theorem conduct_leaves (plan : Plan) (limits : Limits)
    (reachable : Reachable world.plane.state)
    (unknown : world.plane.state.things.get? plan.identity = none)
    (calm : world.plane.meddling.IsCalm) (returns : world.plane.meddling.NeverHangs) :
    ∃ report last seen, (conduct plan limits).runIn (.inMemory connect launch tag) world =
        (.done report, last) ∧
      Errand.view.seen ((conduct plan limits).historyIn (.inMemory connect launch tag) world) =
        seen ∧
      report.card.cleanup = .passed ∧
      last.plane.state.contents.SameBesides world.plane.state.contents ∧
      ServesAll world.plane.meddling world.plane.state.contents seen last.plane.state.contents ∧
      ((last.plane.state.certificates = world.plane.state.certificates ∧
          ∀ errand ∈ seen, ¬ Identity.IsCrashedAttachment errand) ∨
        ∃ certificate, .call .createCertificate (.ok certificate) ∈ seen ∧
          last.plane.state.certificates.get? certificate.id ≠ none ∧
          ∃ errand ∈ seen, Identity.IsCrashedAttachment errand) := by
  have conducts := conducts_of_shows ((conduct plan limits).shows_historyIn Errand.view
    (.inMemory connect launch tag) world)
  have serves := (serves_run connect launch tag (conduct plan limits) world).2
  have sound : world.plane.state.contents.IsSound :=
    (isSound_of_reachable reachable).of_same rfl rfl
  obtain ⟨report, done, passed, same, ⟨certificates, sane⟩ | ⟨stays, created, crashed⟩⟩ :=
    conducts.leaves sound unknown calm returns serves
  · exact ⟨report, _, _, Prod.ext done rfl, rfl, passed, same, serves,
      .inl ⟨certificates, sane⟩⟩
  · refine ⟨report, _, _, Prod.ext done rfl, rfl, passed, same, serves,
      .inr ⟨_, created, fun gone => ?_, crashed⟩⟩
    cases stays.symm.trans gone

/-! ### A plan to try -/

/-- A plan of the family `jobs` with a certificate of its own. -/
def samplePlan : Plan where
  family := .jobs
  tag := ⟨"a", isTag_a⟩
  identity := "device-a"
  region := "eu-central-1"
  descriptor := ⟨"/trial.json"⟩
  provisioning := some ⟨.name "policy", ⟨⟨"/cert.pem"⟩, ⟨"/key.pem"⟩⟩, some "devices"⟩
  expectation := .thingExists

/-- A world with the descriptor of the plan, in which nothing has happened yet. -/
def sampleWorld (registry : Registry) : World (Interrupted Registry) :=
  .start (.start registry [])
    ((FileSystem.mk Table.empty).put ["trial.json"] (.file "[\"\",\"x\"]".toUTF8 false))

/-- Every process comes to a good end. -/
def sampleLaunch (_ : Launch) (files : FileSystem) : Except String Finish × FileSystem :=
  (.ok ⟨.empty, .empty, [], .exited 0⟩, files)

/-- The host of the plan. -/
abbrev sampleHost : Host (Interrupted Registry) :=
  .inMemory .ok sampleLaunch fun _ => samplePlan.tag

/-- The run of the plan. -/
def sampleRun (registry : Registry) : Fate Empty Report × World (Interrupted Registry) :=
  (conduct samplePlan ⟨1, 1, 1⟩).runIn sampleHost (sampleWorld registry)

theorem meddling_sampleWorld (registry : Registry) (operation : Operation)
    (interruption : Interruption) :
    (sampleWorld registry).plane.meddling operation interruption ↔
      (operation ∈ registry.failing ∧ ∃ reason, interruption = .fault (.refused "mock" reason)) ∨
        operation ∈ registry.panicking ∧ ∃ message, interruption = .panic message := by
  simp [Interrupted.meddling, sampleWorld, World.start, Interrupted.start]

/-- Nothing comes in the way of taking away when no such call was made to fail or to break down. -/
theorem isCalm_sampleWorld {registry : Registry}
    (spared : ∀ operation ∈ registry.failing ++ registry.panicking,
      operation.isTeardown = false) : (sampleWorld registry).plane.meddling.IsCalm := by
  intro operation interruption meddles
  rw [meddling_sampleWorld] at meddles
  exact spared operation (List.mem_append.mpr (meddles.imp And.left And.left))

theorem neverHangs_sampleWorld (registry : Registry) :
    (sampleWorld registry).plane.meddling.NeverHangs := by
  intro operation hangs
  rcases (meddling_sampleWorld _ _ _).mp hangs with ⟨-, reason, wrong⟩ | ⟨-, message, wrong⟩
  · cases wrong
  · cases wrong

variable (connect launch tag world) in
/-- **Errors are compensated exactly.** -/
theorem conduct_restores (plan : Plan) (limits : Limits)
    (reachable : Reachable world.plane.state)
    (unknown : world.plane.state.things.get? plan.identity = none)
    (calm : world.plane.meddling.IsCalm) (fails : world.plane.meddling.OnlyFails) :
    ∃ report last, (conduct plan limits).runIn (.inMemory connect launch tag) world =
        (.done report, last) ∧
      report.card.cleanup = .passed ∧
      last.plane.state.things = world.plane.state.things ∧
      last.plane.state.certificates = world.plane.state.certificates ∧
      last.plane.state.secrets = world.plane.state.secrets ∧
      last.plane.state.jobs = world.plane.state.jobs ∧
      last.plane.state.shadows = world.plane.state.shadows := by
  have returns : world.plane.meddling.NeverHangs := by
    intro operation hangs
    obtain ⟨fault, same⟩ := fails operation _ hangs
    cases same
  obtain ⟨report, last, seen, run, -, passed, same, serves,
    ⟨certificates, -⟩ | ⟨_, -, -, errand, inside, crashed⟩⟩ :=
      conduct_leaves connect launch tag plan limits reachable unknown calm returns
  · exact ⟨report, last, run, passed, same.things, certificates, same.secrets, same.jobs,
      same.shadows⟩
  · obtain ⟨message, panics⟩ := panics_of_crashed returns serves inside crashed
    obtain ⟨fault, wrong⟩ := fails _ _ panics
    cases wrong

/-- The policy of the new certificate is refused. -/
theorem conduct_restores_refused_policy :
    ∃ last, sampleRun (empty.failingOn .attachPolicy) =
        (.done ⟨.jobs, samplePlan.tag, "device-a",
          ⟨.failed ("provisioning of 'device-a' failed: attach policy: " ++
            "mock failed: injected failure in AttachPolicy for 'policy'"),
            .notAttempted, .notAttempted, .passed⟩, []⟩, last) ∧
      last.plane.state.things = Table.empty ∧ last.plane.state.certificates = Table.empty := by
  have fails : (sampleWorld (empty.failingOn .attachPolicy)).plane.meddling.OnlyFails := by
    intro operation interruption meddles
    rcases (meddling_sampleWorld _ _ _).mp meddles with ⟨-, reason, rfl⟩ | ⟨panics, -⟩
    · exact ⟨_, rfl⟩
    · cases panics
  obtain ⟨report, last, run, -, things, certificates, -⟩ :=
    conduct_restores .ok sampleLaunch (fun _ => samplePlan.tag)
      (sampleWorld (empty.failingOn .attachPolicy)) samplePlan ⟨1, 1, 1⟩
      (.failing .empty .attachPolicy) rfl (isCalm_sampleWorld (by decide)) fails
  have ended : (sampleRun (empty.failingOn .attachPolicy)).1 =
      .done ⟨.jobs, samplePlan.tag, "device-a",
        ⟨.failed ("provisioning of 'device-a' failed: attach policy: " ++
          "mock failed: injected failure in AttachPolicy for 'policy'"),
          .notAttempted, .notAttempted, .passed⟩, []⟩ := by
    decide +kernel
  cases (congrArg Prod.fst run).symm.trans ended
  exact ⟨last, run, things, certificates⟩

variable (connect launch tag world) in
/-- **Breakdowns leave no thing**, and they leave a certificate exactly when one of them came under
its attachment. -/
theorem conduct_contains_iff (plan : Plan) (limits : Limits)
    (reachable : Reachable world.plane.state)
    (unknown : world.plane.state.things.get? plan.identity = none)
    (calm : world.plane.meddling.IsCalm) (returns : world.plane.meddling.NeverHangs) :
    ∃ report last seen, (conduct plan limits).runIn (.inMemory connect launch tag) world =
        (.done report, last) ∧
      Errand.view.seen ((conduct plan limits).historyIn (.inMemory connect launch tag) world) =
        seen ∧
      last.plane.state.things.get? plan.identity = none ∧
      ((∀ certificate, .call .createCertificate (.ok certificate) ∈ seen →
          last.plane.state.certificates.get? certificate.id = none) ↔
        ∀ errand ∈ seen, ¬ Identity.IsCrashedAttachment errand) ∧
      ∀ errand ∈ seen, Identity.IsCrashedAttachment errand →
        ∃ message, world.plane.meddling .attachPrincipal (.panic message) := by
  obtain ⟨report, last, seen, run, history, -, same, serves, certificates⟩ :=
    conduct_leaves connect launch tag plan limits reachable unknown calm returns
  have absent : last.plane.state.things.get? plan.identity = none := by
    rw [← unknown]
    exact congrArg (fun things => things.get? plan.identity) same.things
  refine ⟨report, last, seen, run, history, absent, ?_,
    fun errand inside crashed => panics_of_crashed returns serves inside crashed⟩
  rcases certificates with ⟨restored, sane⟩ | ⟨certificate, created, stays, errand, inside, crashed⟩
  · refine iff_of_true (fun certificate created => ?_) sane
    -- the certificates from before have smaller numbers
    obtain ⟨n, large, -, rfl⟩ := serves.created created
    rw [restored]
    cases found : world.plane.state.certificates.get? (certificateNumber n).id with
    | none => rfl
    | some known =>
      obtain ⟨m, small, number⟩ := (isSound_of_reachable reachable).numbered found
      rw [certificateId_injective number] at large
      exact absurd small (Nat.not_le_of_lt large)
  · exact iff_of_false (fun gone => stays (gone certificate created))
      fun sane => sane errand inside crashed

/-- The control plane breaks down when the policy is attached. -/
theorem conduct_contains_policy_breakdown :
    ∃ report last, sampleRun (empty.panickingOn .attachPolicy) = (.done report, last) ∧
      last.plane.state.things.get? "device-a" = none ∧ last.plane.state.issued = 1 ∧
      ∀ certificate, .call .createCertificate (.ok certificate) ∈
          Errand.view.seen ((conduct samplePlan ⟨1, 1, 1⟩).historyIn sampleHost
            (sampleWorld (empty.panickingOn .attachPolicy))) →
        last.plane.state.certificates.get? certificate.id = none := by
  obtain ⟨report, last, seen, run, history, absent, contained, causes⟩ :=
    conduct_contains_iff .ok sampleLaunch (fun _ => samplePlan.tag)
      (sampleWorld (empty.panickingOn .attachPolicy)) samplePlan ⟨1, 1, 1⟩
      (.panicking .empty .attachPolicy) rfl (isCalm_sampleWorld (by decide))
      (neverHangs_sampleWorld _)
  have issued : (sampleRun (empty.panickingOn .attachPolicy)).2.plane.state.issued = 1 := by
    decide +kernel
  have same := congrArg (fun outcome => outcome.2.plane.state.issued) run
  refine ⟨report, last, run, absent, same.symm.trans issued, ?_⟩
  rw [history]
  refine contained.mpr fun errand inside crashed => ?_
  obtain ⟨message, meddles⟩ := causes errand inside crashed
  rcases (meddling_sampleWorld _ _ _).mp meddles with ⟨fails, -⟩ | ⟨panics, -⟩
  · cases fails
  · cases List.mem_singleton.mp panics

/-- **The control plane breaks down when the certificate is attached**, and it stays. -/
theorem attachment_breakdown_leaks :
    (sampleRun (empty.panickingOn .attachPrincipal)).1 = .done ⟨.jobs, samplePlan.tag, "device-a",
        ⟨.failed "panicked: mock control plane panic in AttachThingPrincipal for 'device-a'",
          .notAttempted, .notAttempted, .passed⟩, []⟩ ∧
      (sampleRun (empty.panickingOn .attachPrincipal)).2.plane.state.certificates.get?
        (certificateId 1) = some ⟨arnOf (certificateId 1), true, []⟩ := by
  decide +kernel

end InMemory

end Trial

end DeviceTrial
