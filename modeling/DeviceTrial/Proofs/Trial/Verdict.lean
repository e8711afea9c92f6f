/-
**What a good verdict promises.**

The verdict on a trial is read off four slots that the trial wrote itself. `Accomplished` says what
must be true outside of it: the identity was made, the process ended well, the expectation held in
the control plane when it was looked at, and nothing of the identity is left.

* `script_of_good` — phases whose slots are good went through their whole script;
* `holds_of_asking` — a question whose answer is as expected was asked where the expectation holds;
* `accomplished_of_passed` — **no false pass**, whatever fails, breaks down or never comes back.
-/

import DeviceTrial.Proofs.Trial.Compensation

namespace DeviceTrial

namespace Expectation

/-- That an expectation of an identity holds in a registry. -/
def HoldsIn (registry : Registry) (identity : String) : Expectation → Prop
  | thingExists => ∃ known, registry.things.get? identity = some known
  | jobSucceeded secret => ∃ job number, registry.secrets.get? secret = some job ∧
      registry.jobs.get? (job, identity) = some ⟨some succeeded, number⟩
  | shadowReported shadow property expected => ∃ payload document actual,
      registry.shadows.get? (identity, shadow) = some payload ∧
      decodeDocument? payload = some document ∧
      Leads (reportedPath property) document actual ∧ agrees expected actual = true

/-- The call that looks at an expectation of an identity, where secrets are as in a registry. -/
inductive Query (registry : Registry) (identity : String) : Expectation → Call → Prop where
  | thing : Query registry identity .thingExists (.describeThing identity)
  | job {secret job : String} (known : registry.secrets.get? secret = some job) :
    Query registry identity (.jobSucceeded secret) (.describeJob job identity)
  | shadow (name : Option String) (property expected : String) :
    Query registry identity (.shadowReported name property expected) (.fetchShadow identity name)

end Expectation

namespace Trial

open Registry

variable {α σ : Type} {plan : Plan} {limits : Limits} {seen : List Errand}

/-- What a good verdict promises, of the run of a trial from one world to another. -/
structure Accomplished (host : Host (Interrupted Registry)) (plan : Plan) (limits : Limits)
    (world last : World (Interrupted Registry)) : Prop where
  /-- The identity was made, if the plan wants one. -/
  made : ∀ provisioning, plan.provisioning = some provisioning →
    ∃ identity, ((provision plan provisioning).runIn host (begun plan world)).1 = .done identity
  /-- The process of the plan's descriptor ended with code zero, before its time ran out. -/
  drove : ∃ text descriptor texts finish,
    .reading plan.descriptor (.ok text) ∈
        Errand.view.seen ((conduct plan limits).historyIn host world) ∧
      Descriptor.read text = .ok descriptor ∧
      .process (Drive.launchWith descriptor plan.bindings limits.timeout texts) (.ok finish) ∈
        Errand.view.seen ((conduct plan limits).historyIn host world) ∧
      finish.ending = .exited 0
  /-- What was expected held when it was looked at. -/
  held : ∃ moment ∈ (conduct plan limits).historyIn host world, ∃ query,
    moment.effect = .call query ∧
      plan.expectation.Query moment.before.plane.state plan.identity query ∧
      plan.expectation.HoldsIn moment.before.plane.state plan.identity
  /-- The thing is gone. -/
  absent : last.plane.state.things.get? plan.identity = none
  /-- The certificates that were made are gone. -/
  created : ∀ certificate, .call .createCertificate (.ok certificate) ∈
      Errand.view.seen ((conduct plan limits).historyIn host world) →
    last.plane.state.certificates.get? certificate.id = none
  /-- The certificates that were attached to the thing when the cleanup began are gone. -/
  attached : ∃ moment ∈ (conduct plan limits).historyIn host world,
    moment.effect = .call (.listPrincipals plan.identity) ∧
      ∀ principal ∈ moment.before.plane.state.principalsOf plan.identity, ∀ certificate,
        certificateOf? principal = some certificate →
          last.plane.state.certificates.get? certificate = none

/-! ### Slots -/

/-- A phase that came to an end did its work, or its slot is that of a failure. -/
theorem worked_of_phase {host : Host σ} {world : World σ} {phase : Phase}
    {work : Action TrialError α} {progress last : Progress}
    {next : Progress → TrialAction Progress} (running : progress.card.pending? = some phase)
    (run : ((Trial.phase plan phase work progress next).runIn host world).1 = .done last) :
    (∃ value, (work.runIn host world).1 = .done value) ∨
      ∃ reason, last = progress.write phase (.failed reason) := by
  rcases phase_of_runIn running run with ⟨-, ⟨value, _, works, -⟩ | ends⟩
  · exact .inl ⟨value, works⟩
  · cases fate : (work.runIn host world).1 with
    | done value => exact .inl ⟨value, rfl⟩
    | failed fault =>
      rw [fate] at ends
      cases ends
      exact .inr ⟨_, rfl⟩
    | panicked message =>
      rw [fate] at ends
      cases ends
      exact .inr ⟨_, rfl⟩
    | hung =>
      rw [fate] at ends
      cases ends

/-- A phase whose slot is good came to its end. -/
theorem done_of_ended {progress last : Progress} {phase : Phase} {stop : Fate TrialError α}
    (ends : ended progress phase stop = .done last)
    (good : (last.card.get phase).isGood = true) : ∃ value, stop = .done value := by
  have unfailed : ∀ reason,
      ended progress phase stop ≠ .done (progress.write phase (.failed reason)) := by
    intro reason same
    rw [ends] at same
    cases same
    rw [Progress.write, Scorecard.get_set_self] at good
    cases good
  cases stop with
  | done value => exact ⟨value, rfl⟩
  | failed fault => exact absurd rfl (unfailed _)
  | panicked message => exact absurd rfl (unfailed _)
  | hung => cases ends

/-- **Phases whose slots are good went through their whole script.** -/
theorem script_of_good {progress : Progress} (protects : Protects plan limits seen (.done progress))
    (good : ∀ phase ≠ .cleanup, (progress.card.get phase).isGood = true) :
    ∃ making driving asked, Making plan making ∧
      Drive.Driving plan.descriptor plan.bindings limits.timeout driving ∧
      Verification.Asking plan.identity plan.expectation asked (.ok ()) ∧
      seen = making ++ (driving ++ asked) := by
  generalize same : (Fate.done progress : Fate Empty Progress) = fate at protects
  cases protects with
  | unprovisioned wanted establishes unmade =>
    obtain ⟨identity, rfl⟩ := done_of_ended same.symm (good .provision nofun)
    exact absurd rfl (unmade identity)
  | unpassed made meant breaks bad =>
    cases same
    cases good .drive nofun
  | undriven made meant breaks halts =>
    obtain ⟨report, rfl⟩ := done_of_ended same.symm (good .drive nofun)
    cases halts
  | verified made drives verifies =>
    obtain ⟨_, rfl⟩ := done_of_ended same.symm (good .verify nofun)
    generalize passed : (Fate.done () : Fate TrialError Unit) = stop at verifies
    cases verifies with
    | @judged judgement asking =>
      cases judgement with
      | ok value => exact ⟨_, _, _, made, drives, asking, rfl⟩
      | error found => cases passed
    | broken meant breaks halts =>
      rw [← passed] at halts
      cases halts

/-- A cleanup whose slot is good removed the identity. -/
theorem removed_of_good {removal : Fate TrialError Removal}
    (good : (cleanupSlot plan limits removal.limited).isGood = true) :
    ∃ found, removal = .done found := by
  cases removal with
  | done found => exact ⟨found, rfl⟩
  | failed fault => cases good
  | panicked message => cases good
  | hung => cases good

/-! ### The question -/

section InMemory

variable {connect : String → Reply String}
  {launch : Launch → FileSystem → Except String Finish × FileSystem} {tag : Nat → RunTag}
  {world : World (Interrupted Registry)}

/-- **A question whose answer is as expected was asked where the expectation holds.** -/
theorem holds_of_asking {ε : Type} {action : Action ε α} {identity : String}
    {expectation : Expectation} {front asked : List Errand}
    (asking : Verification.Asking identity expectation asked (.ok ()))
    (split : Errand.view.seen (action.historyIn (.inMemory connect launch tag) world) =
      front ++ asked) :
    ∃ moment ∈ action.historyIn (.inMemory connect launch tag) world, ∃ query,
      moment.effect = .call query ∧
        expectation.Query moment.before.plane.state identity query ∧
        expectation.HoldsIn moment.before.plane.state identity := by
  generalize same : (Except.ok () : Except Discrepancy Unit) = judgement at asking
  cases asking with
  | thing known =>
    obtain ⟨moment, inside, effect, -, after, serves⟩ := exists_moment_of_call split
    have registered := Serves.described serves
    exact ⟨moment, inside, _, effect, .thing, registered⟩
  | job secret job execution =>
    rw [List.append_cons] at split
    obtain ⟨moment, inside, effect, earlier, after, serves⟩ := exists_moment_of_call split
    obtain ⟨number, rfl⟩ := (judgeJob_eq_ok_iff execution).mp same.symm
    -- the secret was read before, and reading changed nothing
    obtain ⟨middle, -, reads⟩ := servesAll_append_iff.mp earlier
    obtain ⟨_, reads, none⟩ := servesAll_cons_call_iff.mp reads
    cases none
    have known := Serves.told reads
    rw [← reads.of_reading rfl] at known
    have executed := Serves.executed serves
    exact ⟨moment, inside, _, effect, .job known, job, number, known, executed⟩
  | shadow name property expected payload =>
    obtain ⟨moment, inside, effect, -, after, serves⟩ := exists_moment_of_call split
    obtain ⟨document, actual, met⟩ :=
      (judgeShadow_eq_ok_iff payload property expected).mp same.symm
    have fetched := Serves.fetched serves
    exact ⟨moment, inside, _, effect, .shadow name property expected, payload, document, actual,
      fetched, met⟩

/-! ### Certificates -/

/-- The certificates that a trial made are attached to the thing when its cleanup begins. -/
theorem created_gone {meddling : Meddling} {registry middle : Registry}
    {making rest closing : List Errand} {removal : Fate TrialError Removal}
    (made : Making plan making) (reading : ∀ errand ∈ rest, errand.IsReading)
    (dismantles : Identity.Dismantles plan.identity closing removal)
    (serves : ServesAll meddling registry (making ++ rest) middle) {certificate : Certificate}
    (created : .call .createCertificate (.ok certificate) ∈ making ++ rest ++ closing) :
    (middle.dismantled plan.identity).certificates.get? certificate.id = none := by
  obtain ⟨one, makes, looks⟩ := servesAll_append_iff.mp serves
  cases looks.of_reading reading
  -- neither looking nor taking away makes a certificate
  have inside : .call .createCertificate (.ok certificate) ∈ making := by
    rcases List.mem_append.mp created with created | late
    · rcases List.mem_append.mp created with early | later
      · exact early
      · cases (Errand.isReading_call_iff _ _).mp (reading _ later)
    · obtain ⟨reply, others, rfl, takes⟩ := dismantles.starts
      rcases List.mem_cons.mp late with wrong | late
      · cases wrong
      · obtain ⟨_, same, teardown, -⟩ := takes _ late
        cases same
        cases teardown
  obtain ⟨n, -, -, rfl⟩ := makes.created inside
  have attached : (certificateNumber n).arn ∈ middle.principalsOf plan.identity := by
    cases made with
    | skipped unwanted => cases inside
    | @made provisioning wanted naming policy names certificate =>
      rw [Identity.created_of_making names inside]
      exact Identity.attached_of_making makes
  exact get?_dismantled attached (certificateOf?_arnOf (isEmpty_certificateId n))

/-- Of the certificates that were attached when the cleanup began none is left. -/
theorem attached_gone {ε : Type} {action : Action ε α} {identity : String}
    {removal : Fate TrialError Removal}
    (dismantles : Identity.Dismantles identity
      (Errand.view.seen (action.historyIn (.inMemory connect launch tag) world)) removal) :
    ∃ moment ∈ action.historyIn (.inMemory connect launch tag) world,
      moment.effect = .call (.listPrincipals identity) ∧
        ∀ principal ∈ moment.before.plane.state.principalsOf identity, ∀ certificate,
          certificateOf? principal = some certificate →
            (world.plane.state.dismantled identity).certificates.get? certificate = none := by
  obtain ⟨reply, others, lists, -⟩ := dismantles.starts
  obtain ⟨moment, inside, asks, stays, -⟩ :=
    exists_moment_of_call (lists.trans (List.nil_append _).symm)
  refine ⟨moment, inside, asks, fun principal attached certificate names => ?_⟩
  have listed : principal ∈ moment.before.plane.state.contents.principalsOf identity := attached
  rw [stays.of_reading nofun] at listed
  exact get?_dismantled listed names

/-! ### Runs -/

/-- The run of a trial with a report is that of its phases and then that of its cleanup. -/
theorem exists_progress {host : Host σ} {world last : World σ} {report : Report}
    (run : (conduct plan limits).runIn host world = (.done report, last)) :
    ∃ progress middle,
      (protectedPhases plan limits).runIn host (begun plan world) = (.done progress, middle) ∧
      (cleanupPhase plan limits progress >>= conclude plan).runIn host middle =
        (.done report, last) ∧
      Errand.view.seen ((conduct plan limits).historyIn host world) =
        Errand.view.seen ((protectedPhases plan limits).historyIn host (begun plan world)) ++
          Errand.view.seen
            ((cleanupPhase plan limits progress >>= conclude plan).historyIn host middle) ∧
      ∀ moment, moment ∈ (protectedPhases plan limits).historyIn host (begun plan world) ∨
          moment ∈ (cleanupPhase plan limits progress >>= conclude plan).historyIn host middle →
        moment ∈ (conduct plan limits).historyIn host world := by
  obtain ⟨progress, middle, phases, closing, history⟩ := conduct_run run
  refine ⟨progress, middle, phases, closing, ?_, fun moment inside => ?_⟩
  · rw [history, View.seen_cons, View.seen_append]
    rfl
  · rw [history]
    exact List.mem_cons_of_mem _ (List.mem_append.mpr inside)

/-- The identity was made when the phase that makes it passed. -/
theorem made_of_good {host : Host σ} {world middle : World σ} {progress : Progress}
    {provisioning : Provisioning}
    (run : (protectedPhases plan limits).runIn host world = (.done progress, middle))
    (good : (progress.card.get .provision).isGood = true)
    (wanted : plan.provisioning = some provisioning) :
    ∃ identity, ((provision plan provisioning).runIn host world).1 = .done identity := by
  have phases := congrArg Prod.fst run
  rw [protectedPhases, wanted] at phases
  rcases worked_of_phase rfl phases with works | ⟨reason, rfl⟩
  · exact works
  · cases good

/-- **No false pass.** -/
theorem accomplished_of_passed {report : Report} {last : World (Interrupted Registry)}
    (honest : world.plane.meddling.IsHonest)
    (run : (conduct plan limits).runIn (.inMemory connect launch tag) world = (.done report, last))
    (passed : report.verdict = .passed) :
    Accomplished (.inMemory connect launch tag) plan limits world last := by
  obtain ⟨progress, middle, phases, closing, seen, within⟩ := exists_progress run
  -- the errands of the phases and of the cleanup, and where they lead
  have protects := protects_of_shows ((protectedPhases plan limits).shows_historyIn Errand.view
    (.inMemory connect launch tag) (begun plan world))
  have opens := serves_run connect launch tag (protectedPhases plan limits) (begun plan world)
  rw [phases] at protects opens
  obtain ⟨removal, dismantles, same⟩ := concluded_of_shows
    ((cleanupPhase plan limits progress >>= conclude plan).shows_historyIn Errand.view
      (.inMemory connect launch tag) middle)
  have closes := serves_run connect launch tag
    (cleanupPhase plan limits progress >>= conclude plan) middle
  rw [closing] at same closes
  cases same
  -- all slots are good, so every phase did its work
  have good := (Scorecard.verdict_eq_passed_iff _).mp passed
  have kept : ∀ phase ≠ .cleanup, (progress.card.get phase).isGood = true := by
    intro phase other
    have slot := good phase
    rw [reportOn, Progress.write, Scorecard.get_set, if_neg other] at slot
    exact slot
  obtain ⟨found, rfl⟩ := removed_of_good (good .cleanup)
  obtain ⟨making, driving, asked, made, drives, asking, script⟩ := script_of_good protects kept
  -- the cleanup had no faults, so nothing is left
  have gone := dismantles.serves closes.2 (opens.1 ▸ honest)
  have things : last.plane.state.things = middle.plane.state.things.erase plan.identity :=
    congrArg Registry.things gone
  have certificates : last.plane.state.certificates =
      (middle.plane.state.contents.dismantled plan.identity).certificates := by
    have same := congrArg Registry.certificates gone
    exact same
  refine ⟨fun _ => made_of_good phases (kept .provision nofun), ?_, ?_, ?_, ?_, ?_⟩
  · obtain @⟨text, descriptor, texts, errands, finish, reads, resolves, ended⟩ := drives
    rw [seen, script]
    exact ⟨text, descriptor, texts, finish, by simp, reads, by simp, ended⟩
  · rw [← List.append_assoc] at script
    obtain ⟨moment, inside, asks⟩ := holds_of_asking asking script
    exact ⟨moment, within moment (.inl inside), asks⟩
  · rw [things]
    exact Table.get?_erase_self _ _
  · intro certificate created
    rw [seen, script] at created
    rw [script] at opens
    rw [certificates]
    have reading := List.forall_mem_append.mpr ⟨drives.reading, asking.reading⟩
    exact created_gone made reading dismantles opens.2 created
  · obtain ⟨moment, inside, asks, attached⟩ := attached_gone dismantles
    rw [certificates]
    exact ⟨moment, within moment (.inr inside), asks, attached⟩

/-- A trial whose thing was registered before passes, and takes it away. -/
theorem accomplished_registered_before :
    ∃ last, sampleRun (empty.withThing "device-a") =
        (.done ⟨.jobs, samplePlan.tag, "device-a", ⟨.passed, .passed, .passed, .passed⟩, []⟩,
          last) ∧
      Accomplished sampleHost samplePlan ⟨1, 1, 1⟩ (sampleWorld (empty.withThing "device-a"))
        last := by
  have passes : (sampleRun (empty.withThing "device-a")).1 =
      .done ⟨.jobs, samplePlan.tag, "device-a", ⟨.passed, .passed, .passed, .passed⟩, []⟩ := by
    decide +kernel
  have calm : (sampleWorld (empty.withThing "device-a")).plane.meddling.IsCalm :=
    isCalm_sampleWorld (by decide)
  generalize run : sampleRun (empty.withThing "device-a") = outcome at passes
  obtain ⟨fate, last⟩ := outcome
  cases passes
  exact ⟨last, rfl, accomplished_of_passed calm.honest run rfl⟩

end InMemory

end Trial

end DeviceTrial
