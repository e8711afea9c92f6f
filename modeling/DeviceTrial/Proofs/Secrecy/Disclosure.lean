/-
**What the log of a trial discloses about secrets.**

Two trials of one plan, against control planes that differ in the values of secrets alone, are compared
by their logs. When their slots are the same, then so is all that they have logged, apart from

* the lines that the processes printed, and the other traces that the processes left, and
* **the name of the policy**, which both trials have told if they made their identity.

The proof follows the two trials side by side, from `World.Twins` at the start to `World.Twins` at the
end; what happened in between is in what is known of their logs there.

* `conduct_discloses` — **when the logs of two trials are the same**;
* `policy_leaks` — two trials with the same slots that have told two policies.
-/

import DeviceTrial.Proofs.Secrecy.Phases
import DeviceTrial.Proofs.Trial.Compensation

namespace DeviceTrial

open DeviceTrial.Action

/-- A world with other secrets. -/
def World.withSecrets (world : World (Interrupted Registry)) (secrets : Table String String) :
    World (Interrupted Registry) :=
  { world with plane := { world.plane with state := { world.plane.state with secrets := secrets } } }

/-- What is known of two runs before they have done anything. -/
def Standing.start (secrets others : Table String String) : Standing :=
  ⟨secrets, others, True, false, []⟩

theorem World.twins_withSecrets {world : World (Interrupted Registry)} {secrets : Table String String}
    (absent : world.plane.meddling.IsAbsent)
    (names : ∀ name, (world.plane.state.secrets.get? name).isSome = (secrets.get? name).isSome) :
    World.Twins (.start world.plane.state.secrets secrets) world (world.withSecrets secrets) where
  absent := absent
  absentToo := absent
  planes := ⟨names, rfl, rfl, rfl, rfl, rfl⟩
  secrets := rfl
  others := rfl
  files _ := rfl
  logs := .refl world.events

namespace Trial

variable {plan : Plan} {limits : Limits} {standing : Standing}

/-- **Two trials side by side.** -/
theorem paired_conduct (together : standing.parted = false) (clean : standing.strayed = []) :
    Paired (World.Twins standing) (conduct plan limits) (conduct plan limits)
      fun fate one other two => ∀ report final, fate = .done report → other = .done final →
        report.card = final.card →
        World.Twins (((standing.only (report.card.provision = .passed →
          SamePolicies standing plan)).astray .garbled).astray .clearing) one two := by
  have unstrayed : ∀ trace, trace ∉ standing.strayed := by
    rw [clean]
    nofun
  unfold conduct
  refine .same_bind (.of_ask trivial) (fun _ => ?_) fun stops _ _ _ ends => ?_
  · refine (paired_protectedPhases together (unstrayed .garbled)).onward fun fate other => ?_
    intro connect launch process tag one two quiet report final ends endsToo same
    cases fate with
    | done progress =>
      cases other with
      | done also =>
        obtain ⟨slot, -, -, -, rfl, -⟩ := closing_run (Prod.ext ends rfl)
        obtain ⟨slotToo, -, -, -, rfl, -⟩ := closing_run (Prod.ext endsToo rfl)
        have agrees : progress.card.Agrees also.card := Scorecard.agrees_of_set_cleanup same
        have twins := quiet progress also rfl rfl agrees
        have unclear : .clearing ∉ .garbled :: standing.strayed := by
          rw [clean]
          decide
        exact paired_closing agrees unclear connect launch process tag one two twins
      | _ => cases endsToo
    | _ => cases ends
  · cases stops <;> cases ends

/-- A trial in the way of which nothing comes has a report. -/
theorem exists_report (plan : Plan) (limits : Limits) (connect : String → Reply String)
    (launch : Launch → FileSystem → Except String Finish × FileSystem) (tag : Nat → RunTag)
    {world : World (Interrupted Registry)} (absent : world.plane.meddling.IsAbsent) :
    ∃ report, ((conduct plan limits).runIn (.inMemory connect launch tag) world).1 = .done report := by
  have conducts := conducts_of_shows ((conduct plan limits).shows_historyIn Errand.view
    (.inMemory connect launch tag) world)
  have serves := (serves_run connect launch tag (conduct plan limits) world).2
  generalize Errand.view.seen ((conduct plan limits).historyIn (.inMemory connect launch tag) world) =
    seen at conducts serves
  generalize ((conduct plan limits).runIn (.inMemory connect launch tag) world).1 = fate at conducts
  cases conducts with
  | concluded protects dismantles => exact ⟨_, rfl⟩
  | hung protects =>
    obtain ⟨request, waits⟩ := protects.hangs
    exact absurd waits (serves.comes_back (fun operation => absent operation .hang) request)

/-- **What the log of a trial discloses about secrets.** -/
theorem conduct_discloses (plan : Plan) (limits : Limits) (connect : String → Reply String)
    (launch process : Launch → FileSystem → Except String Finish × FileSystem) (tag : Nat → RunTag)
    (world : World (Interrupted Registry)) (secrets : Table String String)
    (absent : world.plane.meddling.IsAbsent)
    (names : ∀ name, (world.plane.state.secrets.get? name).isSome = (secrets.get? name).isSome) :
    ∃ report last other final,
      (conduct plan limits).runIn (.inMemory connect launch tag) world = (.done report, last) ∧
      (conduct plan limits).runIn (.inMemory connect process tag) (world.withSecrets secrets) =
        (.done other, final) ∧
      (report.card = other.card →
        Log.outline last.events = Log.outline final.events ∧
        (Log.unprinted last.events = Log.unprinted final.events ↔
          (report.card.provision = .passed → ∀ provisioning, plan.provisioning = some provisioning →
            provisioning.policy.policy? world.plane.state.secrets =
              provisioning.policy.policy? secrets) ∧
          Log.traces last.events = Log.traces final.events)) := by
  have twins := World.twins_withSecrets absent names
  obtain ⟨report, ends⟩ := exists_report plan limits connect launch tag absent
  obtain ⟨other, endsToo⟩ := exists_report plan limits connect process tag twins.absentToo
  refine ⟨report, _, other, _, Prod.ext ends rfl, Prod.ext endsToo rfl, fun same => ?_⟩
  have after := paired_conduct rfl rfl connect launch process tag world (world.withSecrets secrets)
    twins report other ends endsToo same
  exact ⟨after.logs.outline,
    after.logs.unprinted_iff.trans (and_congr_left' (and_iff_right trivial))⟩

/-! ### A plan to try -/

/-- A plan of the family `jobs`, with the built-in settings. -/
def jobsPlan : Plan where
  family := .jobs
  tag := ⟨"a", isTag_a⟩
  identity := "ServiceTest_Jobs_a"
  region := "us-east-1"
  descriptor := ⟨"/trial.json"⟩
  provisioning := some ⟨.secret "ci/JobsServiceClientTest/policy_name",
    ⟨⟨"/servicetests/tests/jobs_execution/certificate.pem.crt"⟩,
      ⟨"/servicetests/tests/jobs_execution/private.pem.key"⟩⟩,
    some "CI_ServiceClient_Thing_Group"⟩
  expectation := .jobSucceeded "ci/JobsServiceClientTest/job_id"

/-- The secrets that the plan asks for. -/
def jobsSecrets (policy job : String) : Table String String :=
  (Table.empty.insert "ci/JobsServiceClientTest/policy_name" policy).insert
    "ci/JobsServiceClientTest/job_id" job

/-- A world in which two jobs were done. -/
def jobsWorld : World (Interrupted Registry) :=
  sampleWorld ((Registry.empty.withJob "job-1" "ServiceTest_Jobs_a" ⟨some succeeded, some 1⟩).withJob
    "job-2" "ServiceTest_Jobs_a" ⟨some succeeded, some 1⟩)

/-- The run of the plan with such secrets. -/
def jobsRun (policy job : String) : Fate Empty Report × World (Interrupted Registry) :=
  (conduct jobsPlan ⟨1, 1, 1⟩).runIn sampleHost (jobsWorld.withSecrets (jobsSecrets policy job))

/-- **Which job is asked about is not told.** -/
theorem conduct_discloses_no_job :
    ∃ report last other final, jobsRun "policy" "job-1" = (.done report, last) ∧
      jobsRun "policy" "job-2" = (.done other, final) ∧
      Log.unprinted last.events = Log.unprinted final.events := by
  have absent : (jobsWorld.withSecrets (jobsSecrets "policy" "job-1")).plane.meddling.IsAbsent := by
    intro operation interruption meddles
    rcases (meddling_sampleWorld _ _ _).mp meddles with ⟨fails, -⟩ | ⟨panics, -⟩
    · cases fails
    · cases panics
  have names : ∀ name, ((jobsSecrets "policy" "job-1").get? name).isSome =
      ((jobsSecrets "policy" "job-2").get? name).isSome := by
    intro name
    simp only [jobsSecrets, Table.get?_insert]
    split
    · rfl
    · split <;> rfl
  have ends : (jobsRun "policy" "job-1").1 = (jobsRun "policy" "job-2").1 ∧
      Log.traces (jobsRun "policy" "job-1").2.events =
        Log.traces (jobsRun "policy" "job-2").2.events := by decide +kernel
  obtain ⟨report, last, other, final, run, runToo, discloses⟩ :=
    conduct_discloses jobsPlan ⟨1, 1, 1⟩ .ok sampleLaunch sampleLaunch (fun _ => jobsPlan.tag)
      (jobsWorld.withSecrets (jobsSecrets "policy" "job-1")) (jobsSecrets "policy" "job-2") absent
      names
  have here : jobsRun "policy" "job-1" = (.done report, last) := run
  have there : jobsRun "policy" "job-2" = (.done other, final) := runToo
  rw [here, there] at ends
  obtain ⟨⟨⟩, traces⟩ := ends
  refine ⟨report, last, report, final, here, there, (discloses rfl).2.mpr ⟨fun _ => ?_, traces⟩⟩
  rintro _ ⟨⟩
  rfl

/-- **The policy is told.** -/
theorem policy_leaks :
    Plan.build ⟨"/"⟩ .default ⟨.jobs, .five, .standard, jobsPlan.tag, "us-east-1",
        some ⟨"/trial.json"⟩, none⟩ = .ok jobsPlan ∧
      (jobsRun "policy" "job-1").1 = (jobsRun "other" "job-1").1 ∧
      Log.unprinted (jobsRun "policy" "job-1").2.events ≠
        Log.unprinted (jobsRun "other" "job-1").2.events := by
  decide +kernel

end Trial

end DeviceTrial
