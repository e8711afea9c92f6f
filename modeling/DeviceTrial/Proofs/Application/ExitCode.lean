/-
**What the exit code says.**

The program prepares the trial, has metrics recorded, connects to the service and conducts the trial.
The exit code is settled by the first of these that fails, and else by the verdict; what is said about
it on the way, in the log, in print or in the file of metrics, does not count.

* `runIn_start` — the preparation decides whether there is a trial;
* `runIn_finish` — what the exit code of a prepared trial comes from, and `Comes.code_eq_zero_iff` — when
  it is 0;
* `run_tells` — **the exit code tells the truth** about the trial, and whether anything was asked of
  the service.
-/

import DeviceTrial.Application
import DeviceTrial.Proofs.Cloud.Making
import DeviceTrial.Proofs.Run.Hearing
import DeviceTrial.Proofs.Settings.Precedence
import DeviceTrial.Proofs.Trial.Protocol

namespace DeviceTrial

open CommandLine (Selection)

/-! ### Asking nothing of the service -/

/-- That an effect asks nothing of the control plane and starts no process. -/
def Effect.IsLocal : Effect → Prop
  | .call _ | .connect _ | .launch _ => False
  | _ => True

theorem Effect.IsLook.isLocal {drawing : Bool} (effect : Effect) (look : effect.IsLook drawing) :
    effect.IsLocal := by
  cases effect <;> trivial

/-- What asks nothing of the service exchanges nothing with it. -/
theorem Cloud.exchangesOf_of_local {moments : List (Moment (World Cloud.Script))}
    (within : ∀ moment ∈ moments, moment.effect.IsLocal) : Cloud.exchangesOf moments = [] := by
  rw [Cloud.exchangesOf, List.flatMap_eq_nil_iff]
  intro moment inside
  have here := within moment inside
  obtain ⟨before, effect, answer⟩ := moment
  cases effect <;> first | rfl | cases here

/-- **Handing the metrics on cannot fail**, whether they can be written or not. -/
theorem MetricsFile.runIn_handOn {σ ε : Type} (host : Host σ) (path : Path) (world : World σ) :
    ((handOn path : Action ε Unit).runIn host world).1 = .done () := by
  have steady : (write path).Steady Effect.IsLocal :=
    .bind (.of_ask trivial) fun _ => .bind (.makeParent (fun _ => trivial) path) fun _ =>
      .bind (.fileStep (.of_ask trivial)) fun _ => .bind (.fileStep (.of_ask trivial)) fun _ =>
        .of_ask trivial
  obtain ⟨outcome, came⟩ := steady.runIn host world
  have attempted := Action.runIn_attempt_of_ofExcept ε came
  unfold handOn
  rw [Action.runIn_bind_of_done (congrArg Prod.fst attempted)]
  cases outcome <;> rfl

/-! ### Answers of the service -/

namespace Cloud

variable (launch : Launch → FileSystem → Except String Finish × FileSystem) (tag : Nat → RunTag)

/-- Connecting to the service comes back. -/
theorem not_isCrash_connect (region : String) (script : Script) :
    ¬ (connect region script).1.IsCrash := by
  intro crash
  unfold connect replyWith at crash
  dsimp only at crash
  split at crash
  · split at crash <;> cases crash
  · cases crash

/-- **Connecting to the service** succeeds or fails. -/
theorem runIn_connect (region : String) (world : World Script) :
    ∃ outcome, ((Application.connect region).runIn (overCloud launch tag) world).1 =
      Fate.ofExcept outcome := by
  have calm := not_isCrash_connect region world.plane
  have first : ((Action.connect region).runIn (overCloud launch tag) world).1 =
      (connect region world.plane).1.fate := by
    show (Program.run _ (Action.ofReply (connect region world.plane).1) _).1 = _
    cases (connect region world.plane).1 <;> rfl
  cases reply : (connect region world.plane).1 with
  | ok endpoint =>
    rw [reply] at first
    exact ⟨.ok (), by rw [Application.connect, Action.runIn_bind_of_done first]; rfl⟩
  | error fault =>
    rw [reply] at first
    exact ⟨.error fault, by rw [Application.connect, Action.runIn_bind_of_failed first]; rfl⟩
  | panic message => exact absurd (reply ▸ .panic message) calm
  | hang => exact absurd (reply ▸ .hang) calm

/-- **A trial over the service** always comes to its report: no call breaks down, and the only one
that can hang, a list without end, is waited for no longer than the cleanup may take. -/
theorem runIn_conduct (plan : Plan) (limits : Limits) (world : World Script) :
    ∃ report, ((Trial.conduct plan limits).runIn (overCloud launch tag) world).1 =
      .done report := by
  have conducts := Trial.conducts_of_shows
    ((Trial.conduct plan limits).shows_historyIn Errand.view (overCloud launch tag) world)
  generalize came : ((Trial.conduct plan limits).runIn (overCloud launch tag) world).1 = fate
    at conducts
  cases fate with
  | done report => exact ⟨report, rfl⟩
  | failed fault => exact fault.elim
  | panicked message => exact absurd rfl (conducts.not_panicked message)
  | hung =>
    obtain ⟨request, single, waits⟩ := conducts.hangs
    obtain ⟨script, -, hangs⟩ := (called_iff request _).mp waits
    exact absurd (hangs ▸ .hang) (not_isCrash_answer single script)

end Cloud

/-! ### A prepared trial -/

namespace Application

/-- That metrics can be recorded if they are wanted. -/
def Records (setup : Setup) (settings : Settings) : Prop :=
  settings.get .metricsEnabled = true → setup.metrics = none

section Stages

variable {σ : Type} {host : Host σ} {setup : Setup} {prepared : Prepared} {world : World σ}

/-- What is announced is only told. -/
theorem announce_of_records (records : Records setup prepared.settings) :
    (announce setup prepared).Silent false () ∧ (announce setup prepared).Within Effect.IsTold := by
  unfold announce
  cases wanted : prepared.settings.get .metricsEnabled with
  | false => exact ⟨.of_log _ _ _ _, .of_ask trivial⟩
  | true =>
    have free : recordMetrics setup =
        Action.log .debug .exposition "Prometheus metrics recorder installed" [] := by
      rw [recordMetrics, records wanted]
    simp only [if_true, free]
    exact ⟨.bind (.of_log _ _ _ _) (.of_log _ _ _ _),
      .bind (.of_ask trivial) fun _ => .of_ask trivial⟩

/-- Nothing is announced when metrics are wanted and cannot be recorded. -/
theorem announce_of_refused (wanted : prepared.settings.get .metricsEnabled = true)
    {reason : String} (refused : setup.metrics = some reason) :
    ((announce setup prepared).runIn host world).1 =
      .failed (.setup ("failed to install metrics recorder: " ++ reason)) := by
  simp only [announce, wanted, if_true, recordMetrics, refused]
  rfl

/-- Printing cannot fail. -/
theorem runIn_printLines {ε : Type} (lines : List String) (world : World σ) :
    ((Trial.printLines lines : Action ε Unit).runIn host world).1 = .done () := by
  induction lines generalizing world with
  | nil => rfl
  | cons line rest step => exact step _

/-- Nor can handing the metrics on, be they wanted or not. -/
theorem runIn_handMetricsOn (settings : Settings) (world : World σ) :
    ((handMetricsOn settings).runIn host world).1 = .done () := by
  unfold handMetricsOn
  split
  · exact MetricsFile.runIn_handOn host _ world
  · rfl

variable (host setup prepared world)

/-- What an execution comes to, and what the exit code of a prepared trial comes from. -/
inductive Comes : Except Abort Verdict → Prop where
  /-- Metrics are wanted and cannot be recorded. -/
  | unrecorded {reason : String} (wanted : prepared.settings.get .metricsEnabled = true)
      (refused : setup.metrics = some reason) :
    Comes (.error (.setup ("failed to install metrics recorder: " ++ reason)))
  /-- The control plane cannot be connected to. -/
  | unconnected {fault : PlaneError} (records : Records setup prepared.settings)
      (refused : ((connect prepared.plan.region).runIn host world).1 = .failed fault) :
    Comes (.error (.unreachable fault.message))
  /-- The trial is conducted. -/
  | conducted {report : Report} (records : Records setup prepared.settings)
      (connected : ((connect prepared.plan.region).runIn host world).1 = .done ())
      (reported : ((Trial.conduct prepared.plan prepared.settings.limits).runIn host
        ((connect prepared.plan.region).runIn host world).2).1 = .done report) :
    Comes (.ok report.verdict)

variable {host setup prepared world}

/-- What connecting comes to in an execution. -/
theorem runIn_connect_agrees {region : String} {later : World σ} (agrees : later.Agrees world)
    {outcome : Except PlaneError Unit}
    (came : ((connect region).runIn host world).1 = Fate.ofExcept outcome) :
    (((connect region).mapError fun fault => Abort.unreachable fault.message).runIn host later).1 =
        Fate.ofExcept (outcome.mapError fun fault => Abort.unreachable fault.message) ∧
      (((connect region).mapError fun fault => Abort.unreachable fault.message).runIn host
        later).2.Agrees ((connect region).runIn host world).2 := by
  obtain ⟨same, after⟩ := (connect region).runIn_agrees host agrees
  rw [Action.runIn_mapError, same, came]
  refine ⟨?_, after⟩
  cases outcome <;> rfl

/-- What the trial comes to in an execution. -/
theorem runIn_conduct_agrees {later : World σ} (agrees : later.Agrees world) {report : Report}
    (reported : ((Trial.conduct prepared.plan prepared.settings.limits).runIn host world).1 =
      .done report) : ((conduct prepared).runIn host later).1 = .done report := by
  obtain ⟨same, -⟩ :=
    (Trial.conduct prepared.plan prepared.settings.limits).runIn_agrees host agrees
  rw [conduct, Action.runIn_mapError, same, reported]
  rfl

/-- **What an execution comes to** in a world that agrees with another one is settled by the other. -/
theorem runIn_execute {outcome : Except Abort Verdict}
    (comes : Comes host setup prepared world outcome) {later : World σ}
    (agrees : later.Agrees world) :
    ((execute setup prepared).runIn host later).1 = Fate.ofExcept outcome := by
  cases comes with
  | unrecorded wanted refused =>
    rw [execute, Action.runIn_bind_of_failed (announce_of_refused wanted refused)]
    rfl
  | @unconnected fault records refused =>
    obtain ⟨silent, told⟩ := announce_of_records records
    have refused : _ = Fate.ofExcept (.error fault) := refused
    obtain ⟨failing, -⟩ := runIn_connect_agrees ((told.agrees host later).trans agrees) refused
    rw [execute, Action.runIn_bind_of_done (silent.runIn host later),
      Action.runIn_bind_of_failed failing]
    rfl
  | conducted records connected reported =>
    obtain ⟨silent, told⟩ := announce_of_records records
    have connected : _ = Fate.ofExcept (.ok ()) := connected
    obtain ⟨going, after⟩ := runIn_connect_agrees ((told.agrees host later).trans agrees) connected
    rw [execute, Action.runIn_bind_of_done (silent.runIn host later),
      Action.runIn_bind_of_done going,
      Action.runIn_bind_of_done (runIn_conduct_agrees after reported),
      Action.runIn_bind_of_done (runIn_printLines _ _),
      Action.runIn_bind_of_done (runIn_handMetricsOn _ _)]
    rfl

/-- The exit code of what an execution comes to. -/
def outcomeCode : Except Abort Verdict → Nat
  | .ok verdict => verdictCode verdict
  | .error abort => abort.exitCode

/-- **The exit code of a prepared trial** is that of its execution, however logging is set up. -/
theorem runIn_finish {outcome : Except Abort Verdict}
    (comes : Comes host setup prepared world outcome) (around : Surroundings) {later : World σ}
    (agrees : later.Agrees world) :
    ((finish setup around prepared).runIn host later).1 = .done (outcomeCode outcome) := by
  unfold finish
  -- Whether logging could be set up only decides which events are heard.
  generalize loggingFor setup prepared.settings around.environment = logging
  have warned : ((warn logging).runIn host later).1 = .done () := by cases logging <;> rfl
  have told : (warn logging).Within Effect.IsTold := by
    cases logging with
    | ok logging => exact .of_pure ()
    | error reason => exact .of_ask trivial
  obtain ⟨same, -⟩ := (conclude setup prepared).runIn_heard host (isLogged logging)
    ((told.agrees host later).trans agrees)
  have executed := Action.runIn_attempt_of_ofExcept Empty
    (runIn_execute comes (World.Agrees.refl world))
  rw [Action.runIn_bind_of_done warned, same, conclude,
    Action.runIn_bind_of_done (congrArg Prod.fst executed)]
  cases outcome <;> rfl

/-- Logging has no part in what an execution comes to. -/
theorem Comes.of_same_metrics {outcome : Except Abort Verdict}
    (comes : Comes host setup prepared world outcome) {other : Setup}
    (same : other.metrics = setup.metrics) : Comes host other prepared world outcome := by
  cases comes with
  | unrecorded wanted refused => exact .unrecorded wanted (same.trans refused)
  | unconnected records refused =>
    exact .unconnected (fun wanted => same.trans (records wanted)) refused
  | conducted records connected reported =>
    exact .conducted (fun wanted => same.trans (records wanted)) connected reported

/-- The exit code of a prepared trial is 0 or 1. -/
theorem Comes.code {outcome : Except Abort Verdict}
    (comes : Comes host setup prepared world outcome) :
    outcomeCode outcome = 0 ∨ outcomeCode outcome = 1 := by
  cases comes with
  | unrecorded wanted refused => exact .inr rfl
  | unconnected records refused => exact .inr rfl
  | @conducted report records connected reported =>
    show verdictCode report.verdict = 0 ∨ verdictCode report.verdict = 1
    cases report.verdict with
    | passed => exact .inl rfl
    | failed => exact .inr rfl

/-! ### The preparation -/

/-- **The preparation decides whether there is a trial**, and else the exit code. -/
theorem runIn_start {arguments : List String} {selection : Selection}
    (selected : CommandLine.select arguments = .ok selection) {around : Surroundings}
    {outcome : Except Abort Prepared}
    (came : ((Preparation.prepare selection around).runIn host world).1 = Fate.ofExcept outcome) :
    ((start arguments around).runIn host world).1 = .done (outcome.mapError Abort.exitCode) ∧
      ((start arguments around).runIn host world).2.Agrees
        ((Preparation.prepare selection around).runIn host world).2 := by
  have attempted := Action.runIn_attempt_of_ofExcept Empty came
  unfold start
  rw [selected]
  dsimp only
  rw [Action.runIn_bind_of_done (congrArg Prod.fst attempted), attempted]
  cases outcome with
  | ok prepared => exact ⟨rfl, .refl _⟩
  | error abort => exact ⟨rfl, rfl, rfl, rfl, rfl⟩

theorem within_start (arguments : List String) (around : Surroundings) :
    (start arguments around).Within Effect.IsLocal := by
  unfold start
  split
  · exact .of_pure _
  · rename_i selection _
    have looks := (Preparation.steady_prepare selection around).within.mono Effect.IsLook.isLocal
    refine .bind looks.attempt fun outcome => ?_
    cases outcome with
    | ok prepared => exact .of_pure _
    | error abort => exact .bind (.of_ask trivial) fun _ => .of_pure _

/-! ### The run -/

section Runs

variable {arguments : List String} {selection : Selection} {around : Surroundings}
  (selected : CommandLine.select arguments = .ok selection)

include selected

/-- **A run without a trial** has the exit code of what went wrong, and asks nothing of the service. -/
theorem runWith_of_aborted {abort : Abort}
    (came : ((Preparation.prepare selection around).runIn host world).1 = .failed abort) :
    ((runWith setup arguments around).runIn host world).1 = .done abort.exitCode ∧
      ∀ moment ∈ (runWith setup arguments around).historyIn host world, moment.effect.IsLocal := by
  have aborted : _ = Fate.ofExcept (.error abort) := came
  obtain ⟨same, -⟩ := (start arguments around).runIn_heard host (fun _ => false)
    (World.Agrees.refl world)
  have stopped := same.trans (runIn_start selected aborted).1
  unfold runWith
  rw [Action.runIn_bind_of_done stopped, Action.historyIn_bind, stopped]
  refine ⟨rfl, fun moment inside => ?_⟩
  rcases List.mem_append.mp inside with first | last
  · exact ((within_start arguments around).heard _).historyIn world moment first
  · cases last

/-- **A run with a trial** has the exit code of what its execution comes to. -/
theorem runWith_of_prepared
    (came : ((Preparation.prepare selection around).runIn host world).1 = .done prepared)
    {outcome : Except Abort Verdict}
    (comes : Comes host setup prepared
      ((Preparation.prepare selection around).runIn host world).2 outcome) :
    ((runWith setup arguments around).runIn host world).1 = .done (outcomeCode outcome) := by
  have made : _ = Fate.ofExcept (.ok prepared) := came
  obtain ⟨started, agrees⟩ := runIn_start selected made
  obtain ⟨same, after⟩ := (start arguments around).runIn_heard host (fun _ => false)
    (World.Agrees.refl world)
  rw [runWith, Action.runIn_bind_of_done (same.trans started)]
  exact runIn_finish comes around (after.trans agrees)

end Runs

variable (host setup world)

/-- That a run gets through: the trial can be prepared, metrics can be recorded if they are wanted, the
control plane can be connected to, and every slot of the trial's record is passed or skipped. -/
inductive Succeeds (selection : Selection) (around : Surroundings) : Prop where
  | intro {prepared : Prepared} {report : Report}
      (prepares : ((Preparation.prepare selection around).runIn host world).1 = .done prepared)
      (records : Records setup prepared.settings)
      (connects : ((connect prepared.plan.region).runIn host
        ((Preparation.prepare selection around).runIn host world).2).1 = .done ())
      (reports : ((Trial.conduct prepared.plan prepared.settings.limits).runIn host
        ((connect prepared.plan.region).runIn host
          ((Preparation.prepare selection around).runIn host world).2).2).1 = .done report)
      (good : ∀ phase, report.card.get phase = .passed ∨ report.card.get phase = .skipped) :
    Succeeds selection around

variable {host setup world}

/-- An execution comes to one thing. -/
theorem Comes.unique {outcome other : Except Abort Verdict}
    (comes : Comes host setup prepared world outcome)
    (again : Comes host setup prepared world other) : outcome = other := by
  have same := (runIn_execute comes (.refl world)).symm.trans (runIn_execute again (.refl world))
  cases outcome <;> cases other <;> cases same <;> rfl

/-- A trial whose verdict has the code 0 has no slot but those that passed or were skipped. -/
theorem verdictCode_eq_zero_iff (report : Report) :
    verdictCode report.verdict = 0 ↔
      ∀ phase, report.card.get phase = .passed ∨ report.card.get phase = .skipped := by
  have good : ∀ slot : Slot, slot.isGood = true ↔ slot = .passed ∨ slot = .skipped := by
    intro slot
    cases slot <;> simp [Slot.isGood]
  have passed : verdictCode report.verdict = 0 ↔ report.card.verdict = .passed := by
    show verdictCode report.card.verdict = 0 ↔ _
    cases report.card.verdict <;> simp [verdictCode]
  rw [passed, Scorecard.verdict_eq_passed_iff]
  exact forall_congr' fun phase => good _

/-- **A prepared trial has the exit code 0** if and only if the run gets through. -/
theorem Comes.code_eq_zero_iff {selection : Selection} {around : Surroundings}
    (came : ((Preparation.prepare selection around).runIn host world).1 = .done prepared)
    {outcome : Except Abort Verdict}
    (comes : Comes host setup prepared
      ((Preparation.prepare selection around).runIn host world).2 outcome) :
    outcomeCode outcome = 0 ↔ Succeeds host setup world selection around := by
  constructor
  · intro zero
    cases comes with
    | unrecorded wanted refused => cases zero
    | unconnected records refused => cases zero
    | conducted records connected reported =>
      exact ⟨came, records, connected, reported, (verdictCode_eq_zero_iff _).mp zero⟩
  · rintro ⟨prepares, records, connects, reports, good⟩
    cases came.symm.trans prepares
    rw [comes.unique (.conducted records connects reports)]
    exact (verdictCode_eq_zero_iff _).mpr good

end Stages

/-! ### The exit code -/

section Cloud

variable (launch : Launch → FileSystem → Except String Finish × FileSystem) (tag : Nat → RunTag)

/-- Over the service, an execution always comes to something. -/
theorem exists_comes (setup : Setup) (prepared : Prepared) (world : World Cloud.Script) :
    ∃ outcome, Comes (Cloud.overCloud launch tag) setup prepared world outcome := by
  by_cases records : Records setup prepared.settings
  · obtain ⟨connected, came⟩ := Cloud.runIn_connect launch tag prepared.plan.region world
    cases connected with
    | error fault => exact ⟨_, .unconnected records came⟩
    | ok value =>
      obtain ⟨report, reported⟩ := Cloud.runIn_conduct launch tag prepared.plan
        prepared.settings.limits
        ((connect prepared.plan.region).runIn (Cloud.overCloud launch tag) world).2
      exact ⟨_, .conducted records came reported⟩
  · obtain ⟨wanted, refused⟩ := Classical.not_imp.mp records
    obtain ⟨reason, given⟩ := Option.ne_none_iff_exists'.mp refused
    exact ⟨_, .unrecorded wanted given⟩

/-- **The exit code tells the truth.** It is 0 if and only if the run gets through, and 2 if and only
if the settings or the selection are wrong, before anything was asked of the service; logging has no
part in it. -/
theorem run_tells (setup : Setup) {arguments : List String} {selection : Selection}
    (selected : CommandLine.select arguments = .ok selection) (around : Surroundings)
    (world : World Cloud.Script) :
    let host := Cloud.overCloud launch tag
    let run := runWith setup arguments around
    let made := Cloud.exchangesOf (run.historyIn host world)
    ∃ code, (run.runIn host world).1 = .done code ∧
      (code = 0 ↔ Succeeds host setup world selection around) ∧
      (code = 2 ↔ ∃ reason, ((Preparation.prepare selection around).runIn host world).1 =
        .failed (.settings reason)) ∧
      (code = 0 ∨ code = 1 ∨ code = 2) ∧
      (code = 2 → made = []) ∧
      (made ≠ [] → code = 0 ∨ code = 1) ∧
      (∀ other : Setup, other.metrics = setup.metrics →
        ((runWith other arguments around).runIn host world).1 = .done code) ∧
      ∀ settings later, ((handMetricsOn settings).runIn host later).1 = .done () := by
  intro host run made
  obtain ⟨outcome, came⟩ := (Preparation.steady_prepare selection around).runIn host world
  cases outcome with
  | error abort =>
    obtain ⟨ends, silent⟩ := runWith_of_aborted selected came
    have nothing : made = [] := Cloud.exchangesOf_of_local silent
    have code := abort.exitCode_eq_two_iff
    refine ⟨abort.exitCode, ends, ?_, ?_, ?_, fun _ => nothing, fun some => absurd nothing some,
      fun other _ => (runWith_of_aborted selected came).1, runIn_handMetricsOn⟩
    · constructor
      · intro zero
        cases abort <;> cases zero
      · rintro ⟨prepares, -, -, -, -⟩
        cases came.symm.trans prepares
    · rw [code, came]
      simp [Fate.ofExcept]
    · cases abort <;> simp [Abort.exitCode]
  | ok prepared =>
    obtain ⟨outcome, comes⟩ := exists_comes launch tag setup prepared
      ((Preparation.prepare selection around).runIn host world).2
    have ends : (run.runIn host world).1 = .done (outcomeCode outcome) :=
      runWith_of_prepared selected came comes
    have small := comes.code
    refine ⟨outcomeCode outcome, ends, Comes.code_eq_zero_iff came comes, ?_, by omega,
      fun two => by omega, fun _ => small,
      fun other same => runWith_of_prepared selected came (comes.of_same_metrics same),
      runIn_handMetricsOn⟩
    refine iff_of_false (by omega) ?_
    rintro ⟨reason, failed⟩
    cases came.symm.trans failed

/-- A service with a data endpoint, and the descriptor of a process. -/
def endpointWorld : World Cloud.Script :=
  .start (.start (Table.empty.insert "DescribeEndpoint"
    [.success { Cloud.Output.empty with endpointAddress := some "data" }]) true)
    ⟨Table.empty.insert ["device.json"] (.file "\x7b\"command\": \"device\"\x7d".toUTF8 false)⟩

/-- A host on which every process does its work. -/
def willingHost : Host Cloud.Script :=
  Cloud.overCloud (fun _ files => (.ok ⟨.empty, .empty, [], .exited 0⟩, files)) fun _ => ⟨"a", isTag_a⟩

/-- A process that does its work makes a run that gets through, even if nothing can be logged. -/
theorem run_tells_unlogged :
    let arguments := ["fleet-provisioning", "--mqtt-version", "5", "--file", "/device.json"]
    ∃ selection, CommandLine.select arguments = .ok selection ∧
      Succeeds willingHost ⟨some "already set", none⟩ endpointWorld selection
        ⟨[], .rootDirectory⟩ := by
  intro arguments
  have read : (CommandLine.select arguments).isOk = true := by decide +kernel
  have passed : ((runWith ⟨some "already set", none⟩ arguments ⟨[], .rootDirectory⟩).runIn
      willingHost endpointWorld).1 = .done 0 := by decide +kernel
  cases selected : CommandLine.select arguments with
  | error halt =>
    rw [selected] at read
    cases read
  | ok selection =>
    obtain ⟨code, ends, zero, -⟩ := run_tells (fun _ files =>
      (.ok ⟨.empty, .empty, [], .exited 0⟩, files)) (fun _ => ⟨"a", isTag_a⟩)
      ⟨some "already set", none⟩ selected ⟨[], .rootDirectory⟩ endpointWorld
    exact ⟨selection, rfl, zero.mp (Fate.done.inj (ends.symm.trans passed))⟩

end Cloud

end Application

end DeviceTrial
