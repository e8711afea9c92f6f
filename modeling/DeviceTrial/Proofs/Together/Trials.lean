/-
**Trials go alike.**

* `alike_drive`, `alike_verify` — the process is started alike, and what it did is judged alike;
* `alike_conduct` — **a whole trial goes alike** and ends with the same report, whatever numbers the
  certificates have that it is issued.
-/

import DeviceTrial.Proofs.Together.Identities
import DeviceTrial.Proofs.Together.Territory

namespace DeviceTrial

open DeviceTrial.Action (Alike Succeed)

variable {ε α β : Type} {thing : String} {situation : Situation}

/-! ### Driving -/

namespace Drive

section Known

variable (stage : Stage) {ground : Ground} {path : Path}
  (knows : ∀ place ∈ path.stops, ground.Knows place)

include knows

theorem alike_read :
    Alike thing (fun after content other => after = ⟨stage, some ground⟩ ∧
        FileSystem.ReadAlike content other) ⟨stage, some ground⟩
      (Action.file (.read path) : Action TrialError _) (Action.file (.read path)) := by
  refine Program.Alike.both ⟨_, _, _, .read stage knows (.same (.error .notFound))⟩
    fun _ _ _ matched => ?_
  cases matched with
  | read _ _ alike => exact Alike.of_pure ⟨rfl, alike⟩

/-- A descriptor is read alike; a certificate is none. -/
theorem alike_load :
    Alike thing (Situation.Unchanged ⟨stage, some ground⟩) ⟨stage, some ground⟩
      (Descriptor.load path) (Descriptor.load path) := by
  refine (alike_read stage knows).bind fun {_ content _} ⟨same, alike⟩ => ?_
  subst same
  cases alike with
  | same =>
    cases content with
    | error fault => exact .of_fail _
    | ok text =>
      dsimp only
      split
      · exact .of_pure ⟨rfl, rfl⟩
      · exact .of_fail _
  | armoured here there =>
    dsimp only
    rw [Descriptor.read_of_armoured here, Descriptor.read_of_armoured there]
    exact .of_fail _

end Known

theorem alike_resolveArgument (bindings : Bindings) (argument : Argument) :
    Alike thing situation.Unchanged situation (resolveArgument bindings argument)
      (resolveArgument bindings argument) := by
  unfold resolveArgument
  split
  · refine (Identity.alike_resolveSecret _).bind fun ⟨same, also⟩ => ?_
    subst same also
    exact .of_pure ⟨rfl, rfl⟩
  · exact .of_pure ⟨rfl, rfl⟩
  · exact .of_pure ⟨rfl, rfl⟩

theorem alike_resolveArguments (bindings : Bindings) (arguments : List Argument) :
    Alike thing situation.Unchanged situation (resolveArguments bindings arguments)
      (resolveArguments bindings arguments) := by
  induction arguments with
  | nil => exact .of_pure ⟨rfl, rfl⟩
  | cons argument rest step =>
    refine (alike_resolveArgument bindings argument).bind fun ⟨same, also⟩ => ?_
    subst same also
    refine step.bind fun ⟨same, also⟩ => ?_
    subst same also
    exact .of_pure ⟨rfl, rfl⟩

theorem alike_prepare (descriptor : Descriptor) (bindings : Bindings) (seconds : Nat) :
    Alike thing situation.Unchanged situation (prepare descriptor bindings seconds)
      (prepare descriptor bindings seconds) := by
  refine (alike_resolveArguments bindings descriptor.arguments).bind fun ⟨same, also⟩ => ?_
  subst same also
  exact .of_pure ⟨rfl, rfl⟩

theorem alike_ofExcept (outcome : Except ε α) :
    Alike thing situation.Unchanged situation (Action.ofExcept outcome)
      (Action.ofExcept outcome) := by
  cases outcome with
  | ok value => exact .of_pure ⟨rfl, rfl⟩
  | error fault => exact .of_fail fault

theorem alike_launch (launch : Launch) :
    Alike thing (fun _ outcome other => other = outcome) situation
      (Action.ask (.launch launch) : Action TrialError _) (Action.ask (.launch launch)) := by
  refine Program.Alike.both ⟨_, _, _, .launched launch (.error "")⟩ fun _ _ _ matched => ?_
  cases matched with
  | launched => exact Alike.of_pure rfl

/-- The process comes to the same end. -/
theorem alike_execute (launch : Launch) (tailLimit : Nat) :
    Alike thing Situation.Same situation (execute launch tailLimit) (execute launch tailLimit) := by
  refine (alike_launch launch).bind fun {_ _ outcome} same => ?_
  subst same
  cases outcome with
  | error reason => exact .of_fail _
  | ok finish =>
    have told := silent_logReadings finish.readings
    refine .silent_bind told.weaken told.weaken ?_
    refine (alike_ofExcept (statusOf finish.ending)).bind fun {_ _ ended} ⟨same, also⟩ => ?_
    subst same also
    have expired := silent_logExpiry launch finish.ending
    refine .silent_bind expired.weaken expired.weaken ?_
    exact .silent_bind (.of_log _ _ _ _) (.of_log _ _ _ _) (.of_pure rfl)

/-- The process is started alike. -/
theorem alike_run (stage : Stage) {ground : Ground} {path : Path}
    (knows : ∀ place ∈ path.stops, ground.Knows place) (bindings : Bindings)
    (seconds tailLimit : Nat) :
    Alike thing Situation.Same ⟨stage, some ground⟩ (run path bindings seconds tailLimit)
      (run path bindings seconds tailLimit) := by
  refine (alike_load stage knows).bind fun ⟨same, also⟩ => ?_
  subst same also
  refine (alike_prepare _ bindings seconds).bind fun ⟨same, also⟩ => ?_
  subst same also
  exact .silent_bind (.of_log _ _ _ _) (.of_log _ _ _ _) (alike_execute _ tailLimit)

end Drive

/-! ### Verifying -/

namespace Verification

theorem alike_askAndJudge (call : Call) (plain : call.IsPlain thing)
    (judge : call.Answer → Except Discrepancy Unit) :
    Alike thing Situation.Same situation (askAndJudge call judge) (askAndJudge call judge) := by
  refine (Alike.call_plain plain).attempt.bind fun agrees => ?_
  cases agrees with
  | ok agrees =>
    obtain ⟨rfl, rfl⟩ := agrees
    exact .of_pure rfl
  | error fault => exact .of_pure rfl

theorem alike_judge (expectation : Expectation) :
    Alike thing Situation.Same situation (judge expectation thing) (judge expectation thing) := by
  cases expectation with
  | thingExists => exact alike_askAndJudge (.describeThing thing) rfl _
  | jobSucceeded secret =>
    refine (Identity.alike_resolveSecret secret).bind fun {_ _ job} ⟨same, also⟩ => ?_
    subst same also
    exact alike_askAndJudge (.describeJob job thing) trivial _
  | shadowReported shadow property expected =>
    exact alike_askAndJudge (.fetchShadow thing shadow) trivial _

/-- What the process did is judged alike. -/
theorem alike_verify (expectation : Expectation) :
    Alike thing Situation.Same situation (verify expectation thing) (verify expectation thing) := by
  refine (alike_judge expectation).bind fun {_ judgement _} same => ?_
  obtain rfl : _ = judgement := same
  split
  · exact .of_silent (.of_log _ _ _ _) (.of_log _ _ _ _) rfl
  · exact .silent_bind (.of_log _ _ _ _) (.of_log _ _ _ _) (.of_fail _)

end Verification

/-! ### Trials -/

namespace Trial

/-- A phase goes alike when its work does. -/
theorem alike_phase {work : Action TrialError α} {agree : Situation → α → α → Prop}
    (alike : Alike thing agree situation work work) (plan : Plan) (phase : Phase)
    (progress : Progress) {next : Progress → TrialAction Progress}
    (rest : ∀ {after value other} (progress : Progress), agree after value other →
      Alike thing Situation.Same after (next progress) (next progress)) :
    Alike thing Situation.Same situation (Trial.phase plan phase work progress next)
      (Trial.phase plan phase work progress next) := by
  refine alike.contain.bind fun agrees => ?_
  cases agrees with
  | ok agrees =>
    have wrote := silent_finishPhase plan phase .passed progress
    exact .silent_bind wrote.weaken wrote.weaken (rest _ agrees)
  | error mishap =>
    cases mishap with
    | failure fault =>
      have wrote := silent_finishPhase plan phase (.failed fault.message) progress
      exact .of_silent wrote.weaken wrote.weaken rfl
    | breakdown message =>
      have wrote := silent_crash plan message progress
      exact .of_silent wrote.weaken wrote.weaken rfl

theorem alike_verifyPhase {plan : Plan} (progress : Progress) :
    Alike plan.identity Situation.Same situation (verifyPhase plan progress)
      (verifyPhase plan progress) :=
  alike_phase (Verification.alike_verify plan.expectation) plan .verify progress
    fun _ _ => .of_pure rfl

theorem alike_drivePhase (plan : Plan) (paved : List Place) (limits : Limits) (stage : Stage)
    (progress : Progress) :
    Alike plan.identity Situation.Same ⟨stage, some (plan.ground paved)⟩
      (drivePhase plan limits progress) (drivePhase plan limits progress) := by
  have driven : Alike plan.identity Situation.Same ⟨stage, some (plan.ground paved)⟩
      (drive plan limits) (drive plan limits) :=
    Drive.alike_run stage (plan.knows_descriptor paved) plan.bindings limits.timeout limits.tailLines
  refine driven.contain.bind fun agrees => ?_
  have wrote := fun slot progress => silent_finishPhase plan .drive slot progress
  cases agrees with
  | @ok report _ same =>
    obtain rfl : _ = report := same
    dsimp only
    split
    · exact .silent_bind (wrote _ _).weaken (wrote _ _).weaken (alike_verifyPhase _)
    · exact .of_silent (wrote _ _).weaken (wrote _ _).weaken rfl
  | error mishap =>
    cases mishap with
    | failure fault => exact .of_silent (wrote _ _).weaken (wrote _ _).weaken rfl
    | breakdown message =>
      have crashed := silent_crash plan message progress
      exact .of_silent crashed.weaken crashed.weaken rfl

theorem alike_protectedPhases (plan : Plan) (limits : Limits) :
    Alike plan.identity Situation.Same ⟨.unmade, some (plan.ground [])⟩
      (protectedPhases plan limits) (protectedPhases plan limits) := by
  unfold protectedPhases
  split
  · rename_i provisioning wanted
    have owned : ∀ path, provisioning.paths.Has path → (plan.ground []).Owns path :=
      fun path has => Plan.owns (Plan.mem_credentials_of_has wanted has) []
    refine alike_phase (Identity.alike_establish provisioning.policy owned provisioning.group) plan
      .provision blank fun {after _ _} progress ⟨places, known⟩ => ?_
    obtain ⟨stage, ground⟩ := after
    obtain rfl : ground = some (plan.ground (places ++ [])) := known
    exact alike_drivePhase plan (places ++ []) limits stage progress
  · have wrote := silent_skipPhase plan .provision blank
    exact .silent_bind wrote wrote (alike_drivePhase plan [] limits .unmade _)

theorem alike_closing (plan : Plan) (removed : Except TrialError Removal) :
    Alike thing Situation.Same situation (closing plan removed) (closing plan removed) := by
  cases removed with
  | error fault => exact .of_fail fault
  | ok removal =>
    dsimp only [closing]
    split
    · exact .silent_bind (.of_log _ _ _ _) (.of_log _ _ _ _) (.of_pure rfl)
    · exact .of_pure rfl

/-- Identities are taken away alike, and the files of each with them. -/
theorem alike_cleanup (plan : Plan) :
    Alike plan.identity Situation.Same situation (cleanup plan) (cleanup plan) := by
  refine Identity.alike_dismantle.attempt.bind fun {after removed other} agrees => ?_
  rw [agrees.eq]
  cases plan.provisioning with
  | none => exact alike_closing plan removed
  | some provisioning =>
    have files : (Identity.removeCredentials provisioning.paths : Action TrialError Unit).Silent
        true () :=
      silent_removeCredentials provisioning.paths
    exact .stray (.silent_bind files files (alike_closing plan removed))

theorem alike_cleanupPhase (plan : Plan) (limits : Limits) (progress : Progress) :
    Alike plan.identity Situation.Same situation (cleanupPhase plan limits progress)
      (cleanupPhase plan limits progress) := by
  refine (alike_cleanup plan).limited.bind fun agrees => ?_
  obtain ⟨inner, outer, rfl, rfl, agrees⟩ := agrees
  rw [agrees.eq]
  have wrote := silent_finishPhase plan .cleanup (cleanupSlot plan limits (some inner)) progress
  exact .of_silent wrote.weaken wrote.weaken rfl

/-- **A whole trial goes alike** and ends with the same report. -/
theorem alike_conduct (plan : Plan) (limits : Limits) :
    Alike plan.identity Situation.Same ⟨.unmade, some (plan.ground [])⟩ (conduct plan limits)
      (conduct plan limits) := by
  refine .silent_bind (.of_log _ _ _ _) (.of_log _ _ _ _) ?_
  refine (alike_protectedPhases plan limits).bind fun {_ progress _} same => ?_
  obtain rfl : _ = progress := same
  refine (alike_cleanupPhase plan limits _).bind fun {_ progress _} same => ?_
  obtain rfl : _ = progress := same
  have told := silent_conclude plan
  exact .of_silent (told _).weaken (told _).weaken rfl

end Trial

end DeviceTrial
