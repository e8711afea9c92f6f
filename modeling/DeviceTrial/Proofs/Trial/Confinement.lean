/-
**What the work of a phase asks for.**

The work of a phase calls the control plane, works on files and starts a process. It logs what it does
under names of its own, never under that of the trial, and the only metrics that it records are those
of identities. `AllowsWork` puts this together for a kind of effects; `AllowsUpkeep` is the part of it
that reads no secret and touches nothing but the control plane. What is changed are the files of the
identity alone, and `AllowsFiles` says which.

* `Identity.within_establish`, `Identity.within_dismantle` — making an identity and taking it away;
* `Drive.within_run`, `Verification.within_verify` — the process and the look at its result;
* `Trial.within_cleanup` — the cleanup, which logs one event of the trial;
* `Trial.within_drivePhase` and its like — what a trial tells about its phases;
* `Trial.within_conduct` — **a whole trial**.
-/

import DeviceTrial.Proofs.Run.Confinement
import DeviceTrial.Proofs.Trial.Conducting

namespace DeviceTrial

/-- That a kind has what the upkeep of an identity may ask of the control plane and log, apart from
making a thing. -/
structure Effect.AllowsUpkeep (kind : Effect → Prop) : Prop where
  /-- Every call that makes no thing and reads no secret. -/
  calls : ∀ request, request.operation ≠ .createThing → request.operation ≠ .getSecret →
    kind (.call request)
  /-- Every event that is not one of the trial. -/
  events : ∀ event, event.source ≠ .trial → kind (.log event)

/-- That a kind has what the work of every phase may ask for, apart from making a thing and counting
identities. -/
structure Effect.AllowsWork (kind : Effect → Prop) : Prop extends Effect.AllowsUpkeep kind where
  /-- Reading every secret. -/
  secrets : ∀ name, kind (.call (.getSecret name))
  /-- Reading every file. -/
  reads : ∀ path, kind (.file (.read path))
  /-- Every process. -/
  launches : ∀ launch, kind (.launch launch)

/-- That a path is one of those of the credentials. -/
def CredentialPaths.Has (paths : CredentialPaths) (path : Path) : Prop :=
  path = paths.certificate ∨ path = paths.key

/-- That a kind has what is done to the files of an identity, from making their directories to removing
them. -/
structure Effect.AllowsFiles (kind : Effect → Prop) (paths : CredentialPaths) : Prop where
  parents : ∀ path parent, paths.Has path → path.parent? = some parent →
    kind (.file (.makeDirectories parent))
  writes : ∀ path text, paths.Has path → kind (.file (.write path text))
  restricts : ∀ path, paths.Has path → kind (.file (.restrict path))
  removes : ∀ path, paths.Has path → kind (.file (.remove path))

/-- That a kind has what is done to the files of the identity that a plan has made, if there is one. -/
def Effect.AllowsFilesOf (kind : Effect → Prop) (plan : Plan) : Prop :=
  ∀ provisioning, plan.provisioning = some provisioning → Effect.AllowsFiles kind provisioning.paths

variable {ε : Type} {kind : Effect → Prop}

theorem Effect.AllowsFiles.of_all (files : ∀ request, kind (.file request)) (paths : CredentialPaths) :
    Effect.AllowsFiles kind paths :=
  ⟨fun _ _ _ _ => files _, fun _ _ _ => files _, fun _ _ => files _, fun _ _ => files _⟩

theorem Action.Within.of_log (events : ∀ event, event.source ≠ .trial → kind (.log event))
    {level : Level} {source : Source} {message : String} {fields : List (String × String)}
    (other : source ≠ .trial) :
    (Action.log level source message fields : Action ε Unit).Within kind :=
  .of_ask (events _ other)

/-- A call that makes no thing and reads no secret. -/
theorem Action.Within.of_calls (allows : Effect.AllowsUpkeep kind) {request : Call}
    (makes : request.operation ≠ .createThing) (reads : request.operation ≠ .getSecret) :
    (Action.call request).Within kind :=
  .of_call (allows.calls request makes reads)

namespace Identity

/-- What is left of making an identity when the thing was made and counted. -/
def certify (identity policy : String) (paths : CredentialPaths) (group : Option String) :
    Action TrialError Identity := do
  let certificate ← step identity "create keys and certificate" .createCertificate
  Action.log .debug .identity "certificate created"
    [("identity", identity), ("certificate_id", certificate.id)]
  attach identity certificate
  step identity "attach policy" (.attachPolicy policy certificate.arn)
  join identity group
  (writeCredentials certificate paths).mapError fun fault =>
    stepFailed identity "write credentials" fault.message
  Action.log .info .identity "identity provisioned"
    [("identity", identity), ("policy", policy), ("group", group.getD ""),
     ("certificate_path", paths.certificate.text)]
  return ⟨identity, certificate.arn, certificate.id, paths, group⟩

theorem establish_eq (identity : String) (source : PolicySource) (paths : CredentialPaths)
    (group : Option String) :
    establish identity source paths group = policyName source >>= fun policy =>
      Action.log .info .identity "creating thing" [("identity", identity)] >>= fun _ =>
      step identity "create thing" (.createThing identity) >>= fun _ =>
      Action.record .identityMade >>= fun _ => certify identity policy paths group := rfl

end Identity

namespace Identity

theorem within_takeAway {operation : Action PlaneError Unit}
    (within : operation.Within kind) : (takeAway operation).Within kind :=
  within.attempt.bind fun outcome => .of_ofExcept (forgive outcome)

section Upkeep

variable (allows : Effect.AllowsUpkeep kind)
include allows

theorem within_step (identity name : String) {request : Call}
    (makes : request.operation ≠ .createThing) (reads : request.operation ≠ .getSecret) :
    (step identity name request).Within kind :=
  (Action.Within.of_calls allows makes reads).mapError _

theorem within_discard (identity certificate : String) :
    (discard identity certificate).Within kind := by
  have taken : (do
      Action.call (.deactivateCertificate certificate)
      Action.call (.deleteCertificate certificate) : Action PlaneError Unit).Within kind :=
    (Action.Within.of_calls allows (by nofun) (by nofun)).bind fun _ =>
      .of_calls allows (by nofun) (by nofun)
  refine taken.attempt.bind fun outcome => ?_
  cases outcome <;> exact .of_log allows.events (by nofun)

theorem within_attach (identity : String) (certificate : Certificate) :
    (attach identity certificate).Within kind := by
  refine (Action.Within.of_calls allows (by nofun) (by nofun)).attempt.bind fun outcome => ?_
  cases outcome with
  | ok value => exact .of_pure ()
  | error fault => exact (within_discard allows _ _).bind fun _ => .of_fail _

theorem within_join (identity : String) (group : Option String) :
    (join identity group).Within kind := by
  cases group with
  | none => exact .of_pure ()
  | some group => exact within_step allows _ _ (by nofun) (by nofun)

theorem within_removePrincipals (identity : String) (principals : List String) :
    (removePrincipals identity principals).Within kind := by
  have one : ∀ principal, (removePrincipal identity principal).Within kind := by
    intro principal
    refine (within_takeAway (.of_calls allows (by nofun) (by nofun))).bind fun _ => ?_
    split
    · exact .of_log allows.events (by nofun)
    · refine (within_takeAway (.of_calls allows (by nofun) (by nofun))).bind fun _ => ?_
      exact (within_takeAway (.of_calls allows (by nofun) (by nofun))).bind fun _ =>
        .of_log allows.events (by nofun)
  induction principals with
  | nil => exact .of_pure []
  | cons principal rest step =>
    refine (one principal).attempt.bind fun outcome => ?_
    cases outcome with
    | ok value => exact step
    | error fault =>
      exact (Action.Within.of_log allows.events (by nofun)).bind fun _ =>
        step.bind fun _ => .of_pure _

theorem within_dismantle (counts : kind (.record .identityRemoved)) (identity : String) :
    (dismantle identity).Within kind := by
  unfold dismantle
  refine (Action.Within.of_calls allows (by nofun) (by nofun)).attempt.bind fun listed => ?_
  cases listed with
  | error fault =>
    dsimp only
    split
    · exact (Action.Within.of_log allows.events (by nofun)).bind fun _ => .of_pure _
    · exact .of_fail _
  | ok principals =>
    refine (within_removePrincipals allows _ _).bind fun faults => ?_
    refine (Action.Within.of_calls allows (by nofun) (by nofun)).attempt.bind fun outcome => ?_
    dsimp only
    split
    · split
      · refine (Action.Within.of_ask counts).bind fun _ => ?_
        exact (Action.Within.of_log allows.events (by nofun)).bind fun _ => .of_pure _
      · exact .of_pure _
    · exact .of_fail _

end Upkeep

theorem within_writeCredentials {paths : CredentialPaths} (files : Effect.AllowsFiles kind paths)
    (certificate : Certificate) : (writeCredentials certificate paths).Within kind := by
  have certificates : paths.Has paths.certificate := .inl rfl
  have keys : paths.Has paths.key := .inr rfl
  refine (Action.Within.makeParent fun _ => files.parents _ _ certificates).bind fun _ => ?_
  refine (Action.Within.makeParent fun _ => files.parents _ _ keys).bind fun _ => ?_
  refine (Action.Within.fileStep (.of_ask (files.writes _ _ certificates))).bind fun _ => ?_
  refine (Action.Within.fileStep (.of_ask (files.writes _ _ keys))).bind fun _ => ?_
  exact .fileStep (.of_ask (files.restricts _ keys))

end Identity

theorem Drive.within_load (reads : ∀ path, kind (.file (.read path))) (path : Path) :
    (Descriptor.load path).Within kind := by
  refine (Action.Within.of_ask (reads path)).bind fun answer => ?_
  cases answer with
  | error fault => exact .of_fail _
  | ok text =>
    dsimp only
    split
    · exact .of_pure _
    · exact .of_fail _

theorem Verification.within_askAndJudge (allows : Effect.AllowsUpkeep kind) {request : Call}
    (judge : request.Answer → Except Discrepancy Unit)
    (makes : request.operation ≠ .createThing) (reads : request.operation ≠ .getSecret) :
    (askAndJudge request judge).Within kind := by
  refine (Action.Within.of_calls allows makes reads).attempt.bind fun outcome => ?_
  cases outcome <;> exact .of_pure _

section Secrets

variable (upkeep : Effect.AllowsUpkeep kind) (secrets : ∀ name, kind (.call (.getSecret name)))
include upkeep secrets

theorem within_resolveSecret (name : String) : (resolveSecret name).Within kind := by
  refine (Action.Within.of_call (secrets name)).attempt.bind fun outcome => ?_
  cases outcome with
  | ok value => exact (Action.Within.of_log upkeep.events (by nofun)).bind fun _ => .of_pure _
  | error fault => exact (Action.Within.of_log upkeep.events (by nofun)).bind fun _ => .of_fail _

theorem Identity.within_policyName (source : PolicySource) : (policyName source).Within kind := by
  cases source with
  | name policy => exact .of_pure policy
  | secret secret => exact within_resolveSecret upkeep secrets secret

end Secrets

/-! ### The work of the phases -/

namespace Identity

section Making

variable {paths : CredentialPaths} (upkeep : Effect.AllowsUpkeep kind)
  (files : Effect.AllowsFiles kind paths)
include upkeep files

theorem within_certify (identity policy : String) (group : Option String) :
    (certify identity policy paths group).Within kind := by
  refine (within_step upkeep _ _ (by nofun) (by nofun)).bind fun certificate => ?_
  refine (Action.Within.of_log upkeep.events (by nofun)).bind fun _ => ?_
  refine (within_attach upkeep _ _).bind fun _ => ?_
  refine (within_step upkeep _ _ (by nofun) (by nofun)).bind fun _ => ?_
  refine (within_join upkeep _ _).bind fun _ => ?_
  refine ((within_writeCredentials files _).mapError _).bind fun _ => ?_
  exact (Action.Within.of_log upkeep.events (by nofun)).bind fun _ => .of_pure _

/-- An identity is made without a process. -/
theorem within_establish (secrets : ∀ name, kind (.call (.getSecret name)))
    (creates : ∀ thing, kind (.call (.createThing thing))) (counts : kind (.record .identityMade))
    (identity : String) (source : PolicySource) (group : Option String) :
    (establish identity source paths group).Within kind := by
  rw [establish_eq]
  refine (within_policyName upkeep secrets source).bind fun policy => ?_
  refine (Action.Within.of_log upkeep.events (by nofun)).bind fun _ => ?_
  refine ((Action.Within.of_call (creates identity)).mapError _).bind fun _ => ?_
  exact (Action.Within.of_ask counts).bind fun _ => within_certify upkeep files _ _ _

end Making

end Identity

section Work

variable (allows : Effect.AllowsWork kind)
include allows

namespace Drive

theorem within_resolveArgument (bindings : Bindings) (argument : Argument) :
    (resolveArgument bindings argument).Within kind := by
  unfold resolveArgument
  split
  · exact (within_resolveSecret allows.toAllowsUpkeep allows.secrets _).bind fun _ => .of_pure _
  · exact .of_pure _
  · exact .of_pure _

theorem within_resolveArguments (bindings : Bindings) (arguments : List Argument) :
    (resolveArguments bindings arguments).Within kind := by
  induction arguments with
  | nil => exact .of_pure []
  | cons argument rest step =>
    exact (within_resolveArgument allows bindings argument).bind fun _ =>
      step.bind fun _ => .of_pure _

theorem within_logReadings (readings : List (Channel × Reading)) :
    (logReadings readings).Within kind := by
  induction readings with
  | nil => exact .of_pure ()
  | cons entry rest step =>
    obtain ⟨channel, reading⟩ := entry
    cases reading <;>
      exact (Action.Within.of_log allows.events (by nofun)).bind fun _ => step

theorem within_execute (launch : Launch) (tailLimit : Nat) :
    (execute launch tailLimit).Within kind := by
  have expiry : ∀ ending, (logExpiry launch ending).Within kind := by
    intro ending
    unfold logExpiry
    split
    · exact .of_log allows.events (by nofun)
    · exact .of_pure ()
  refine (Action.Within.of_ask (allows.launches launch)).bind fun answer => ?_
  cases answer with
  | error reason => exact .of_fail _
  | ok finish =>
    refine (within_logReadings allows _).bind fun _ => ?_
    refine (Action.Within.of_ofExcept _).bind fun _ => ?_
    refine (expiry _).bind fun _ => ?_
    exact (Action.Within.of_log allows.events (by nofun)).bind fun _ => .of_pure _

theorem within_run (path : Path) (bindings : Bindings) (defaultSeconds tailLimit : Nat) :
    (run path bindings defaultSeconds tailLimit).Within kind := by
  refine (within_load allows.reads path).bind fun descriptor => ?_
  refine ((within_resolveArguments allows _ _).bind fun _ => .of_pure _).bind fun launch => ?_
  refine (Action.Within.of_log allows.events (by nofun)).bind fun _ => ?_
  exact within_execute allows launch tailLimit

end Drive

namespace Verification

theorem within_verify (expectation : Expectation) (identity : String) :
    (verify expectation identity).Within kind := by
  have judges : (judge expectation identity).Within kind := by
    cases expectation with
    | thingExists => exact within_askAndJudge allows.toAllowsUpkeep _ (by nofun) (by nofun)
    | jobSucceeded secret =>
      exact (within_resolveSecret allows.toAllowsUpkeep allows.secrets secret).bind fun _ =>
        within_askAndJudge allows.toAllowsUpkeep _ (by nofun) (by nofun)
    | shadowReported shadow property expected =>
      exact within_askAndJudge allows.toAllowsUpkeep _ (by nofun) (by nofun)
  refine judges.bind fun judgement => ?_
  cases judgement with
  | ok value => exact .of_log allows.events (by nofun)
  | error found => exact (Action.Within.of_log allows.events (by nofun)).bind fun _ => .of_fail _

end Verification

end Work

namespace Identity

theorem within_removeCredentials (events : ∀ event, event.source ≠ .trial → kind (.log event))
    {paths : CredentialPaths} (files : Effect.AllowsFiles kind paths) :
    (removeCredentials paths : Action ε Unit).Within kind := by
  have one : ∀ path, paths.Has path → (removeFile path : Action ε Unit).Within kind := by
    intro path own
    refine (Action.Within.of_ask (files.removes path own)).bind fun answer => ?_
    split
    · exact .of_log events (by nofun)
    · exact .of_pure ()
    · exact .of_log events (by nofun)
  exact (one paths.certificate (.inl rfl)).bind fun _ => one paths.key (.inr rfl)

end Identity

namespace Trial

/-- The event about an identity that was gone before its cleanup. -/
def absentEvent (plan : Plan) : Event :=
  ⟨.info, .trial, "identity already absent", [("identity", plan.identity)]⟩

section Cleanup

variable {plan : Plan}

theorem within_closing (absent : kind (.log (absentEvent plan)))
    (removed : Except TrialError Removal) : (closing plan removed).Within kind := by
  cases removed with
  | error fault => exact .of_fail fault
  | ok found =>
    dsimp only [closing]
    split
    · exact (Action.Within.of_ask absent).bind fun _ => .of_pure _
    · exact .of_pure _

theorem within_afterwards (removes : ∀ provisioning, plan.provisioning = some provisioning →
      (Identity.removeCredentials provisioning.paths : Action TrialError Unit).Within kind)
    (absent : kind (.log (absentEvent plan))) (removed : Except TrialError Removal) :
    (afterwards plan removed).Within kind := by
  unfold afterwards
  split
  · rename_i provisioning wanted
    exact (removes provisioning wanted).bind fun _ => within_closing absent removed
  · exact within_closing absent removed

/-- A cleanup gives what the removal of the identity gave. -/
theorem found_of_afterwards {ω : Type} {view : View ω} {removed : Except TrialError Removal}
    {seen : List ω} {found : Removal}
    (shown : (afterwards plan removed).Shows view seen (.done found)) : removed = .ok found := by
  have closed : ∀ {seen}, (closing plan removed).Shows view seen (.done found) →
      removed = .ok found := by
    intro seen shown
    cases removed with
    | error fault =>
      obtain ⟨-, same⟩ := (Action.shows_fail_iff _ _ _ _).mp shown
      cases same
    | ok other =>
      dsimp only [closing] at shown
      split at shown
      · obtain ⟨_, rest, -, gives⟩ := (Action.shows_ask_bind_iff _ _ _ _ _).mp shown
        obtain ⟨-, same⟩ := (Action.shows_pure_iff _ _ _ _).mp gives
        cases same
        rfl
      · obtain ⟨-, same⟩ := (Action.shows_pure_iff _ _ _ _).mp shown
        cases same
        rfl
  unfold afterwards at shown
  split at shown
  · rcases (Action.shows_bind_iff _ _ _ _ _).mp shown with
      ⟨_, first, rest, -, ends, -⟩ | ⟨stop, -, stops⟩
    · exact closed ends
    · cases stops
  · exact closed shown

theorem within_cleanup (upkeep : Effect.AllowsUpkeep kind) (files : Effect.AllowsFilesOf kind plan)
    (counts : kind (.record .identityRemoved)) (absent : kind (.log (absentEvent plan))) :
    (cleanup plan).Within kind := by
  rw [cleanup_eq]
  have dismantles := Identity.within_dismantle upkeep counts plan.identity
  exact dismantles.attempt.bind (within_afterwards
    (fun provisioning wanted => Identity.within_removeCredentials upkeep.events
      (files provisioning wanted)) absent)

end Cleanup

/-! ### What a trial tells -/

/-- That a kind has what a trial tells about its phases and its verdict. -/
structure AllowsTelling (kind : Effect → Prop) : Prop where
  events : ∀ event, kind (.log event)
  results : ∀ family phase slot, kind (.record (.phase family phase slot))
  durations : ∀ family phase, kind (.record (.phaseDuration family phase))
  verdicts : ∀ family verdict, kind (.record (.trial family verdict))

section Telling

variable (tells : AllowsTelling kind)
include tells

theorem within_finishPhase (plan : Plan) (phase : Phase) (slot : Slot) (progress : Progress) :
    (finishPhase plan phase slot progress).Within kind := by
  have writes : (writeSlot plan phase slot progress).Within kind :=
    (Action.Within.of_ask (tells.results _ _ _)).bind fun _ => .of_pure _
  unfold finishPhase
  refine (Action.Within.of_ask (tells.durations _ _)).bind fun _ => ?_
  split <;> exact (Action.Within.of_ask (tells.events _)).bind fun _ => writes

theorem within_skipPhase (plan : Plan) (phase : Phase) (progress : Progress) :
    (skipPhase plan phase progress).Within kind := by
  refine (Action.Within.of_ask (tells.events _)).bind fun _ => ?_
  exact (Action.Within.of_ask (tells.results _ _ _)).bind fun _ => .of_pure _

theorem within_crash (plan : Plan) (message : String) (progress : Progress) :
    (crash plan message progress).Within kind := by
  refine (Action.Within.of_ask (tells.events _)).bind fun _ => ?_
  exact (Action.Within.of_ask (tells.results _ _ _)).bind fun _ => .of_pure _

theorem within_conclude (plan : Plan) (progress : Progress) :
    (conclude plan progress).Within kind := by
  unfold conclude
  refine (Action.Within.of_ask (tells.verdicts _ _)).bind fun _ => ?_
  split <;> exact (Action.Within.of_ask (tells.events _)).bind fun _ => .of_pure _

/-- What comes after the work of a phase. -/
theorem within_passing {α : Type} {plan : Plan} {phase : Phase} {progress : Progress}
    {next : Progress → TrialAction Progress} (rest : ∀ progress, (next progress).Within kind)
    (outcome : Except (Mishap TrialError) α) :
    (match outcome with
      | .ok _ => do next (← finishPhase plan phase .passed progress)
      | .error (.failure fault) => finishPhase plan phase (.failed fault.message) progress
      | .error (.breakdown message) => crash plan message progress :
      TrialAction Progress).Within kind := by
  split
  · exact (within_finishPhase tells _ _ _ _).bind rest
  · exact within_finishPhase tells _ _ _ _
  · exact within_crash tells _ _ _

theorem within_verifyPhase (allows : Effect.AllowsWork kind) (plan : Plan) (progress : Progress) :
    (verifyPhase plan progress).Within kind :=
  (Verification.within_verify allows _ _).contain.bind
    (within_passing tells fun _ => .of_pure _)

theorem within_drivePhase (allows : Effect.AllowsWork kind) (plan : Plan) (limits : Limits)
    (progress : Progress) : (drivePhase plan limits progress).Within kind := by
  refine (Drive.within_run allows _ _ _ _).contain.bind fun outcome => ?_
  split
  · split
    · exact (within_finishPhase tells _ _ _ _).bind
        (within_verifyPhase tells allows plan)
    · exact within_finishPhase tells _ _ _ _
  · exact within_finishPhase tells _ _ _ _
  · exact within_crash tells _ _ _

/-- **What a whole trial asks for.** -/
theorem within_conduct (allows : Effect.AllowsWork kind) {plan : Plan}
    (files : Effect.AllowsFilesOf kind plan) (creates : ∀ thing, kind (.call (.createThing thing)))
    (made : kind (.record .identityMade)) (removed : kind (.record .identityRemoved))
    (limits : Limits) : (conduct plan limits).Within kind := by
  have phases : (protectedPhases plan limits).Within kind := by
    have drives := within_drivePhase tells allows plan limits
    unfold protectedPhases
    split
    · rename_i provisioning wanted
      have makes := Identity.within_establish allows.toAllowsUpkeep (files provisioning wanted)
        allows.secrets creates made plan.identity provisioning.policy provisioning.group
      exact makes.contain.bind (within_passing tells drives)
    · exact (within_skipPhase tells _ _ _).bind drives
  have cleans := within_cleanup allows.toAllowsUpkeep files removed (tells.events (absentEvent plan))
  refine (Action.Within.of_ask (tells.events _)).bind fun _ => ?_
  refine phases.bind fun progress => ?_
  refine (cleans.limited.bind fun slot => within_finishPhase tells _ _ _ _).bind fun progress => ?_
  exact within_conclude tells plan progress

end Telling

end Trial

end DeviceTrial
