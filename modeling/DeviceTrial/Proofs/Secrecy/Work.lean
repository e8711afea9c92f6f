/-
**The work of a trial, done twice with other secrets.**

A secret goes into the policy of a certificate and into the question for a job. The runs go alike for
all that, and what they have logged differs only where they tell of it:

* `paired_establish` — the name of the policy is told when the identity was made, and not before;
* `paired_verify` — two verifications that look the same in a slot look the same in the log;
* `paired_cleanup` — taking the identity away goes alike, apart from its files.
-/

import DeviceTrial.Proofs.Secrecy.Pairing
import DeviceTrial.Proofs.Trial.Confinement

namespace DeviceTrial

open DeviceTrial.Action

variable {standing : Standing}

theorem allowsUpkeep_open (parted : Bool) : Effect.AllowsUpkeep (Effect.IsOpen parted) :=
  ⟨fun _ _ reads => reads, fun _ _ => trivial⟩

theorem Standing.files {parted : Bool} (together : parted = false) (request : FileRequest) :
    Effect.IsOpen parted (.file request) := together

/-! ### Secrets -/

/-- A secret is told to both runs, and to nobody else. -/
theorem paired_resolveSecret (name : String) :
    Paired (World.Twins standing) (resolveSecret name) (resolveSecret name)
      (Both (fun value other one two => (standing.secrets.get? name = some value ∧
        standing.others.get? name = some other) ∧ World.Twins standing one two)
        (World.Twins standing)) := by
  have told : Paired (World.Twins standing) (Action.call (.getSecret name))
      (Action.call (.getSecret name)) (Both (fun value other one two =>
        (standing.secrets.get? name = some value ∧ standing.others.get? name = some other) ∧
          World.Twins standing one two) (World.Twins standing)) := by
    refine paired_call fun twins secrets others => ?_
    rw [← secrets, ← others]
    exact twins.told name
  unfold resolveSecret
  refine told.attempt_bind (fun value other => ?_) (fun fault => ?_) .stopped
  · -- the values are not in the event
    exact .assume fun known => .same_bind (.of_ask trivial)
      (fun _ => .of_pure fun twins => .done ⟨known, twins⟩) .stopped
  · exact .same_bind (.of_ask trivial)
      (fun _ => .of_fail fun twins => .stopped (.failed _) twins) .stopped

/-! ### Making an identity -/

/-- The policy that a source names, with the given secrets. -/
def PolicySource.policy? (secrets : Table String String) : PolicySource → Option String
  | .name policy => some policy
  | .secret key => secrets.get? key

/-- That both runs work with the same policy. -/
def Standing.SamePolicy (standing : Standing) (source : PolicySource) : Prop :=
  source.policy? standing.secrets = source.policy? standing.others

/-- The standing with one more condition. -/
def Standing.only (standing : Standing) (condition : Prop) : Standing :=
  { standing with condition := standing.condition ∧ condition }

namespace Identity

/-- The event that tells of an identity that was made. -/
def provisionedEvent (identity policy : String) (paths : CredentialPaths) (group : Option String) :
    Event :=
  ⟨.info, .identity, "identity provisioned",
    [("identity", identity), ("policy", policy), ("group", group.getD ""),
     ("certificate_path", paths.certificate.text)]⟩

theorem paired_policyName (source : PolicySource) :
    Paired (World.Twins standing) (policyName source) (policyName source)
      (Both (fun policy other one two => (source.policy? standing.secrets = some policy ∧
        source.policy? standing.others = some other) ∧ World.Twins standing one two)
        (World.Twins standing)) := by
  cases source with
  | name policy => exact .of_pure fun twins => .done ⟨⟨rfl, rfl⟩, twins⟩
  | secret secret => exact paired_resolveSecret secret

variable (identity policy other : String) (paths : CredentialPaths) (group : Option String)

/-- **The name of the policy is told** when the identity was made. -/
theorem paired_provisioned :
    Paired (World.Twins standing)
      (Action.ask (.log (provisionedEvent identity policy paths group)) : Action TrialError Unit)
      (Action.ask (.log (provisionedEvent identity other paths group)) : Action TrialError Unit)
      (Both (fun _ _ one two => World.Twins (standing.only (policy = other)) one two)
        (World.Twins standing)) := by
  intro connect launch process tag one two twins
  have logs := twins.logs.append_one (provisionedEvent identity policy paths group)
    (provisionedEvent identity other paths group) rfl ⟨rfl, rfl⟩ ⟨rfl, rfl⟩
  have same : provisionedEvent identity policy paths group =
      provisionedEvent identity other paths group ↔ policy = other := by
    simp [provisionedEvent]
  exact .done { twins with logs := logs.congr (and_congr_right fun _ => same) }

/-- The policies themselves make no difference to what becomes of the identities. -/
theorem paired_certify (together : standing.parted = false) :
    Paired (World.Twins standing) (certify identity policy paths group)
      (certify identity other paths group)
      (Both (fun _ _ one two => World.Twins (standing.only (policy = other)) one two)
        (World.Twins standing)) := by
  have upkeep := allowsUpkeep_open standing.parted
  have permits : ∀ arn, Paired (World.Twins standing)
      (step identity "attach policy" (.attachPolicy policy arn))
      (step identity "attach policy" (.attachPolicy other arn)) standing.Kept := by
    intro arn
    refine ((paired_call fun twins _ _ => twins.permitted policy other arn).mapError _).mono id
      fun both => ?_
    exact both.mono And.right
  refine .same_bind (within_step upkeep _ _ (by nofun) (by nofun)) (fun certificate => ?_) .stopped
  refine .same_bind (.of_log upkeep.events (by nofun)) (fun _ => ?_) .stopped
  refine .same_bind (within_attach upkeep _ _) (fun _ => ?_) .stopped
  refine (permits certificate.arn).bind (fun _ _ => ?_) .stopped
  refine .same_bind (within_join upkeep _ _) (fun _ => ?_) .stopped
  refine .same_bind ((within_writeCredentials (.of_all (Standing.files together) paths) _).mapError _)
    (fun _ => ?_) .stopped
  exact (paired_provisioned identity policy other paths group).bind
    (fun _ _ => .of_pure fun twins => .done twins) .stopped

/-- **Making an identity.** -/
theorem paired_establish (source : PolicySource) (together : standing.parted = false) :
    Paired (World.Twins standing) (establish identity source paths group)
      (establish identity source paths group)
      (Both (fun _ _ one two => World.Twins (standing.only (standing.SamePolicy source)) one two)
        (World.Twins standing)) := by
  have upkeep := allowsUpkeep_open standing.parted
  rw [establish_eq]
  refine (paired_policyName source).bind (fun policy other => .assume fun known => ?_) .stopped
  have same : standing.SamePolicy source ↔ policy = other := by
    rw [Standing.SamePolicy, known.1, known.2, Option.some_inj]
  refine .same_bind (.of_log upkeep.events (by nofun)) (fun _ => ?_) .stopped
  refine .same_bind ((Action.Within.of_call nofun).mapError _) (fun _ => ?_) .stopped
  refine .same_bind (.of_ask trivial) (fun _ => ?_) .stopped
  rw [Standing.only, same]
  exact paired_certify identity policy other paths group together

end Identity

/-! ### Ends that look the same -/

/-- That two actions end in a way that looks the same in a slot. -/
inductive LikeEnds {α β : Type} : Fate TrialError α → Fate TrialError β → Prop where
  | done (value : α) (other : β) : LikeEnds (.done value) (.done other)
  | failed {fault other : TrialError} (same : fault.message = other.message) :
    LikeEnds (.failed fault) (.failed other)
  | panicked (message : String) : LikeEnds (.panicked message) (.panicked message)
  | hung : LikeEnds .hung .hung

theorem LikeEnds.of_stops {α β : Type} {stop : Fate TrialError α} {halt : Fate TrialError β}
    (stops : stop.Stops halt) : LikeEnds stop halt := by
  cases stops with
  | failed fault => exact .failed rfl
  | panicked message => exact .panicked message
  | hung => exact .hung

/-! ### Texts of errors -/

/-- The words with which the text of an error begins. -/
def TrialError.opening : TrialError → String
  | .settings _ => "config error: "
  | .secretUnavailable _ _ => "secret '"
  | .provisioningFailed _ _ => "provisioning of '"
  | .descriptor _ _ => "scenario descriptor "
  | .launchFailed _ => "failed to launch driven process: "
  | .driveTimedOut _ => "driven process timed out after "
  | .driveFailed _ => "driven process exited with "
  | .verificationFailed _ => "verification failed: "
  | .cleanupFailed _ _ => "cleanup of '"
  | .system _ => "io error: "

theorem TrialError.exists_opening (fault : TrialError) :
    ∃ rest, fault.message = fault.opening ++ rest := by
  -- a text of three parts is put together from the left
  have parts : ∀ front middle last text : String, text = front ++ middle ++ last →
      ∃ rest, text = front ++ rest :=
    fun front middle last text same => ⟨middle ++ last, same.trans String.append_assoc⟩
  cases fault with
  | settings cause => exact ⟨cause.message, rfl⟩
  | secretUnavailable name reason =>
    exact parts _ name ("' unavailable: " ++ reason) _ String.append_assoc
  | provisioningFailed identity reason | cleanupFailed identity reason =>
    exact parts _ identity ("' failed: " ++ reason) _ String.append_assoc
  | descriptor path reason => exact parts _ path (": " ++ reason) _ String.append_assoc
  | launchFailed reason | system reason => exact ⟨reason, rfl⟩
  | driveTimedOut seconds => exact parts _ (toString seconds) "s" _ rfl
  | driveFailed code => exact ⟨exitText code, rfl⟩
  | verificationFailed cause => exact ⟨cause.message, rfl⟩

/-! ### Verification -/

namespace Verification

/-- The event that tells of a verification that did not pass. -/
def failureEvent (identity : String) (expectation : Expectation) (found : Discrepancy) : Event :=
  ⟨.warn, .verification, "verification failed",
    [("identity", identity), ("expectation", expectation.name), ("reason", found.label),
     ("error", found.message)]⟩

/-- The first letter of the text of a discrepancy. -/
def initial : Discrepancy → Char
  | .missingField _ => 'm'
  | .differs _ _ _ => 'f'
  | .resourceMissing _ => 'r'
  | .queryFailed _ => 'q'

theorem head?_message (found : Discrepancy) :
    found.message.toList.head? = some (initial found) := by
  cases found with
  | missingField path =>
    show ("missing field '" ++ path ++ "'").toList.head? = some 'm'
    simp
  | differs path expected actual =>
    show ("field '" ++ path ++ "' is " ++ actual ++ ", expected " ++ expected).toList.head? =
      some 'f'
    simp
  | resourceMissing resource =>
    show ("resource not found: " ++ resource).toList.head? = some 'r'
    simp
  | queryFailed reason =>
    show ("query error: " ++ reason).toList.head? = some 'q'
    simp

/-- The first letter tells what kind of discrepancy there is. -/
theorem label_eq {found other : Discrepancy} (same : initial found = initial other) :
    found.label = other.label := by
  cases found <;> cases other <;> first | (simp [initial] at same; done) | rfl

/-- **Discrepancies that look the same in a slot look the same in the log.** -/
theorem failureEvent_eq (identity : String) (expectation : Expectation) {found other : Discrepancy}
    (same : (TrialError.verificationFailed found).message =
      (TrialError.verificationFailed other).message) :
    failureEvent identity expectation found = failureEvent identity expectation other := by
  have texts : found.message = other.message :=
    (String.append_right_inj "verification failed: ").mp same
  have letters : some (initial found) = some (initial other) := by
    rw [← head?_message, ← head?_message, texts]
  have labels := label_eq (Option.some.inj letters)
  rw [failureEvent, failureEvent, labels, texts]

/-- The question is the same, but perhaps for the job that is asked about. -/
theorem paired_judge (expectation : Expectation) (identity : String) :
    Paired (World.Twins standing) (judge expectation identity) (judge expectation identity)
      standing.Kept := by
  have upkeep := allowsUpkeep_open standing.parted
  cases expectation with
  | thingExists => exact .of_same (within_askAndJudge upkeep _ (by nofun) (by nofun))
  | shadowReported shadow property expected =>
    exact .of_same (within_askAndJudge upkeep _ (by nofun) (by nofun))
  | jobSucceeded secret =>
    refine (paired_resolveSecret secret).bind (fun job other => .assume fun _ => ?_) .stopped
    refine (paired_call fun twins _ _ => twins.executed job other identity).attempt_bind
      (fun _ _ => ?_) (fun _ => ?_) .stopped
    · exact .of_pure fun holds => .done holds.2
    · exact .of_pure fun twins => .done twins

/-- **Verifications.** -/
theorem paired_verify (expectation : Expectation) (identity : String) :
    Paired (World.Twins standing) (verify expectation identity) (verify expectation identity)
      fun fate one other two => LikeEnds fate other → World.Twins standing one two := by
  refine (paired_judge expectation identity).bind (fun judgement other => ?_)
    fun _ twins _ => twins
  rintro connect launch process tag one two twins like
  cases judgement with
  | ok value =>
    cases other with
    | ok also => exact { twins with logs := twins.logs.append _ }
    | error found => cases like
  | error found =>
    cases other with
    | ok also => cases like
    | error also =>
      obtain ⟨_, _⟩ | ⟨same⟩ | _ | _ := like
      have events := failureEvent_eq identity expectation same
      have logs : Log.Compares standing.condition standing.strayed
          (one.events ++ [failureEvent identity expectation found])
          (two.events ++ [failureEvent identity expectation also]) := by
        rw [events]
        exact twins.logs.append _
      exact { twins with logs := logs }

end Verification

/-! ### Cleanup -/

namespace Identity

/-- **A file that is removed** may be there in one world and not in the other. -/
theorem runIn_removeFile {σ ε : Type} (host : Host σ) (world : World σ) (path : Path) :
    ∃ files told, (removeFile path : Action ε Unit).runIn host world =
        (.done (), { world with files := files, events := world.events ++ told }) ∧
      Log.Only .clearing told := by
  unfold removeFile
  rw [Action.file, runIn_ask_bind]
  split
  · exact ⟨_, [_], rfl, fun event inside => .inr (List.mem_singleton.mp inside ▸ rfl)⟩
  · refine ⟨(world.files.answer (.remove path)).2, [], ?_, nofun⟩
    rw [List.append_nil]
    rfl
  · exact ⟨_, [_], rfl, fun event inside => .inr (List.mem_singleton.mp inside ▸ rfl)⟩

theorem runIn_removeCredentials {σ ε : Type} (host : Host σ) (world : World σ)
    (paths : CredentialPaths) :
    ∃ files told, (removeCredentials paths : Action ε Unit).runIn host world =
        (.done (), { world with files := files, events := world.events ++ told }) ∧
      Log.Only .clearing told := by
  obtain ⟨files, told, first, only⟩ := runIn_removeFile (ε := ε) host world paths.certificate
  obtain ⟨left, more, second, also⟩ := runIn_removeFile (ε := ε) host
    { world with files := files, events := world.events ++ told } paths.key
  refine ⟨left, told ++ more, ?_, fun event inside => ?_⟩
  · unfold removeCredentials
    rw [Action.runIn_bind, first, Fate.onward, second, List.append_assoc]
  · rcases List.mem_append.mp inside with here | there
    · exact only event here
    · exact also event there

/-- **Taking the files away.** -/
theorem paired_removeCredentials (paths : CredentialPaths) (clean : .clearing ∉ standing.strayed) :
    Paired (World.Twins standing) (removeCredentials paths : Action TrialError Unit)
      (removeCredentials paths : Action TrialError Unit) (standing.astray .clearing).Kept := by
  intro connect launch process tag one two twins
  obtain ⟨files, told, first, only⟩ :=
    runIn_removeCredentials (ε := TrialError) (.inMemory connect launch tag) one paths
  obtain ⟨filesToo, others, second, also⟩ :=
    runIn_removeCredentials (ε := TrialError) (.inMemory connect process tag) two paths
  rw [first, second]
  exact .done (twins.stray clean only also files filesToo)

end Identity

namespace Trial

/-- **The cleanup.** -/
theorem paired_cleanup (plan : Plan) (clean : .clearing ∉ standing.strayed) :
    Paired (World.Twins standing) (cleanup plan) (cleanup plan)
      (standing.astray .clearing).Same := by
  have upkeep := allowsUpkeep_open standing.parted
  have closes : ∀ removed, Paired (World.Twins (standing.astray .clearing)) (closing plan removed)
      (closing plan removed) (standing.astray .clearing).Same :=
    fun removed => paired_same (within_closing trivial removed)
  rw [cleanup_eq]
  refine .same_bind (Identity.within_dismantle upkeep trivial plan.identity).attempt
    (fun removed => ?_) fun stops twins => .stopped stops (twins.astray .clearing)
  unfold afterwards
  split
  · exact (Identity.paired_removeCredentials _ clean).bind (fun _ _ => closes removed) .stopped
  · exact (closes removed).mono (fun twins => twins.astray .clearing) id

end Trial

end DeviceTrial
