/-
**Two registries that look alike to a run.**

A registry that is shared looks to a run as it would if the run were alone: its thing is there or not,
with its own certificate or without, and nothing else that it looks at is changed by others. What the
run asks is therefore answered alike in both registries, and they look alike again after that.

* `Registry.Matches` — that two registries look alike;
* `Registry.Matches.answered` — **what can be answered alike is answered alike**;
* `Registry.Matches.of_keeps` — what others do to their own makes no difference.
-/

import DeviceTrial.Proofs.Together.Likeness

namespace DeviceTrial

namespace RegisteredCertificate

/-- What becomes of a certificate to which a policy is attached. -/
def permitted (policy : String) (known : RegisteredCertificate) : RegisteredCertificate :=
  { known with policies := known.policies ++ [policy] }

/-- What becomes of a certificate that is deactivated. -/
def deactivated (known : RegisteredCertificate) : RegisteredCertificate :=
  { known with active := false }

end RegisteredCertificate

namespace Registry

/-- A thing in two registries: it is in none, or it has no principals, or its only principal is the
certificate of the run. -/
inductive ThingAlike (made : Option (Nat × Nat)) :
    Option RegisteredThing → Option RegisteredThing → Prop where
  | absent : ThingAlike made none none
  | bare (groups others : List String) :
    ThingAlike made (some ⟨[], groups⟩) (some ⟨[], others⟩)
  | attached {m n : Nat} (own : made = some (m, n)) {principal other : String}
      (here : principal = (certificateNumber m).arn) (there : other = (certificateNumber n).arn)
      (groups others : List String) :
    ThingAlike made (some ⟨[principal], groups⟩) (some ⟨[other], others⟩)

/-- That the certificate of a number was issued, and what is known of it. -/
def Holds (registry : Registry) (n : Nat) (known : Option RegisteredCertificate) : Prop :=
  n ≤ registry.issued ∧ registry.certificates.get? (certificateId n) = known

/-- The certificates of the run in two registries. -/
inductive CertificatesAlike (alone shared : Registry) : Stage → Prop where
  | unmade : CertificatesAlike alone shared .unmade
  | live {m n : Nat} (policies others : List String)
      (here : alone.Holds m (some ⟨(certificateNumber m).arn, true, policies⟩))
      (there : shared.Holds n (some ⟨(certificateNumber n).arn, true, others⟩)) :
    CertificatesAlike alone shared (.live m n)
  | idle {m n : Nat} (policies others : List String)
      (here : alone.Holds m (some ⟨(certificateNumber m).arn, false, policies⟩))
      (there : shared.Holds n (some ⟨(certificateNumber n).arn, false, others⟩)) :
    CertificatesAlike alone shared (.idle m n)
  | gone {m n : Nat} (here : alone.Holds m none) (there : shared.Holds n none) :
    CertificatesAlike alone shared (.idle m n)

/-- **That two registries look alike** to the run of a thing. -/
structure Matches (thing : String) (stage : Stage) (alone shared : Registry) : Prop where
  sound : alone.IsSound
  soundShared : shared.IsSound
  secrets : shared.secrets = alone.secrets
  jobs : shared.jobs = alone.jobs
  shadows : shared.shadows = alone.shadows
  failing : shared.failing = alone.failing
  /-- Nothing breaks down. -/
  unbroken : alone.panicking = []
  unbrokenShared : shared.panicking = []
  /-- Taking away is not made to fail. -/
  spared : ∀ operation ∈ alone.failing, operation.isTeardown = false
  things : ThingAlike stage.made? (alone.things.get? thing) (shared.things.get? thing)
  certificates : CertificatesAlike alone shared stage

variable {thing : String} {stage : Stage} {alone shared : Registry}

/-- What becomes of a call that nothing stands in the way of. -/
def work (registry : Registry) (call : Call) : Reply call.Answer × Registry :=
  match registry.step call with
  | .ok (value, after) => (.ok value, after)
  | .error fault => (.error fault, registry)

/-- That two calls are answered alike, and that the registries look alike after that. -/
def Answered (thing : String) (stage : Stage) (call other : Call)
    (alone : Reply call.Answer × Registry) (shared : Reply other.Answer × Registry) : Prop :=
  ∃ after, (∀ ground, Matched thing ⟨stage, ground⟩ (.call call) alone.1 (.call other) shared.1
    ⟨after, ground⟩) ∧ Matches thing after alone.2 shared.2

section Answers

variable {call other : Call} {own others : Registry} {after : Stage}

theorem Fulfils.work_eq {value : call.Answer} (fulfils : alone.Fulfils call value own) :
    alone.work call = (.ok value, own) := by
  rw [work, fulfils.step_eq]

theorem Denies.work_eq {fault : PlaneError} (denies : alone.Denies call fault) :
    alone.work call = (.error fault, alone) := by
  rw [work, denies.step_eq]

/-- Both calls do their work. -/
theorem Answered.done {value : call.Answer} {answer : other.Answer}
    (here : alone.Fulfils call value own) (there : shared.Fulfils other answer others)
    (matched : ∀ ground, Matched thing ⟨stage, ground⟩ (.call call) (.ok value) (.call other)
      (.ok answer) ⟨after, ground⟩)
    (matches' : Matches thing after own others) :
    Answered thing stage call other (alone.work call) (shared.work other) := by
  rw [here.work_eq, there.work_eq]
  exact ⟨after, matched, matches'⟩

/-- Neither call can do its work. -/
theorem Answered.denied {fault reason : PlaneError} (here : alone.Denies call fault)
    (there : shared.Denies other reason)
    (matched : ∀ ground, Matched thing ⟨stage, ground⟩ (.call call) (.error fault) (.call other)
      (.error reason) ⟨after, ground⟩)
    (matches' : Matches thing after alone shared) :
    Answered thing stage call other (alone.work call) (shared.work other) := by
  rw [here.work_eq, there.work_eq]
  exact ⟨after, matched, matches'⟩

end Answers

/-- What makes no difference to the certificates of the run makes none to how they look. -/
theorem CertificatesAlike.congr {here there : Registry}
    (alike : CertificatesAlike alone shared stage)
    (first : ∀ {n known}, stage.made?.map Prod.fst = some n → alone.Holds n known →
      here.Holds n known)
    (second : ∀ {n known}, stage.made?.map Prod.snd = some n → shared.Holds n known →
      there.Holds n known) : CertificatesAlike here there stage := by
  cases alike with
  | unmade => exact .unmade
  | live policies others known own => exact .live policies others (first rfl known) (second rfl own)
  | idle policies others known own => exact .idle policies others (first rfl known) (second rfl own)
  | gone known own => exact .gone (first rfl known) (second rfl own)

section Changes

variable (matches' : Matches thing stage alone shared)

include matches'

/-- The log makes no difference. -/
theorem Matches.logged (call other : Call) :
    Matches thing stage (alone.logged call) (shared.logged other) :=
  { matches' with
    sound := matches'.sound.of_same rfl rfl
    soundShared := matches'.soundShared.of_same rfl rfl
    certificates := matches'.certificates.congr (fun _ holds => holds) fun _ holds => holds }

/-- The thing changes alike. -/
theorem Matches.with_things {own others : Table String RegisteredThing}
    (alike : ThingAlike stage.made? (own.get? thing) (others.get? thing)) :
    Matches thing stage { alone with things := own } { shared with things := others } :=
  { matches' with
    sound := matches'.sound.of_same rfl rfl
    soundShared := matches'.soundShared.of_same rfl rfl
    things := alike
    certificates := matches'.certificates.congr (fun _ holds => holds) fun _ holds => holds }

/-- The thing is missing in both registries, or there in both. -/
theorem Matches.thing_cases :
    (alone.things.get? thing = none ∧ shared.things.get? thing = none) ∨
      ∃ known other, alone.things.get? thing = some known ∧
        shared.things.get? thing = some other ∧
        ThingAlike stage.made? (some known) (some other) := by
  have things := matches'.things
  cases here : alone.things.get? thing with
  | none =>
    cases there : shared.things.get? thing with
    | none => exact .inl ⟨rfl, rfl⟩
    | some other =>
      rw [here, there] at things
      cases things
  | some known =>
    cases there : shared.things.get? thing with
    | none =>
      rw [here, there] at things
      cases things
    | some other => exact .inr ⟨known, other, rfl, rfl, here ▸ there ▸ things⟩

/-- The thing is changed in both registries. -/
theorem Matches.with_changed {known other : RegisteredThing}
    {change change' : RegisteredThing → RegisteredThing}
    (here : alone.things.get? thing = some known) (there : shared.things.get? thing = some other)
    (alike : ThingAlike stage.made? (some (change known)) (some (change' other))) :
    Matches thing stage { alone with things := alone.things.update thing change }
      { shared with things := shared.things.update thing change' } := by
  refine matches'.with_things ?_
  rw [Table.get?_update, Table.get?_update, if_pos rfl, if_pos rfl, here, there]
  exact alike

end Changes

theorem answer_of_unbroken {registry : Registry} (unbroken : registry.panicking = [])
    (call : Call) :
    answer call registry =
      if call.operation ∈ registry.failing then
        (.error (.refused "mock" ("injected failure in " ++ sabotageText call)),
          registry.logged call)
      else (registry.logged call).work call := by
  unfold answer
  dsimp only
  rw [unbroken, if_neg List.not_mem_nil]
  rfl

/-- What is answered alike when nothing stands in the way is answered alike. -/
theorem Matches.of_work {call other : Call} (matches' : Matches thing stage alone shared)
    (same : other.operation = call.operation)
    (refused : call.operation.isTeardown = false → other.target = call.target ∧
      ∀ fault ground, Matched thing ⟨stage, ground⟩ (.call call) (.error fault)
        (.call other) (.error fault) ⟨stage, ground⟩)
    (works : ∀ {alone shared}, Matches thing stage alone shared →
      Answered thing stage call other (alone.work call) (shared.work other)) :
    Answered thing stage call other (answer call alone) (answer other shared) := by
  rw [answer_of_unbroken matches'.unbroken, answer_of_unbroken matches'.unbrokenShared,
    matches'.failing, same]
  by_cases fails : call.operation ∈ alone.failing
  · rw [if_pos fails, if_pos fails]
    obtain ⟨target, alike⟩ := refused (matches'.spared _ fails)
    have text : sabotageText other = sabotageText call := by
      unfold sabotageText
      rw [same, target]
    rw [text]
    exact ⟨stage, alike _, matches'.logged call other⟩
  · rw [if_neg fails, if_neg fails]
    exact works (matches'.logged call other)

/-! ### Calls in the same words -/

section Words

variable {call : Call} (plain : call.IsPlain thing) {own others : Registry}

include plain

/-- The same call does the same work. -/
theorem Answered.plain_done {value : call.Answer} (here : alone.Fulfils call value own)
    (there : shared.Fulfils call value others) (matches' : Matches thing stage own others) :
    Answered thing stage call call (alone.work call) (shared.work call) :=
  .done here there (fun _ => .plain plain nofun) matches'

/-- The same call is denied for the same reason. -/
theorem Answered.plain_denied {fault : PlaneError} (here : alone.Denies call fault)
    (there : shared.Denies call fault) (matches' : Matches thing stage alone shared) :
    Answered thing stage call call (alone.work call) (shared.work call) :=
  .denied here there (fun _ => .plain plain nofun) matches'

end Words

/-- A thing is in both registries or in none. -/
theorem ThingAlike.isSome_eq {made : Option (Nat × Nat)} {known other : Option RegisteredThing}
    (alike : ThingAlike made known other) : other.isSome = known.isSome := by
  cases alike with
  | absent => rfl
  | bare groups others => rfl
  | attached own here there groups others => rfl

/-- Groups make no difference. -/
theorem ThingAlike.regrouped {made : Option (Nat × Nat)} {known other : RegisteredThing}
    (alike : ThingAlike made (some known) (some other)) (groups others : List String) :
    ThingAlike made (some { known with groups := groups }) (some { other with groups := others }) := by
  cases alike with
  | bare => exact .bare _ _
  | attached own here there => exact .attached own here there _ _

section Plain

variable (matches' : Matches thing stage alone shared)

include matches'

theorem works_getSecret (name : String) :
    Answered thing stage (.getSecret name) (.getSecret name) (alone.work (.getSecret name))
      (shared.work (.getSecret name)) := by
  have plain : (Call.getSecret name).IsPlain thing := trivial
  cases here : alone.secrets.get? name with
  | none =>
    have there := matches'.secrets ▸ here
    exact .plain_denied plain (.secretMissing here) (.secretMissing there) matches'
  | some value =>
    have there := matches'.secrets ▸ here
    exact .plain_done plain (.secretRead here) (.secretRead there) matches'

theorem works_describeJob (job other : String) :
    Answered thing stage (.describeJob job other) (.describeJob job other)
      (alone.work (.describeJob job other)) (shared.work (.describeJob job other)) := by
  have plain : (Call.describeJob job other).IsPlain thing := trivial
  have there : shared.Fulfils (.describeJob job other) (shared.jobs.get? (job, other)) shared :=
    .jobDescribed job other
  rw [matches'.jobs] at there
  exact .plain_done plain (.jobDescribed job other) there matches'

theorem works_fetchShadow (other : String) (shadow : Option String) :
    Answered thing stage (.fetchShadow other shadow) (.fetchShadow other shadow)
      (alone.work (.fetchShadow other shadow)) (shared.work (.fetchShadow other shadow)) := by
  have plain : (Call.fetchShadow other shadow).IsPlain thing := trivial
  cases here : alone.shadows.get? (other, shadow) with
  | none =>
    have there := matches'.shadows ▸ here
    exact .plain_denied plain (.shadowMissing here) (.shadowMissing there) matches'
  | some payload =>
    have there := matches'.shadows ▸ here
    exact .plain_done plain (.shadowFetched here) (.shadowFetched there) matches'

theorem works_createThing :
    Answered thing stage (.createThing thing) (.createThing thing)
      (alone.work (.createThing thing)) (shared.work (.createThing thing)) := by
  have plain : (Call.createThing thing).IsPlain thing := rfl
  rcases matches'.thing_cases with ⟨here, there⟩ | ⟨known, other, here, there, -⟩
  · refine .plain_done plain (.thingMade here) (.thingMade there) (matches'.with_things ?_)
    rw [Table.get?_insert_self, Table.get?_insert_self]
    exact .bare [] []
  · exact .plain_done plain (.thingThere here) (.thingThere there) matches'

theorem works_describeThing :
    Answered thing stage (.describeThing thing) (.describeThing thing)
      (alone.work (.describeThing thing)) (shared.work (.describeThing thing)) := by
  have plain : (Call.describeThing thing).IsPlain thing := rfl
  rcases matches'.thing_cases with ⟨here, there⟩ | ⟨known, other, here, there, -⟩
  · exact .plain_denied plain (.thingMissing rfl here) (.thingMissing rfl there) matches'
  · exact .plain_done plain (.thingDescribed here) (.thingDescribed there) matches'

theorem works_joinGroup (group : String) :
    Answered thing stage (.joinGroup thing group) (.joinGroup thing group)
      (alone.work (.joinGroup thing group)) (shared.work (.joinGroup thing group)) := by
  have plain : (Call.joinGroup thing group).IsPlain thing := rfl
  rcases matches'.thing_cases with ⟨here, there⟩ | ⟨known, other, here, there, alike⟩
  · exact .plain_denied plain (.thingMissing rfl here) (.thingMissing rfl there) matches'
  · exact .plain_done plain (.groupJoined here) (.groupJoined there)
      (matches'.with_changed here there (alike.regrouped _ _))

theorem works_deleteThing :
    Answered thing stage (.deleteThing thing) (.deleteThing thing)
      (alone.work (.deleteThing thing)) (shared.work (.deleteThing thing)) := by
  have plain : (Call.deleteThing thing).IsPlain thing := rfl
  have gone : ThingAlike stage.made? ((alone.things.erase thing).get? thing)
      ((shared.things.erase thing).get? thing) := by
    rw [Table.get?_erase_self, Table.get?_erase_self]
    exact .absent
  rcases matches'.thing_cases with ⟨here, there⟩ | ⟨known, other, here, there, alike⟩
  · exact .plain_denied plain (.thingMissing rfl here) (.thingMissing rfl there) matches'
  · cases alike with
    | bare groups others =>
      exact .plain_done plain (.thingDeleted here rfl) (.thingDeleted there rfl)
        (matches'.with_things gone)
    | attached own first second groups others =>
      -- both have one principal, so the reason is the same
      have held : shared.Denies (.deleteThing thing) _ :=
        .stillAttached there (List.cons_ne_nil _ _)
      exact .plain_denied plain (.stillAttached here (List.cons_ne_nil _ _)) held matches'

end Plain

/-! ### Calls about certificates -/

/-- A thing without principals looks the same whatever was issued. -/
theorem ThingAlike.of_unmade {made : Option (Nat × Nat)} {known other : Option RegisteredThing}
    (alike : ThingAlike none known other) : ThingAlike made known other := by
  cases alike with
  | absent => exact .absent
  | bare groups others => exact .bare groups others
  | attached own => cases own

/-- The certificates of the run become principals of the thing. -/
theorem ThingAlike.included {m n : Nat} {known other : RegisteredThing}
    (alike : ThingAlike (some (m, n)) (some known) (some other)) {principal own : String}
    (here : principal = (certificateNumber m).arn) (there : own = (certificateNumber n).arn) :
    ThingAlike (some (m, n))
      (some { known with principals := includeText principal known.principals })
      (some { other with principals := includeText own other.principals }) := by
  have single : ∀ text : String, includeText text [text] = [text] :=
    fun text => if_pos List.mem_cons_self
  cases alike with
  | bare groups others => exact .attached rfl here there _ _
  | attached same first second groups others =>
    cases same
    rw [first.trans here.symm, second.trans there.symm, single, single]
    exact .attached rfl here there _ _

/-- The certificates of the run are taken from the thing. -/
theorem ThingAlike.excluded {m n : Nat} {known other : RegisteredThing}
    (alike : ThingAlike (some (m, n)) (some known) (some other)) {principal own : String}
    (here : principal = (certificateNumber m).arn) (there : own = (certificateNumber n).arn) :
    ThingAlike (some (m, n))
      (some { known with principals := known.principals.filter fun other => other ≠ principal })
      (some { other with principals := other.principals.filter fun other => other ≠ own }) := by
  have none : ∀ text : String, [text].filter (fun other => other ≠ text) = [] :=
    fun text => by simp
  cases alike with
  | bare groups others => exact .bare _ _
  | attached same first second groups others =>
    cases same
    rw [first.trans here.symm, second.trans there.symm, none, none]
    exact .bare _ _

/-- The registry with the certificate of a number changed. -/
def withUpdate (registry : Registry) (n : Nat)
    (change : RegisteredCertificate → RegisteredCertificate) : Registry :=
  { registry with certificates := registry.certificates.update (certificateId n) change }

theorem Holds.updated {registry : Registry} {n : Nat} {known : RegisteredCertificate}
    (holds : registry.Holds n (some known))
    (change : RegisteredCertificate → RegisteredCertificate) :
    (registry.withUpdate n change).Holds n (some (change known)) := by
  refine ⟨holds.1, ?_⟩
  show (registry.certificates.update _ change).get? _ = _
  rw [Table.get?_update, if_pos rfl, holds.2, Option.map_some]

/-- The certificates of the run change alike. -/
theorem Matches.update (matches' : Matches thing stage alone shared) (m n : Nat)
    (change : RegisteredCertificate → RegisteredCertificate)
    (keeps : ∀ known, (change known).arn = known.arn) {after : Stage}
    (made : stage.made? = after.made?)
    (certificates : CertificatesAlike (alone.withUpdate m change) (shared.withUpdate n change)
      after) :
    Matches thing after (alone.withUpdate m change) (shared.withUpdate n change) :=
  { matches' with
    sound := matches'.sound.change keeps rfl rfl
    soundShared := matches'.soundShared.change keeps rfl rfl
    things := made ▸ matches'.things
    certificates := certificates }

section Certificates

variable {m n : Nat}

theorem works_createCertificate (matches' : Matches thing .unmade alone shared) :
    Answered thing .unmade .createCertificate .createCertificate (alone.work .createCertificate)
      (shared.work .createCertificate) := by
  refine .done .certificateMade .certificateMade (fun ground => .issued _ _ ground) ?_
  exact { matches' with
    sound := matches'.sound.issue rfl rfl
    soundShared := matches'.soundShared.issue rfl rfl
    things := matches'.things.of_unmade
    certificates := .live [] [] ⟨Nat.le_refl _, Table.get?_insert_self _ _ _⟩
      ⟨Nat.le_refl _, Table.get?_insert_self _ _ _⟩ }

theorem works_attachPrincipal (matches' : Matches thing (.live m n) alone shared) :
    Answered thing (.live m n) (.attachPrincipal thing (certificateNumber m).arn)
      (.attachPrincipal thing (certificateNumber n).arn)
      (alone.work (.attachPrincipal thing (certificateNumber m).arn))
      (shared.work (.attachPrincipal thing (certificateNumber n).arn)) := by
  rcases matches'.thing_cases with ⟨here, there⟩ | ⟨known, other, here, there, alike⟩
  · exact .denied (.thingMissing rfl here) (.thingMissing rfl there)
      (fun ground => .attached m n ground nofun) matches'
  · exact .done (.principalAttached here) (.principalAttached there)
      (fun ground => .attached m n ground nofun)
      (matches'.with_changed here there (alike.included rfl rfl))

theorem works_attachPolicy (matches' : Matches thing (.live m n) alone shared) (policy : String) :
    Answered thing (.live m n) (.attachPolicy policy (certificateNumber m).arn)
      (.attachPolicy policy (certificateNumber n).arn)
      (alone.work (.attachPolicy policy (certificateNumber m).arn))
      (shared.work (.attachPolicy policy (certificateNumber n).arn)) := by
  have certificates := matches'.certificates
  cases certificates with
  | live policies others here there =>
    have first : alone.certificateWithArn? (certificateNumber m).arn = some (certificateId m) :=
      matches'.sound.certificateWithArn?_of_known here.2
    have second : shared.certificateWithArn? (certificateNumber n).arn = some (certificateId n) :=
      matches'.soundShared.certificateWithArn?_of_known there.2
    refine .done (.policyAttached first) (.policyAttached second)
      (fun ground => .permitted policy m n ground nofun) ?_
    exact matches'.update m n (.permitted policy) (fun _ => rfl) rfl
      (.live (policies ++ [policy]) (others ++ [policy]) (here.updated _) (there.updated _))

theorem works_deactivateCertificate (matches' : Matches thing stage alone shared)
    (made : stage.made? = some (m, n)) :
    Answered thing stage (.deactivateCertificate (certificateNumber m).id)
      (.deactivateCertificate (certificateNumber n).id)
      (alone.work (.deactivateCertificate (certificateNumber m).id))
      (shared.work (.deactivateCertificate (certificateNumber n).id)) := by
  have certificates := matches'.certificates
  have taken : ∀ {policies others : List String} {active : Bool},
      alone.Holds m (some ⟨(certificateNumber m).arn, active, policies⟩) →
      shared.Holds n (some ⟨(certificateNumber n).arn, active, others⟩) →
      Answered thing stage (.deactivateCertificate (certificateNumber m).id)
        (.deactivateCertificate (certificateNumber n).id)
        (alone.work (.deactivateCertificate (certificateNumber m).id))
        (shared.work (.deactivateCertificate (certificateNumber n).id)) := by
    intro policies others active here there
    refine .done (.certificateDeactivated here.2) (.certificateDeactivated there.2)
      (fun ground => .deactivated made .taken) ?_
    exact matches'.update m n .deactivated (fun _ => rfl) made
      (.idle policies others (here.updated _) (there.updated _))
  cases certificates with
  | unmade => cases made
  | live policies others here there =>
    cases made
    exact taken here there
  | idle policies others here there =>
    cases made
    exact taken here there
  | gone here there =>
    cases made
    exact .denied (.certificateMissing rfl here.2) (.certificateMissing rfl there.2)
      (fun ground => .deactivated rfl (.missing rfl rfl)) matches'

theorem works_deleteCertificate (matches' : Matches thing (.idle m n) alone shared) :
    Answered thing (.idle m n) (.deleteCertificate (certificateNumber m).id)
      (.deleteCertificate (certificateNumber n).id)
      (alone.work (.deleteCertificate (certificateNumber m).id))
      (shared.work (.deleteCertificate (certificateNumber n).id)) := by
  have certificates := matches'.certificates
  cases certificates with
  | idle policies others here there =>
    refine .done (.certificateDeleted here.2 rfl) (.certificateDeleted there.2 rfl)
      (fun ground => .deleted m n ground .taken) ?_
    exact { matches' with
      sound := matches'.sound.erase rfl rfl
      soundShared := matches'.soundShared.erase rfl rfl
      certificates := .gone ⟨here.1, Table.get?_erase_self _ _⟩
        ⟨there.1, Table.get?_erase_self _ _⟩ }
  | gone here there =>
    exact .denied (.certificateMissing rfl here.2) (.certificateMissing rfl there.2)
      (fun ground => .deleted m n ground (.missing rfl rfl)) matches'

theorem works_listPrincipals (matches' : Matches thing stage alone shared) :
    Answered thing stage (.listPrincipals thing) (.listPrincipals thing)
      (alone.work (.listPrincipals thing)) (shared.work (.listPrincipals thing)) := by
  rcases matches'.thing_cases with ⟨here, there⟩ | ⟨known, other, here, there, alike⟩
  · exact .denied (.thingMissing rfl here) (.thingMissing rfl there)
      (fun ground => .unlisted _ _) matches'
  · refine .done (.principalsListed here) (.principalsListed there) (fun ground => ?_) matches'
    cases alike with
    | bare groups others => exact .bare _
    | attached own first second groups others =>
      subst first second
      exact .listed own

theorem works_detachPrincipal (matches' : Matches thing stage alone shared)
    (made : stage.made? = some (m, n)) :
    Answered thing stage (.detachPrincipal thing (certificateNumber m).arn)
      (.detachPrincipal thing (certificateNumber n).arn)
      (alone.work (.detachPrincipal thing (certificateNumber m).arn))
      (shared.work (.detachPrincipal thing (certificateNumber n).arn)) := by
  rcases matches'.thing_cases with ⟨here, there⟩ | ⟨known, other, here, there, alike⟩
  · exact .denied (.thingMissing rfl here) (.thingMissing rfl there)
      (fun ground => .detached made (.missing rfl rfl)) matches'
  · refine .done (.principalDetached here) (.principalDetached there)
      (fun ground => .detached made .taken) (matches'.with_changed here there ?_)
    rw [made] at alike ⊢
    exact alike.excluded rfl rfl

end Certificates

/-! ### All calls -/

/-- What can be answered only in the same words is answered so. -/
theorem Matches.answered_plain (matches' : Matches thing stage alone shared) {call : Call}
    (plain : call.IsPlain thing) :
    Answered thing stage call call (answer call alone) (answer call shared) := by
  refine matches'.of_work rfl (fun _ => ⟨rfl, fun fault ground => .plain plain nofun⟩)
    fun matches' => ?_
  cases call with
  | getSecret name => exact works_getSecret matches' name
  | describeJob job other => exact works_describeJob matches' job other
  | fetchShadow other shadow => exact works_fetchShadow matches' other shadow
  | createThing other =>
    obtain rfl : other = thing := plain
    exact works_createThing matches'
  | joinGroup other group =>
    obtain rfl : other = thing := plain
    exact works_joinGroup matches' group
  | describeThing other =>
    obtain rfl : other = thing := plain
    exact works_describeThing matches'
  | deleteThing other =>
    obtain rfl : other = thing := plain
    exact works_deleteThing matches'
  | _ => cases plain

/-- **What can be answered alike is answered alike.** -/
theorem Matches.answered (matches' : Matches thing stage alone shared) {ground : Option Ground}
    {call other : Call} (asks : Corresponds thing ⟨stage, ground⟩ (.call call) (.call other)) :
    Answered thing stage call other (answer call alone) (answer other shared) := by
  obtain ⟨_, _, _, matched⟩ := asks
  cases matched with
  | plain plain => exact matches'.answered_plain plain
  | unissued _ _ | issued m n _ =>
    exact matches'.of_work rfl (fun _ => ⟨rfl, fun fault ground => .unissued ground fault⟩)
      works_createCertificate
  | attached m n _ _ =>
    -- not `rfl`, for which the certificates would be compared
    exact matches'.of_work (Eq.refl Operation.attachPrincipal)
      (fun _ => ⟨Eq.refl thing, fun _ ground => .attached m n ground nofun⟩)
      works_attachPrincipal
  | permitted policy m n _ _ =>
    exact matches'.of_work (Eq.refl Operation.attachPolicy)
      (fun _ => ⟨Eq.refl policy, fun _ ground => .permitted policy m n ground nofun⟩)
      fun matches' => works_attachPolicy matches' policy
  | unlisted _ _ | bare | listed _ => exact matches'.of_work rfl nofun works_listPrincipals
  | detached made _ =>
    exact matches'.of_work (Eq.refl Operation.detachPrincipal) nofun
      fun matches' => works_detachPrincipal matches' made
  | deactivated made _ =>
    exact matches'.of_work (Eq.refl Operation.deactivateCertificate) nofun
      fun matches' => works_deactivateCertificate matches' made
  | deleted m n _ _ =>
    exact matches'.of_work (Eq.refl Operation.deleteCertificate) nofun works_deleteCertificate

/-! ### What others do -/

/-- The certificate of the run was issued, and it is gone in the one registry when it is gone in the
other. -/
theorem CertificatesAlike.known (alike : CertificatesAlike alone shared stage) {m n : Nat}
    (made : stage.made? = some (m, n)) :
    n ≤ shared.issued ∧ (alone.certificates.get? (certificateId m) = none →
      shared.certificates.get? (certificateId n) = none) := by
  cases alike with
  | unmade => cases made
  | live policies others here there | idle policies others here there =>
    cases made
    exact ⟨there.1, fun gone => nomatch here.2.symm.trans gone⟩
  | gone here there =>
    cases made
    exact ⟨there.1, fun _ => there.2⟩

/-- What others do to their own makes no difference. -/
theorem Matches.of_keeps (matches' : Matches thing stage alone shared) {after : Registry}
    {other : String} {number : Option Nat} (sound : after.IsSound)
    (keeps : shared.Keeps other number after) (different : thing ≠ other)
    (apart : ∀ n, stage.made?.map Prod.snd = some n → number ≠ some n) :
    Matches thing stage alone after := by
  have same : after.things.get? thing = shared.things.get? thing := by
    have erased : (after.things.erase other).get? thing = (shared.things.erase other).get? thing :=
      congrArg (fun things => things.get? thing) keeps.things
    rwa [Table.get?_erase, Table.get?_erase, if_neg different, if_neg different] at erased
  have held : ∀ {n known}, stage.made?.map Prod.snd = some n → shared.Holds n known →
      after.Holds n known := by
    intro n known made holds
    refine ⟨Nat.le_trans holds.1 keeps.issued, ?_⟩
    rw [← holds.2]
    have hidden : (hide number after.certificates).get? (certificateId n) =
        (hide number shared.certificates).get? (certificateId n) :=
      congrArg (fun certificates => certificates.get? (certificateId n)) keeps.certificates
    cases number with
    | none => exact hidden
    | some m =>
      have others : certificateId n ≠ certificateId m :=
        fun same => apart n made (congrArg some (certificateId_injective same).symm)
      unfold hide at hidden
      rwa [Table.get?_erase, Table.get?_erase, if_neg others, if_neg others] at hidden
  exact { matches' with
    soundShared := sound
    secrets := keeps.secrets.trans matches'.secrets
    jobs := keeps.jobs.trans matches'.jobs
    shadows := keeps.shadows.trans matches'.shadows
    failing := keeps.failing.trans matches'.failing
    unbrokenShared := keeps.panicking.trans matches'.unbrokenShared
    things := same ▸ matches'.things
    certificates := matches'.certificates.congr (fun _ holds => holds) held }

end Registry

end DeviceTrial
