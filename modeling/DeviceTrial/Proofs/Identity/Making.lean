/-
**The errands of making an identity.**

`makingErrands` is the script of `Identity.establish`: policy, thing, certificate, attachment,
policy of the certificate, group. `Establishes` says all that can become of it:

* the script was done to its end, and only the files were left;
* it broke off at a call that gave no answer, which was not a refused attachment;
* the attachment was refused, and then the certificate was taken away again.

`establishes_of_shows` — nothing else can happen.
-/

import DeviceTrial.Identity
import DeviceTrial.Proofs.Run.Errand

namespace DeviceTrial

/-- **Reading a secret** is one call, and a secret that cannot be read is an error that names it. -/
theorem resolveSecret_of_shows {name : String} {seen : List Errand} {fate : Fate TrialError String}
    (shown : Action.Shows Errand.view (resolveSecret name) seen fate) :
    ∃ reply : Reply String, seen = [.call (.getSecret name) reply] ∧
      fate = reply.fate.mapError fun fault => .secretUnavailable name fault.message := by
  unfold resolveSecret at shown
  rcases Action.shows_attempt_call_bind shown with
    ⟨value, rest, rfl, after⟩ | ⟨fault, rest, rfl, after⟩ | ⟨reply, crash, rfl, crashes⟩
  · dsimp only at after
    rw [Action.shows_log_bind_iff, Action.shows_pure_iff] at after
    obtain ⟨rfl, rfl⟩ := after
    exact ⟨.ok value, rfl, rfl⟩
  · dsimp only at after
    rw [Action.shows_log_bind_iff, Action.shows_fail_iff] at after
    obtain ⟨rfl, rfl⟩ := after
    exact ⟨.error fault, rfl, rfl⟩
  · refine ⟨reply, rfl, ?_⟩
    cases crash <;> cases crashes <;> rfl

theorem asks_resolveSecret (name : String) :
    Action.Asks (.getSecret name) (resolveSecret name) := by
  intro seen fate shown
  obtain ⟨reply, rfl, rfl⟩ := resolveSecret_of_shows shown
  exact ⟨reply, _, rfl, rfl⟩

namespace Identity

theorem asks_step (identity name : String) (request : Call) :
    Action.Asks request (step identity name request) := by
  intro seen fate shown
  obtain ⟨inner, called, rfl⟩ := (Action.shows_mapError_iff _ _ _).mp shown
  obtain ⟨reply, rfl, rfl⟩ := (Action.shows_call_iff _ _).mp called
  exact ⟨reply, _, rfl, rfl⟩

/-! ### The script -/

/-- The errands that give the name of a policy. -/
inductive Names : PolicySource → String → List Errand → Prop where
  /-- The name is known. -/
  | known (policy : String) : Names (.name policy) policy []
  /-- The name is kept in a secret. -/
  | secret (secret policy : String) :
    Names (.secret secret) policy [.call (.getSecret secret) (.ok policy)]

/-- The errands that make a thing and a certificate. -/
def startErrands (identity : String) (certificate : Certificate) : List Errand :=
  [.call (.createThing identity) (.ok ()), .call .createCertificate (.ok certificate)]

/-- The errand that puts a thing into its group. -/
def joinErrands (identity : String) : Option String → List Errand
  | none => []
  | some group => [.call (.joinGroup identity group) (.ok ())]

/-- The errands that make a new certificate the certificate of the identity. -/
def equipErrands (identity policy : String) (certificate : Certificate) (group : Option String) :
    List Errand :=
  .call (.attachPrincipal identity certificate.arn) (.ok ()) ::
    .call (.attachPolicy policy certificate.arn) (.ok ()) :: joinErrands identity group

/-- The errands that make an identity, after those that give the name of its policy. -/
def makingErrands (naming : List Errand) (identity policy : String) (certificate : Certificate)
    (group : Option String) : List Errand :=
  naming ++ startErrands identity certificate ++ equipErrands identity policy certificate group

/-- The errands that take away a certificate which is attached to nothing. -/
inductive Discards (certificate : String) : List Errand → Prop where
  /-- The certificate stays active. -/
  | active {reply : Reply Unit} (bad : ¬ reply.IsOk) :
    Discards certificate [.call (.deactivateCertificate certificate) reply]
  /-- The certificate is deleted, if that call gives its answer. -/
  | deleting (reply : Reply Unit) :
    Discards certificate [.call (.deactivateCertificate certificate) (.ok ()),
      .call (.deleteCertificate certificate) reply]

/-- The errands and the end of making an identity. -/
inductive Establishes (identity : String) (source : PolicySource) (paths : CredentialPaths)
    (group : Option String) : List Errand → Fate TrialError Identity → Prop where
  /-- The identity is made. -/
  | made {naming : List Errand} {policy : String} (certificate : Certificate)
      (names : Names source policy naming) :
    Establishes identity source paths group
      (makingErrands naming identity policy certificate group)
      (.done ⟨identity, certificate.arn, certificate.id, paths, group⟩)
  /-- Its files could not be written. -/
  | unwritten {naming : List Errand} {policy : String} (certificate : Certificate)
      (names : Names source policy naming) (fault : TrialError) :
    Establishes identity source paths group
      (makingErrands naming identity policy certificate group) (.failed fault)
  /-- A call gave no answer, and it was not an attachment that was refused. -/
  | broken {naming seen : List Errand} {policy : String} (certificate : Certificate)
      {fate : Fate TrialError Identity} (names : Names source policy naming)
      (breaks : Errand.Breaks seen
        (makingErrands naming identity policy certificate group))
      (attaching : ∀ thing principal fault,
        .call (.attachPrincipal thing principal) (.error fault) ∉ seen)
      (halts : Halts seen fate) : Establishes identity source paths group seen fate
  /-- The attachment was refused. -/
  | unattached {naming discarding : List Errand} {policy : String} {certificate : Certificate}
      {fate : Fate TrialError Identity} (names : Names source policy naming) (fault : PlaneError)
      (discards : Discards certificate.id discarding)
      (halts : Halts discarding fate) :
    Establishes identity source paths group
      (naming ++ startErrands identity certificate ++
        .call (.attachPrincipal identity certificate.arn) (.error fault) :: discarding) fate

theorem Establishes.halts {identity : String} {source : PolicySource} {paths : CredentialPaths}
    {group : Option String} {seen : List Errand} {fate : Fate TrialError Identity}
    (establishes : Establishes identity source paths group seen fate)
    (unmade : ∀ made, fate ≠ .done made) : Halts seen fate := by
  cases establishes with
  | made certificate names => exact absurd rfl (unmade _)
  | unwritten certificate names fault => exact .failed fault
  | broken certificate names breaks attaching halts => exact halts
  | unattached names fault discards halts =>
    exact halts.mono fun _ inside => List.mem_append_right _ (List.mem_cons_of_mem _ inside)

/-! ### What the parts show -/

variable {β : Type}

theorem Names.attaching {source : PolicySource} {policy : String} {naming : List Errand}
    (names : Names source policy naming) (thing principal : String) (reply : Reply Unit) :
    .call (.attachPrincipal thing principal) reply ∉ naming := by
  cases names <;> simp

theorem Names.reading {source : PolicySource} {policy : String} {naming : List Errand}
    (names : Names source policy naming) : ∀ errand ∈ naming, errand.IsReading := by
  cases names <;> simp [Call.operation, Operation.isReading]

/-- To take a certificate away it is deactivated and deleted, and nothing else. -/
theorem Discards.operations {certificate : String} {seen : List Errand}
    (discards : Discards certificate seen) :
    ∀ errand ∈ seen, errand.operation? = some .deactivateCertificate ∨
      errand.operation? = some .deleteCertificate := by
  cases discards <;> simp [Errand.operation?, Call.operation]

/-- What is done about a refused attachment takes away nothing but the certificate. -/
theorem teardown_of_unattached {source : PolicySource} {identity policy : String}
    {naming discarding : List Errand} {certificate : Certificate}
    (names : Names source policy naming) (fault : PlaneError)
    (discards : Discards certificate.id discarding) :
    ∀ errand ∈ naming ++ startErrands identity certificate ++
      .call (.attachPrincipal identity certificate.arn) (.error fault) :: discarding,
      errand.OnlyDiscards := by
  have starts : ∀ errand ∈ naming ++ startErrands identity certificate, errand.IsForward := by
    refine List.forall_mem_append.mpr ⟨fun errand inside => (names.reading errand inside).forward, ?_⟩
    simp [startErrands, Call.operation, Operation.isTeardown]
  intro errand inside
  rcases List.mem_append.mp inside with early | late
  · exact (starts errand early).onlyDiscards
  · rcases List.mem_cons.mp late with rfl | last
    · intro operation called teardown
      cases called
      cases teardown
    · intro operation called _
      exact (discards.operations errand last).imp (fun same => Option.some.inj (called.symm.trans same))
        fun same => Option.some.inj (called.symm.trans same)

theorem succeeds_makingErrands {source : PolicySource} {policy : String} {naming : List Errand}
    (names : Names source policy naming) (identity : String) (certificate : Certificate)
    (group : Option String) :
    ∀ errand ∈ makingErrands naming identity policy certificate group, errand.Succeeds := by
  have named : ∀ errand ∈ naming, errand.Succeeds := by
    cases names <;> simp
  have joins : ∀ errand ∈ joinErrands identity group, errand.Succeeds := by
    cases group <;> simp [joinErrands]
  intro errand inside
  simp only [makingErrands, startErrands, equipErrands, List.mem_append, List.mem_cons,
    List.not_mem_nil, or_false] at inside
  rcases inside with (inside | rfl | rfl) | rfl | rfl | inside
  · exact named errand inside
  · exact ⟨_, rfl⟩
  · exact ⟨_, rfl⟩
  · exact ⟨_, rfl⟩
  · exact ⟨_, rfl⟩
  · exact joins errand inside

theorem forward_makingErrands {source : PolicySource} {policy : String} {naming : List Errand}
    (names : Names source policy naming) (identity : String) (certificate : Certificate)
    (group : Option String) :
    ∀ errand ∈ makingErrands naming identity policy certificate group, errand.IsForward := by
  have joins : ∀ errand ∈ joinErrands identity group, errand.IsForward := by
    cases group <;> simp [joinErrands, Call.operation, Operation.isTeardown]
  intro errand inside
  simp only [makingErrands, startErrands, equipErrands, List.mem_append, List.mem_cons,
    List.not_mem_nil, or_false] at inside
  rcases inside with (inside | rfl | rfl) | rfl | rfl | inside
  · exact (names.reading errand inside).forward
  · simp [Call.operation, Operation.isTeardown]
  · simp [Call.operation, Operation.isTeardown]
  · simp [Call.operation, Operation.isTeardown]
  · simp [Call.operation, Operation.isTeardown]
  · exact joins errand inside

/-- Only one certificate is made. -/
theorem created_of_making {source : PolicySource} {identity policy : String} {naming : List Errand}
    {certificate other : Certificate} {group : Option String} (names : Names source policy naming)
    (created : .call .createCertificate (.ok other) ∈
      makingErrands naming identity policy certificate group) : other = certificate := by
  have unnamed : .call .createCertificate (.ok other) ∉ naming := by
    cases names <;> simp
  have unjoined : .call .createCertificate (.ok other) ∉ joinErrands identity group := by
    cases group <;> simp [joinErrands]
  simpa [makingErrands, startErrands, equipErrands, unnamed, unjoined] using created

theorem names_of_shows {source : PolicySource} {seen : List Errand}
    {fate : Fate TrialError String}
    (shown : Action.Shows Errand.view (policyName source) seen fate) :
    (∃ policy, Names source policy seen ∧ fate = .done policy) ∨
      ∃ policy naming, Names source policy naming ∧ Errand.Breaks seen naming ∧
        (∀ thing principal reply, .call (.attachPrincipal thing principal) reply ∉ seen) ∧
        Halts seen fate := by
  cases source with
  | name policy =>
    obtain ⟨rfl, rfl⟩ := (Action.shows_pure_iff _ _ _ _).mp shown
    exact .inl ⟨policy, .known policy, rfl⟩
  | secret secret =>
    obtain ⟨reply, change, rfl, rfl⟩ := asks_resolveSecret secret _ _ shown
    by_cases good : reply.IsOk
    · obtain ⟨policy, rfl⟩ := good
      exact .inl ⟨policy, .secret secret policy, rfl⟩
    · exact .inr ⟨"", _, .secret secret "", .here rfl good, by simp,
        Halts.of_reply (.getSecret secret) change good⟩

theorem discards_of_shows {identity certificate : String} {seen : List Errand}
    {fate : Fate TrialError Unit}
    (shown : Action.Shows Errand.view (discard identity certificate) seen fate) :
    Discards certificate seen ∧ (fate = .done () ∨ Halts seen fate) := by
  unfold discard at shown
  -- the deletion comes after the deactivation, and only then
  have taken : ∀ {errands : List Errand} {inner : Fate PlaneError Unit},
      Action.Shows Errand.view (do
        Action.call (.deactivateCertificate certificate)
        Action.call (.deleteCertificate certificate)) errands inner →
      Discards certificate errands ∧ (inner = .done () ∨ Halts errands inner) := by
    intro errands inner called
    rcases (Action.asks_call _).shows_bind called with
      ⟨_, rest, rfl, deleted⟩ | ⟨reply, bad, rfl, halts⟩
    · obtain ⟨reply, rfl, rfl⟩ := (Action.shows_call_iff _ _).mp deleted
      refine ⟨.deleting reply, ?_⟩
      cases reply with
      | ok value => exact .inl rfl
      | error fault => exact .inr (.failed fault)
      | panic message =>
        exact .inr (.panicked (List.mem_cons_of_mem _ List.mem_cons_self))
      | hang => exact .inr (.hung (List.mem_cons_of_mem _ List.mem_cons_self))
    · exact ⟨.active bad, .inr halts⟩
  rcases Action.shows_attempt_bind shown with
    ⟨_, first, rest, one, two, rfl⟩ | ⟨fault, first, rest, one, two, rfl⟩ | ⟨stop, one, crashes⟩
  · obtain ⟨rfl, rfl⟩ := (Action.shows_log_iff _ _ _ _ _).mp two
    rw [List.append_nil]
    exact ⟨(taken one).1, .inl rfl⟩
  · obtain ⟨rfl, rfl⟩ := (Action.shows_log_iff _ _ _ _ _).mp two
    rw [List.append_nil]
    exact ⟨(taken one).1, .inl rfl⟩
  · obtain ⟨discards, rfl | halts⟩ := taken one
    · cases crashes
    · exact ⟨discards, .inr (halts.crashes crashes)⟩

theorem attach_of_shows {identity : String} {certificate : Certificate} {seen : List Errand}
    {fate : Fate TrialError Unit}
    (shown : Action.Shows Errand.view (attach identity certificate) seen fate) :
    (seen = [.call (.attachPrincipal identity certificate.arn) (.ok ())] ∧ fate = .done ()) ∨
      (∃ fault discarding, Discards certificate.id discarding ∧ Halts discarding fate ∧
        seen = .call (.attachPrincipal identity certificate.arn) (.error fault) :: discarding) ∨
      ∃ reply : Reply Unit, reply.IsCrash ∧ Halts seen fate ∧
        seen = [.call (.attachPrincipal identity certificate.arn) reply] := by
  unfold attach at shown
  rcases Action.shows_attempt_call_bind shown with
    ⟨_, rest, rfl, done⟩ | ⟨fault, rest, rfl, discarded⟩ | ⟨reply, crash, rfl, crashes⟩
  · obtain ⟨rfl, rfl⟩ := (Action.shows_pure_iff _ _ _ _).mp done
    exact .inl ⟨rfl, rfl⟩
  · refine .inr (.inl ⟨fault, rest, ?_⟩)
    rcases (Action.shows_bind_iff _ _ _ _ _).mp discarded with
      ⟨_, first, last, one, two, rfl⟩ | ⟨stop, one, stops⟩
    · obtain ⟨rfl, rfl⟩ := (Action.shows_fail_iff _ _ _ _).mp two
      rw [List.append_nil]
      exact ⟨(discards_of_shows one).1, .failed _, rfl⟩
    · obtain ⟨discards, rfl | halts⟩ := discards_of_shows one
      · cases stops
      · exact ⟨discards, halts.stops stops, rfl⟩
  · exact .inr (.inr ⟨reply, crash, .of_crash crashes, rfl⟩)

theorem isQuiet_writeCredentials (certificate : Certificate) (paths : CredentialPaths) :
    (writeCredentials certificate paths).IsQuiet := by
  refine (Action.isQuiet_makeParent _).bind fun _ => ?_
  refine (Action.isQuiet_makeParent _).bind fun _ => ?_
  refine (Action.IsQuiet.fileStep (.of_file fun _ => by simp)).bind fun _ => ?_
  refine (Action.IsQuiet.fileStep (.of_file fun _ => by simp)).bind fun _ => ?_
  exact .fileStep (.of_file fun _ => by simp)

theorem join_of_shows {identity : String} {group : Option String}
    {next : Unit → Action TrialError β} {seen : List Errand} {fate : Fate TrialError β}
    (shown : Action.Shows Errand.view (join identity group >>= next) seen fate) :
    (∃ rest, seen = joinErrands identity group ++ rest ∧
      Action.Shows Errand.view (next ()) rest fate) ∨
    Errand.Breaks seen (joinErrands identity group) ∧ Halts seen fate ∧
      ∀ thing principal reply, .call (.attachPrincipal thing principal) reply ∉ seen := by
  cases group with
  | none => exact .inl ⟨seen, rfl, shown⟩
  | some group =>
    rcases (asks_step identity _ (.joinGroup identity group)).shows_bind shown with
      ⟨_, rest, rfl, after⟩ | ⟨reply, bad, rfl, halts⟩
    · exact .inl ⟨rest, rfl, after⟩
    · exact .inr ⟨.here rfl bad, halts, by simp⟩

/-- What comes after the certificate was made. -/
theorem equips_of_shows {identity policy : String} {certificate : Certificate}
    {paths : CredentialPaths} {group : Option String} {seen : List Errand}
    {fate : Fate TrialError Identity}
    (shown : Action.Shows Errand.view (do
      attach identity certificate
      step identity "attach policy" (.attachPolicy policy certificate.arn)
      join identity group
      (writeCredentials certificate paths).mapError fun fault =>
        stepFailed identity "write credentials" fault.message
      Action.log .info .identity "identity provisioned"
        [("identity", identity), ("policy", policy), ("group", group.getD ""),
         ("certificate_path", paths.certificate.text)]
      return ⟨identity, certificate.arn, certificate.id, paths, group⟩) seen fate) :
    (seen = equipErrands identity policy certificate group ∧
      (fate = .done ⟨identity, certificate.arn, certificate.id, paths, group⟩ ∨
        ∃ fault, fate = .failed fault)) ∨
    (Errand.Breaks seen (equipErrands identity policy certificate group) ∧ Halts seen fate ∧
      ∀ thing principal fault, .call (.attachPrincipal thing principal) (.error fault) ∉ seen) ∨
    ∃ fault discarding, Discards certificate.id discarding ∧ Halts discarding fate ∧
      seen = .call (.attachPrincipal identity certificate.arn) (.error fault) :: discarding := by
  rcases (Action.shows_bind_iff _ _ _ _ _).mp shown with
    ⟨_, first, rest, attached, after, rfl⟩ | ⟨stop, attached, stops⟩
  · obtain ⟨rfl, -⟩ | ⟨_, _, _, halts, -⟩ | ⟨_, _, halts, -⟩ := attach_of_shows attached
    · rcases (asks_step identity _ (.attachPolicy policy certificate.arn)).shows_bind after with
        ⟨_, more, rfl, joined⟩ | ⟨reply, bad, rfl, halts⟩
      · rcases join_of_shows joined with ⟨last, rfl, written⟩ | ⟨breaks, halts, attaching⟩
        · rcases ((isQuiet_writeCredentials certificate paths).mapError _).shows_bind written with
            ⟨_, logged⟩ | ⟨rfl, failed⟩
          · rw [Action.shows_log_bind_iff, Action.shows_pure_iff] at logged
            obtain ⟨rfl, done⟩ := logged
            exact .inl ⟨by simp [equipErrands], .inl done⟩
          · exact .inl ⟨by simp [equipErrands], .inr failed⟩
        · refine .inr (.inl ⟨.later _ (.later _ breaks), halts.mono fun _ => ?_, ?_⟩)
          · exact fun inside => List.mem_cons_of_mem _ (List.mem_cons_of_mem _ inside)
          · simp [attaching]
      · refine .inr (.inl ⟨.later _ (.here rfl bad), halts.mono fun _ => ?_, by simp⟩)
        exact List.mem_cons_of_mem _
    · cases halts
    · cases halts
  · obtain ⟨rfl, rfl⟩ | ⟨fault, discarding, discards, halts, rfl⟩ | ⟨reply, crash, halts, rfl⟩ :=
      attach_of_shows attached
    · cases stops
    · exact .inr (.inr ⟨fault, discarding, discards, halts.stops stops, rfl⟩)
    · refine .inr (.inl ⟨.here rfl crash.not_ok, halts.stops stops, fun _ _ fault inside => ?_⟩)
      cases crash <;> simp at inside

/-- What comes after the name of the policy is known. -/
theorem makes_of_shows {identity policy : String} {paths : CredentialPaths}
    {group : Option String} {seen : List Errand} {fate : Fate TrialError Identity}
    (shown : Action.Shows Errand.view (do
      step identity "create thing" (.createThing identity)
      Action.record .identityMade
      let certificate ← step identity "create keys and certificate" .createCertificate
      Action.log .debug .identity "certificate created"
        [("identity", identity), ("certificate_id", certificate.id)]
      attach identity certificate
      step identity "attach policy" (.attachPolicy policy certificate.arn)
      join identity group
      (writeCredentials certificate paths).mapError fun fault =>
        stepFailed identity "write credentials" fault.message
      Action.log .info .identity "identity provisioned"
        [("identity", identity), ("policy", policy), ("group", group.getD ""),
         ("certificate_path", paths.certificate.text)]
      return ⟨identity, certificate.arn, certificate.id, paths, group⟩) seen fate) :
    ∃ certificate, (seen = startErrands identity certificate ++
        equipErrands identity policy certificate group ∧
      (fate = .done ⟨identity, certificate.arn, certificate.id, paths, group⟩ ∨
        ∃ fault, fate = .failed fault)) ∨
    (Errand.Breaks seen (startErrands identity certificate ++
        equipErrands identity policy certificate group) ∧ Halts seen fate ∧
      ∀ thing principal fault, .call (.attachPrincipal thing principal) (.error fault) ∉ seen) ∨
    ∃ fault discarding, Discards certificate.id discarding ∧ Halts discarding fate ∧
      seen = startErrands identity certificate ++
        .call (.attachPrincipal identity certificate.arn) (.error fault) :: discarding := by
  rcases (asks_step identity _ (.createThing identity)).shows_bind shown with
    ⟨_, rest, rfl, created⟩ | ⟨reply, bad, rfl, halts⟩
  · rw [Action.shows_record_bind_iff] at created
    rcases (asks_step identity _ .createCertificate).shows_bind created with
      ⟨certificate, more, rfl, equipped⟩ | ⟨reply, bad, rfl, halts⟩
    · rw [Action.shows_log_bind_iff] at equipped
      refine ⟨certificate, ?_⟩
      rcases equips_of_shows equipped with
        ⟨rfl, ends⟩ | ⟨breaks, halts, attaching⟩ | ⟨fault, discarding, discards, halts, rfl⟩
      · exact .inl ⟨rfl, ends⟩
      · refine .inr (.inl ⟨.later _ (.later _ breaks), halts.mono fun _ => ?_, ?_⟩)
        · exact fun inside => List.mem_cons_of_mem _ (List.mem_cons_of_mem _ inside)
        · simp [attaching]
      · exact .inr (.inr ⟨fault, discarding, discards, halts, rfl⟩)
    · refine ⟨default, .inr (.inl ⟨.later _ (.here rfl bad), halts.mono fun _ => ?_, by simp⟩)⟩
      exact List.mem_cons_of_mem _
  · exact ⟨default, .inr (.inl ⟨.here rfl bad, halts, by simp⟩)⟩

/-- **All that can become of making an identity.** -/
theorem establishes_of_shows {identity : String} {source : PolicySource} {paths : CredentialPaths}
    {group : Option String} {seen : List Errand} {fate : Fate TrialError Identity}
    (shown : Action.Shows Errand.view (establish identity source paths group) seen fate) :
    Establishes identity source paths group seen fate := by
  unfold establish at shown
  rcases (Action.shows_bind_iff _ _ _ _ _).mp shown with
    ⟨policy, naming, rest, named, made, rfl⟩ | ⟨stop, named, stops⟩
  · obtain ⟨_, names, same⟩ | ⟨_, _, _, _, _, halts⟩ := names_of_shows named
    · cases same
      rw [Action.shows_log_bind_iff] at made
      obtain ⟨certificate, ⟨rfl, rfl | ⟨fault, rfl⟩⟩ | ⟨breaks, halts, attaching⟩ |
        ⟨fault, discarding, discards, halts, rfl⟩⟩ := makes_of_shows made
      · rw [← List.append_assoc]
        exact .made certificate names
      · rw [← List.append_assoc]
        exact .unwritten certificate names fault
      · refine .broken certificate names ?_ (fun thing principal fault inside => ?_)
          (halts.mono fun _ => List.mem_append_right naming)
        · rw [makingErrands, List.append_assoc]
          exact breaks.after naming
        · exact (List.mem_append.mp inside).elim (names.attaching _ _ _)
            (attaching thing principal fault)
      · rw [← List.append_assoc]
        exact .unattached names fault discards halts
    · cases halts
  · obtain ⟨_, names, rfl⟩ | ⟨_, naming, names, breaks, attaching, halts⟩ := names_of_shows named
    · cases stops
    · refine .broken default names ?_ (fun _ _ _ => attaching _ _ _)
        (halts.stops stops)
      rw [makingErrands, List.append_assoc]
      exact breaks.extend _

end Identity

end DeviceTrial
