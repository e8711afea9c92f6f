/-
**Making an identity over the cloud service.**

The service makes a certificate before anything knows of it. From then on the certificate has to be
attached to its thing, where a removal finds it, or to be deactivated on the spot. Whether that
happens is decided by the output alone: the identifier is not enough, since an output that lacks one
of the other parts is refused as a whole, and then nobody knows which certificate it was.

* `Establishes.certified` — where a making stands that gave no identity, seen from its certificate;
* `called_iff`, `exchanged_iff` — the errands and the exchanges of a run belong to the same calls;
* `establish_over_cloud` — **the certificate of a failed making is attached or deactivated exactly
  when the output that told of it was complete**;
* `incomplete_output_strands` — a making that leaves its certificate behind.
-/

import DeviceTrial.Proofs.Cloud.Removal
import DeviceTrial.Proofs.Identity.Residue

namespace DeviceTrial

/-! ### Seen from the certificate -/

namespace Identity

/-- That no certificate was handed out, and that nothing was done with one. -/
def IsUncertified (seen : List Errand) : Prop :=
  ∀ errand ∈ seen, (∀ certificate, errand ≠ .call .createCertificate (.ok certificate)) ∧
    errand.operation? ≠ some .attachPrincipal ∧
    errand.operation? ≠ some .deactivateCertificate

/-- That one certificate was handed out, and that it was attached or deactivated. -/
structure Certifies (identity : String) (certificate : Certificate) (seen : List Errand) :
    Prop where
  /-- Making a certificate gave this one. -/
  only : ∀ reply, .call .createCertificate reply ∈ seen → reply = .ok certificate
  /-- It can be found from the thing, or its deactivation was asked for. -/
  kept : .call (.attachPrincipal identity certificate.arn) (.ok ()) ∈ seen ∨
    ∃ reply, .call (.deactivateCertificate certificate.id) reply ∈ seen

variable {identity policy : String} {source : PolicySource} {paths : CredentialPaths}
  {group : Option String} {seen naming : List Errand} {fate : Fate TrialError Identity}

theorem Names.uncertified (names : Names source policy naming) : IsUncertified naming := by
  cases names <;> simp [IsUncertified, Errand.operation?, Call.operation]

/-- A script that broke before its certificate was handed out. -/
theorem uncertified_of_breaks (names : Names source policy naming) {certificate : Certificate}
    (breaks : Errand.Breaks seen (naming ++ startErrands identity certificate)) :
    IsUncertified seen := by
  have other : ∀ {failed meant : Errand} (operation : Operation),
      failed.effect = meant.effect → ¬ failed.Succeeds → meant.operation? = some operation →
      some operation ≠ some .attachPrincipal → some operation ≠ some .deactivateCertificate →
      IsUncertified [failed] := by
    intro failed meant operation same fails known unattached active errand inside
    obtain rfl := List.mem_singleton.mp inside
    rw [Errand.operation?_eq same, known]
    refine ⟨?_, unattached, active⟩
    rintro certificate rfl
    exact fails ⟨certificate, rfl⟩
  have also : ∀ {first rest : List Errand}, IsUncertified first → IsUncertified rest →
      IsUncertified (first ++ rest) := fun one two => List.forall_mem_append.mpr ⟨one, two⟩
  have made : IsUncertified [.call (.createThing identity) (.ok ())] := by
    simp [IsUncertified, Errand.operation?, Call.operation]
  rcases Errand.breaks_append_iff.mp breaks with early | ⟨more, rfl, late⟩
  · intro errand inside
    obtain ⟨meant, found, same⟩ := Errand.Follows.effect_mem (.inr early) errand inside
    obtain ⟨-, unattached, active⟩ := names.uncertified meant found
    rw [Errand.operation?_eq same]
    refine ⟨?_, unattached, active⟩
    rintro certificate rfl
    cases names.reading meant found _ (Errand.operation?_eq same).symm
  · refine also names.uncertified ?_
    rcases Errand.breaks_cons_iff.mp late with ⟨failed, rfl, same, fails⟩ | ⟨last, rfl, later⟩
    · exact other .createThing same fails rfl (by decide) (by decide)
    · refine also made ?_
      rcases Errand.breaks_cons_iff.mp later with ⟨failed, rfl, same, fails⟩ | ⟨_, _, wrong⟩
      · exact other .createCertificate same fails rfl (by decide) (by decide)
      · cases wrong

/-- The certificate of a script that broke after it was handed out. -/
theorem only_certificate (names : Names source policy naming) {certificate : Certificate}
    {rest : List Errand}
    (others : ∀ errand ∈ rest, errand.operation? ≠ some .createCertificate)
    (reply : Reply Certificate)
    (created : .call .createCertificate reply ∈
      naming ++ startErrands identity certificate ++ rest) : reply = .ok certificate := by
  simp only [startErrands, List.mem_append, List.mem_cons, List.not_mem_nil, or_false] at created
  rcases created with (inside | wrong | same) | inside
  · cases names.reading _ inside _ rfl
  · cases wrong
  · cases same
    rfl
  · exact absurd rfl (others _ inside)

theorem uncreated_equipErrands (identity policy : String) (certificate : Certificate)
    (group : Option String) :
    ∀ errand ∈ equipErrands identity policy certificate group,
      errand.operation? ≠ some .createCertificate := by
  cases group <;> simp [equipErrands, joinErrands, Errand.operation?, Call.operation]

/-- A script that was done to its end. -/
theorem certifies_of_making (names : Names source policy naming) (certificate : Certificate) :
    Certifies identity certificate (makingErrands naming identity policy certificate group) :=
  ⟨only_certificate names (uncreated_equipErrands identity policy certificate group),
    .inl (List.mem_append_right _ List.mem_cons_self)⟩

/-- A script that broke after its certificate was handed out, and not at the attachment. -/
theorem certifies_of_breaks (names : Names source policy naming) {certificate : Certificate}
    {more : List Errand}
    (breaks : Errand.Breaks more (equipErrands identity policy certificate group))
    (sane : ∀ reply : Reply Unit,
      .call (.attachPrincipal identity certificate.arn) reply ∈ more → reply = .ok ()) :
    Certifies identity certificate (naming ++ startErrands identity certificate ++ more) := by
  refine ⟨only_certificate names ?_, .inl (List.mem_append_right _ ?_)⟩
  · exact Errand.Follows.operations (.inr breaks) (· ≠ some .createCertificate)
      (uncreated_equipErrands identity policy certificate group)
  · rcases Errand.breaks_cons_iff.mp breaks with ⟨failed, rfl, same, fails⟩ | ⟨rest, rfl, -⟩
    · obtain ⟨reply, rfl⟩ := Errand.exists_reply same
      exact absurd ⟨(), sane reply (List.mem_singleton_self _)⟩ fails
    · exact List.mem_cons_self

/-- **Where a making stands that gave no identity**, seen from its certificate, when its attachment
did not crash. -/
theorem Establishes.certified (establishes : Establishes identity source paths group seen fate)
    (unmade : ∀ made, fate ≠ .done made) (sane : ∀ errand ∈ seen, ¬ IsCrashedAttachment errand) :
    IsUncertified seen ∨ ∃ certificate, Certifies identity certificate seen := by
  cases establishes with
  | made certificate names => exact absurd rfl (unmade _)
  | unwritten certificate names fault => exact .inr ⟨certificate, certifies_of_making names _⟩
  | @broken naming _ policy certificate _ names breaks attaching halts =>
    rcases Errand.breaks_append_iff.mp breaks with early | ⟨more, rfl, late⟩
    · exact .inl (uncertified_of_breaks names early)
    · refine .inr ⟨certificate, certifies_of_breaks names late fun reply inside => ?_⟩
      have here := List.mem_append_right (naming ++ startErrands identity certificate) inside
      cases reply with
      | ok value => rfl
      | error fault => exact absurd here (attaching identity certificate.arn fault)
      | panic message => exact absurd ⟨_, _, _, .panic message, rfl⟩ (sane _ here)
      | hang => exact absurd ⟨_, _, _, .hang, rfl⟩ (sane _ here)
  | @unattached naming discarding policy certificate _ names fault discards halts =>
    refine .inr ⟨certificate, only_certificate names fun errand inside => ?_, .inr ?_⟩
    · rcases List.mem_cons.mp inside with rfl | inside
      · nofun
      · rcases discards.operations errand inside with same | same <;>
          · rw [same]
            nofun
    · cases discards with
      | active bad =>
        exact ⟨_, List.mem_append_right _ (List.mem_cons_of_mem _ List.mem_cons_self)⟩
      | deleting reply =>
        exact ⟨_, List.mem_append_right _ (List.mem_cons_of_mem _ List.mem_cons_self)⟩

/-- Making an identity lists no principals. -/
theorem Establishes.unlisted (establishes : Establishes identity source paths group seen fate) :
    ∀ errand ∈ seen, errand.operation? ≠ some .listPrincipals := by
  have forward : ∀ {script : List Errand}, (∀ errand ∈ script, errand.IsForward) →
      Errand.Follows seen script → ∀ errand ∈ seen, errand.OnlyDiscards :=
    fun all follows errand inside => (follows.forward all errand inside).onlyDiscards
  have discards : ∀ errand ∈ seen, errand.OnlyDiscards := by
    cases establishes with
    | made certificate names =>
      exact forward (forward_makingErrands names _ _ _) (.inl List.prefix_rfl)
    | unwritten certificate names fault =>
      exact forward (forward_makingErrands names _ _ _) (.inl List.prefix_rfl)
    | broken certificate names breaks attaching halts =>
      exact forward (forward_makingErrands names _ _ _) (.inr breaks)
    | unattached names fault discards halts => exact teardown_of_unattached names fault discards
  exact fun errand inside => (discards errand inside).ne rfl ⟨nofun, nofun⟩

end Identity

namespace Cloud

/-! ### Calls and exchanges -/

/-- Different calls make different requests. -/
theorem requestOf_injective : Function.Injective requestOf := by
  intro left right same
  cases left <;> cases right <;> cases same <;> rfl

/-- What a call asks for is asked for by that call alone. -/
theorem call_of_request {call other : Call} {exchange : Exchange} {script : Script}
    (inside : exchange ∈ exchanges call script) (single : other.operation ≠ .listPrincipals)
    (asked : exchange.request = requestOf other) : call = other := by
  by_cases list : call.operation = .listPrincipals
  · cases call with
    | listPrincipals thing =>
      obtain ⟨_, same⟩ := (lists_pages thing _ none script).1.request exchange inside
      cases other <;> cases same.symm.trans asked
      exact absurd rfl single
    | _ => cases list
  · rw [exchanges_of_single list] at inside
    cases List.mem_singleton.mp inside
    exact requestOf_injective asked

/-- A call that is one request comes back. -/
theorem not_isCrash_answer {call : Call} (single : call.operation ≠ .listPrincipals)
    (script : Script) : ¬ (answer call script).1.IsCrash := by
  have reads : ∀ {α : Type} (read : Output → Except PlaneError α)
      (sent : Except PlaneError Output × Script), ¬ (replyWith read sent).1.IsCrash := by
    intro α read sent crash
    obtain ⟨outcome, after⟩ := sent
    unfold replyWith at crash
    cases outcome with
    | ok output =>
      dsimp only at crash
      split at crash <;> cases crash
    | error fault => cases crash
  cases call with
  | listPrincipals thing => exact absurd rfl single
  | describeJob job thing =>
    intro crash
    unfold answer describeJob at crash
    dsimp only at crash
    split at crash
    · cases crash
    · split at crash <;> cases crash
  | _ => exact reads _ _

theorem exchangesAt_call {call : Call} {moment : Moment (World Script)}
    (asked : moment.effect = .call call) :
    exchangesAt moment = exchanges call moment.before.plane := by
  rw [exchangesAt, asked]

/-- The scripts against which a run makes a call. -/
def AskedOf (call : Call) (moments : List (Moment (World Script))) (script : Script) : Prop :=
  ∃ moment ∈ moments, moment.effect = .call call ∧ moment.before.plane = script

/-! ### Outputs -/

/-- That an output has every part of a certificate, besides the identifier. -/
structure Output.IsComplete (output : Output) : Prop where
  arn : output.certificateArn.isSome
  pem : output.certificatePem.isSome
  privateKey : output.privateKey.isSome

/-- **The certificate in an output** is there when its four parts are. -/
theorem certificateOf_eq_ok_iff {output : Output} {certificate : Certificate} :
    certificateOf output = .ok certificate ↔
      output.certificateArn = some certificate.arn ∧
        output.certificateId = some certificate.id ∧
        output.certificatePem = some certificate.pem ∧
        output.privateKey = some certificate.privateKey := by
  obtain ⟨arn, id, pem, privateKey⟩ := certificate
  unfold certificateOf
  cases output.certificateArn <;> cases output.certificateId <;>
    cases output.certificatePem <;> cases output.privateKey <;>
    simp [required, bind, Except.bind, pure, Except.pure]

/-- An output with an identifier is refused unless it is complete. -/
theorem isComplete_iff {output : Output} {certificate : String}
    (known : output.certificateId = some certificate) :
    output.IsComplete ↔ ∃ made, certificateOf output = .ok made := by
  constructor
  · rintro ⟨arn, pem, privateKey⟩
    obtain ⟨arn, sameArn⟩ := Option.isSome_iff_exists.mp arn
    obtain ⟨pem, samePem⟩ := Option.isSome_iff_exists.mp pem
    obtain ⟨privateKey, sameKey⟩ := Option.isSome_iff_exists.mp privateKey
    exact ⟨⟨arn, certificate, pem, privateKey⟩,
      certificateOf_eq_ok_iff.mpr ⟨sameArn, known, samePem, sameKey⟩⟩
  · rintro ⟨made, same⟩
    obtain ⟨arn, -, pem, privateKey⟩ := certificateOf_eq_ok_iff.mp same
    exact ⟨arn ▸ rfl, pem ▸ rfl, privateKey ▸ rfl⟩

/-- The reply to making a certificate. -/
theorem answer_createCertificate {script : Script} {output : Output}
    (served : (script.serve (.createKeysAndCertificate true)).1 = .success output) :
    (∃ certificate, certificateOf output = .ok certificate ∧
        (answer .createCertificate script).1 = .ok certificate) ∨
      ∃ fault, certificateOf output = .error fault ∧
        (answer .createCertificate script).1 = .error fault := by
  have same : (answer .createCertificate script).1 =
      (replyWith certificateOf (.ok output, script)).1 := by
    simp only [answer, send, served, outputOf, replyWith]
    cases certificateOf output <;> rfl
  rw [same, replyWith]
  cases certificateOf output with
  | ok certificate => exact .inl ⟨certificate, rfl, rfl⟩
  | error fault => exact .inr ⟨fault, rfl, rfl⟩

/-! ### Runs -/

section Runs

variable {ε α : Type} {launch : Launch → FileSystem → Except String Finish × FileSystem}
  {tag : Nat → RunTag} {world : World Script} {action : Action ε α}

/-- The errands of a run that are one call. -/
theorem called_iff (call : Call) (reply : Reply call.Answer) :
    .call call reply ∈ Errand.view.seen (action.historyIn (overCloud launch tag) world) ↔
      ∃ script, AskedOf call (action.historyIn (overCloud launch tag) world) script ∧
        (answer call script).1 = reply := by
  constructor
  · intro inside
    obtain ⟨moment, happened, shown⟩ := List.mem_filterMap.mp inside
    have answered := Program.answer_of_mem_history happened
    obtain ⟨before, effect, given⟩ := moment
    cases effect with
    | call other =>
      cases shown
      exact ⟨before.plane, ⟨_, happened, rfl, rfl⟩, answered.symm⟩
    | file request => cases request <;> cases shown
    | _ => cases shown
  · rintro ⟨_, ⟨moment, happened, asked, rfl⟩, rfl⟩
    have answered := Program.answer_of_mem_history happened
    obtain ⟨before, effect, given⟩ := moment
    cases asked
    refine List.mem_filterMap.mpr ⟨_, happened, ?_⟩
    rw [answered]
    rfl

/-- The exchanges of a run that are one call. -/
theorem exchanged_iff (call : Call) (single : call.operation ≠ .listPrincipals)
    (response : Response) :
    (⟨requestOf call, response⟩ : Exchange) ∈
        exchangesOf (action.historyIn (overCloud launch tag) world) ↔
      ∃ script, AskedOf call (action.historyIn (overCloud launch tag) world) script ∧
        (script.serve (requestOf call)).1 = response := by
  constructor
  · intro inside
    obtain ⟨⟨before, effect, given⟩, happened, made⟩ := List.mem_flatMap.mp inside
    cases effect with
    | call other =>
      rw [exchangesAt_call rfl] at made
      obtain rfl := call_of_request made single rfl
      rw [exchanges_of_single single] at made
      cases List.mem_singleton.mp made
      exact ⟨before.plane, ⟨_, happened, rfl, rfl⟩, rfl⟩
    | connect region =>
      have same := congrArg Exchange.request (List.mem_singleton.mp made)
      cases call <;> cases same
    | _ => cases made
  · rintro ⟨_, ⟨moment, happened, asked, rfl⟩, rfl⟩
    refine List.mem_flatMap.mpr ⟨moment, happened, ?_⟩
    rw [exchangesAt_call asked, exchanges_of_single single]
    exact List.mem_singleton_self _

/-- What a run learned of a certificate that the service made. -/
theorem created_of_exchanged {output : Output}
    (created : ⟨.createKeysAndCertificate true, .success output⟩ ∈
      exchangesOf (action.historyIn (overCloud launch tag) world)) :
    (∃ certificate, certificateOf output = .ok certificate ∧
      .call .createCertificate (.ok certificate) ∈
        Errand.view.seen (action.historyIn (overCloud launch tag) world)) ∨
    ∃ fault, certificateOf output = .error fault ∧
      .call .createCertificate (.error fault) ∈
        Errand.view.seen (action.historyIn (overCloud launch tag) world) := by
  obtain ⟨script, asked, served⟩ :=
    (exchanged_iff .createCertificate nofun _).mp created
  have called := (called_iff .createCertificate _).mpr ⟨script, asked, rfl⟩
  refine (answer_createCertificate served).imp ?_ ?_
  · rintro ⟨certificate, whole, same⟩
    exact ⟨certificate, whole, same ▸ called⟩
  · rintro ⟨fault, lacks, same⟩
    exact ⟨fault, lacks, same ▸ called⟩

/-- The attachments of a run. -/
theorem attaches_iff (thing principal : String) :
    (∃ answer, ⟨.attachThingPrincipal thing principal, .success answer⟩ ∈
        exchangesOf (action.historyIn (overCloud launch tag) world)) ↔
      .call (.attachPrincipal thing principal) (.ok ()) ∈
        Errand.view.seen (action.historyIn (overCloud launch tag) world) := by
  rw [called_iff]
  constructor
  · rintro ⟨answer, inside⟩
    obtain ⟨script, asked, served⟩ :=
      (exchanged_iff (.attachPrincipal thing principal) nofun _).mp inside
    obtain ⟨_, replied⟩ := (settles_send _ _ script).ok_iff.mp ⟨answer, served⟩
    exact ⟨script, asked, replied⟩
  · rintro ⟨script, asked, replied⟩
    obtain ⟨answer, served⟩ := (settles_send _ _ script).ok_iff.mpr ⟨(), replied⟩
    exact ⟨answer, (exchanged_iff (.attachPrincipal thing principal) nofun _).mpr
      ⟨script, asked, served⟩⟩

/-- The deactivations that a run asks for. -/
theorem deactivates_iff (certificate : String) :
    (∃ response, ⟨.updateCertificate certificate "INACTIVE", response⟩ ∈
        exchangesOf (action.historyIn (overCloud launch tag) world)) ↔
      ∃ reply, .call (.deactivateCertificate certificate) reply ∈
        Errand.view.seen (action.historyIn (overCloud launch tag) world) := by
  simp only [called_iff]
  constructor
  · rintro ⟨response, inside⟩
    obtain ⟨script, asked, -⟩ :=
      (exchanged_iff (.deactivateCertificate certificate) nofun _).mp inside
    exact ⟨_, script, asked, rfl⟩
  · rintro ⟨_, script, asked, -⟩
    exact ⟨_, (exchanged_iff (.deactivateCertificate certificate) nofun _).mpr
      ⟨script, asked, rfl⟩⟩

end Runs

section Making

variable (launch : Launch → FileSystem → Except String Finish × FileSystem) (tag : Nat → RunTag)
  (identity : String) (source : PolicySource) (paths : CredentialPaths) (group : Option String)
  (world : World Script)

/-- The errands of making an identity over the cloud service, all of which come back. -/
theorem establishes_over_cloud :
    Identity.Establishes identity source paths group
        (Errand.view.seen ((Identity.establish identity source paths group).historyIn
          (overCloud launch tag) world))
        ((Identity.establish identity source paths group).runIn (overCloud launch tag) world).1 ∧
      ∀ (call : Call) (reply : Reply call.Answer),
        .call call reply ∈ Errand.view.seen
          ((Identity.establish identity source paths group).historyIn (overCloud launch tag)
            world) → ¬ reply.IsCrash := by
  have establishes := Identity.establishes_of_shows
    ((Identity.establish identity source paths group).shows_historyIn Errand.view
      (overCloud launch tag) world)
  refine ⟨establishes, fun call reply inside => ?_⟩
  obtain ⟨script, -, rfl⟩ := (called_iff call reply).mp inside
  exact not_isCrash_answer (fun list => establishes.unlisted _ inside (congrArg some list)) script

/-- **Making an identity over the cloud service** exchanges requests and responses with it and comes
back. When it fails although the service has told of a new certificate, that certificate is attached
to its thing, or its deactivation was asked for, exactly when the output that told of it had all the
other parts as well. -/
theorem establish_over_cloud :
    let run := (Identity.establish identity source paths group).runIn (overCloud launch tag) world
    let made := exchangesOf
      ((Identity.establish identity source paths group).historyIn (overCloud launch tag) world)
    Replays world.plane made run.2.plane ∧
      ((∃ given, run.1 = .done given) ∨ ∃ fault, run.1 = .failed fault) ∧
      ∀ fault output certificate, run.1 = .failed fault →
        ⟨.createKeysAndCertificate true, .success output⟩ ∈ made →
        output.certificateId = some certificate →
        (((∃ arn, output.certificateArn = some arn ∧
              ∃ answer, ⟨.attachThingPrincipal identity arn, .success answer⟩ ∈ made) ∨
            ∃ response, ⟨.updateCertificate certificate "INACTIVE", response⟩ ∈ made) ↔
          output.IsComplete) := by
  intro run made
  obtain ⟨establishes, returns⟩ :=
    establishes_over_cloud launch tag identity source paths group world
  refine ⟨replays_history launch tag _ world, ?_, ?_⟩
  · show (∃ given, run.1 = .done given) ∨ ∃ fault, run.1 = .failed fault
    have halts := establishes.halts
    revert halts
    cases run.1 with
    | done given => exact fun _ => .inl ⟨given, rfl⟩
    | failed fault => exact fun _ => .inr ⟨fault, rfl⟩
    | panicked message =>
      intro halts
      cases halts nofun with
      | panicked called => exact absurd (.panic message) (returns _ _ called)
    | hung =>
      intro halts
      cases halts nofun with
      | hung called => exact absurd .hang (returns _ _ called)
  · intro fault output certificate failed created known
    have stands := establishes.certified (fun given done => by cases failed.symm.trans done) <| by
      rintro _ inside ⟨_, _, reply, crash, rfl⟩
      exact returns _ _ inside crash
    simp only [made, attaches_iff, deactivates_iff, isComplete_iff known]
    rcases created_of_exchanged created with ⟨given, whole, called⟩ | ⟨lack, lacks, called⟩
    · -- the certificate was handed out
      rcases stands with uncertified | ⟨other, only, kept⟩
      · exact absurd rfl ((uncertified _ called).1 given)
      cases only _ called
      obtain ⟨arn, id, -, -⟩ := certificateOf_eq_ok_iff.mp whole
      cases id.symm.trans known
      exact iff_of_true (kept.imp_left fun attached => ⟨_, arn, attached⟩) ⟨given, whole⟩
    · -- the output was refused, so nothing was done with the certificate
      refine iff_of_false ?_ (by rw [lacks]; nofun)
      rcases stands with uncertified | ⟨other, only, -⟩
      · rintro (⟨arn, -, attached⟩ | ⟨reply, deactivated⟩)
        · exact (uncertified _ attached).2.1 rfl
        · exact (uncertified _ deactivated).2.2 rfl
      · cases only _ called

end Making

/-! ### Services to try -/

/-- The output for a new certificate. -/
def sampleOutput : Output :=
  { Output.empty with
    certificateArn := some "arn:cert/c1"
    certificateId := some "c1"
    certificatePem := some "certificate"
    privateKey := some "key" }

/-- A world with a service that makes certificates with an output and attaches none of them. -/
def sampleService (output : Output) : World Script :=
  .start (.start ((Table.empty.insert "CreateKeysAndCertificate" [.success output]).insert
    "AttachThingPrincipal" [.serviceError resourceNotFound "no such thing"]) true) ⟨Table.empty⟩

/-- A host on which no process can be started. -/
abbrev serviceHost : Host Script :=
  overCloud (fun _ files => (.error "", files)) fun _ => ⟨"a", isTag_a⟩

/-- An identity to make. -/
def sampleMaking : Action TrialError Identity :=
  Identity.establish "device-a" (.name "policy") ⟨⟨"/cert.pem"⟩, ⟨"/key.pem"⟩⟩ none

/-- The certificate that could not be attached was to be deactivated. -/
theorem establish_refused_attachment :
    ∃ fault response, (sampleMaking.runIn serviceHost (sampleService sampleOutput)).1 =
        .failed fault ∧
      ⟨.updateCertificate "c1" "INACTIVE", response⟩ ∈
        exchangesOf (sampleMaking.historyIn serviceHost (sampleService sampleOutput)) := by
  have failed : (sampleMaking.runIn serviceHost (sampleService sampleOutput)).1 =
      .failed (.provisioningFailed "device-a"
        "attach certificate to thing: thing 'device-a' not found") := by decide +kernel
  have created : ⟨.createKeysAndCertificate true, .success sampleOutput⟩ ∈
      exchangesOf (sampleMaking.historyIn serviceHost (sampleService sampleOutput)) := by
    decide +kernel
  have unattached : ∀ exchange ∈
      exchangesOf (sampleMaking.historyIn serviceHost (sampleService sampleOutput)),
      exchange.request = .attachThingPrincipal "device-a" "arn:cert/c1" →
        exchange.response = .serviceError resourceNotFound "no such thing" := by decide +kernel
  obtain ⟨-, -, kept⟩ := establish_over_cloud (fun _ files => (.error "", files))
    (fun _ => ⟨"a", isTag_a⟩) "device-a" (.name "policy") ⟨⟨"/cert.pem"⟩, ⟨"/key.pem"⟩⟩ none
    (sampleService sampleOutput)
  rcases (kept _ _ "c1" failed created rfl).mpr ⟨rfl, rfl, rfl⟩ with
    ⟨_, same, answer, attached⟩ | ⟨response, deactivated⟩
  · cases same
    cases unattached _ attached rfl
  · exact ⟨_, response, failed, deactivated⟩

/-- **An output without the private key** leaves its certificate behind: making the identity fails,
and nothing was asked for after the certificate. -/
theorem incomplete_output_strands :
    let run := sampleMaking.runIn serviceHost
      (sampleService { sampleOutput with privateKey := none })
    run.1 = .failed (.provisioningFailed "device-a" ("create keys and certificate: " ++
        "invalid CreateKeysAndCertificate response: missing keyPair.PrivateKey")) ∧
      run.2.plane.requests = [.createThing "device-a", .createKeysAndCertificate true] := by
  decide +kernel

end Cloud

end DeviceTrial
