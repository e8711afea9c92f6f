/-
**What making an identity comes to.**

The thing may be registered before, with principals and groups of its own, and any call may be made to
fail. `Founds` has one case for each way out, with all that there is then. Its cases say where the new
certificate is when there is one: on the thing, or gone.

* `founds_of_leads` — **every run is one of the cases**, by following it step by step;
* `Founds.keeps`, `Founds.provides`, `Founds.withholds` — what is common to all cases, what there is
  when an identity was made, and what there is when none was;
* `establish_founds` — **making an identity**, whatever the registry and whatever fails;
* `establish_adds_no_principal` — a principal that was there before is not added again.
-/

import DeviceTrial.Proofs.Identity.Residue
import DeviceTrial.Proofs.Identity.Retrying
import DeviceTrial.Proofs.Identity.Writing
import DeviceTrial.Proofs.Plane.Inventory
import DeviceTrial.Proofs.Plane.Transitions
import DeviceTrial.Proofs.Together.Ownership

namespace DeviceTrial

/-- Whether an operation has a part in making an identity. -/
def Operation.isMaking : Operation → Bool
  | .getSecret | .createThing | .createCertificate | .attachPrincipal | .attachPolicy
  | .joinGroup => true
  | _ => false

/-- A thing with one more principal and, if one is given, in one more group. -/
def RegisteredThing.equipped (known : RegisteredThing) (principal : String)
    (group : Option String) : RegisteredThing where
  principals := Registry.includeText principal known.principals
  groups := group.elim known.groups fun name => Registry.includeText name known.groups

namespace Registry

variable {registry : Registry} {thing : String}

/-- The policy that a source names. -/
def policyOf? (registry : Registry) : PolicySource → Option String
  | .name policy => some policy
  | .secret secret => registry.secrets.get? secret

/-- The registry with a thing and its new certificate, whatever the thing was before. -/
def founded (registry : Registry) (thing : String) (policies : List String)
    (group : Option String) : Registry :=
  (registry.withCertificate policies).withThingAs thing
    ((registry.knownAs thing).equipped (arnOf registry.nextId) group)

/-- The registry with a thing after a certificate was made and taken away again. -/
def discarded (registry : Registry) (thing : String) : Registry :=
  { registry.withThingAs thing (registry.knownAs thing) with issued := registry.issued + 1 }

/-- The registry with a thing and a certificate that is inactive. -/
def dormant (registry : Registry) (thing : String) : Registry :=
  { (registry.withCertificate []).withThingAs thing (registry.knownAs thing) with
    certificates := registry.certificates.insert registry.nextId
      ⟨arnOf registry.nextId, false, []⟩ }

theorem step_deactivateCertificate (registry : Registry) (thing : String) :
    ((registry.withCertificate []).withThingAs thing (registry.knownAs thing)).step
        (.deactivateCertificate registry.nextId) = .ok ((), registry.dormant thing) := by
  simp only [step, withThingAs, withCertificate, Table.get?_insert_self, Table.update_insert]
  rfl

theorem step_deleteCertificate (sound : registry.IsSound) (thing : String) :
    (registry.dormant thing).step (.deleteCertificate registry.nextId) =
      .ok ((), registry.discarded thing) := by
  have restored : (registry.certificates.insert registry.nextId
      ⟨arnOf registry.nextId, false, []⟩).erase registry.nextId = registry.certificates :=
    Table.erase_insert sound.fresh _
  simp only [step, dormant, Table.get?_insert_self, restored]
  rfl

end Registry

namespace Identity

open Registry DeviceTrial.Action

/-- How making an identity comes out, and what there is then. -/
inductive Founds (meddling : Meddling) (first : Inventory) (identity : String)
    (source : PolicySource) (paths : CredentialPaths) (group : Option String) :
    Fate TrialError Identity → Inventory → Prop where
  /-- The name of the policy is in a secret that cannot be read. -/
  | unnamed {secret : String} {fault : PlaneError} (kept : source = .secret secret)
      (rejects : first.registry.Rejects meddling (.getSecret secret) fault) :
    Founds meddling first identity source paths group
      (.failed (.secretUnavailable secret fault.message)) first
  /-- The thing is not made. -/
  | unregistered {fault : PlaneError} (fails : meddling .createThing (.fault fault)) :
    Founds meddling first identity source paths group
      (.failed (stepFailed identity "create thing" fault.message)) first
  /-- There is no certificate for the thing. -/
  | uncertified {fault : PlaneError} (fails : meddling .createCertificate (.fault fault)) :
    Founds meddling first identity source paths group
      (.failed (stepFailed identity "create keys and certificate" fault.message))
      ⟨first.registry.withThingAs identity (first.registry.knownAs identity), first.files⟩
  /-- The certificate cannot be attached, and is taken away again. -/
  | unattached {fault : PlaneError} (fails : meddling .attachPrincipal (.fault fault)) :
    Founds meddling first identity source paths group
      (.failed (stepFailed identity "attach certificate to thing" fault.message))
      ⟨first.registry.discarded identity, first.files⟩
  /-- The certificate is attached and has no policy. -/
  | unallowed {fault : PlaneError} (fails : meddling .attachPolicy (.fault fault)) :
    Founds meddling first identity source paths group
      (.failed (stepFailed identity "attach policy" fault.message))
      ⟨first.registry.founded identity [] none, first.files⟩
  /-- The thing is not put into the group. -/
  | unjoined {policy : String} {fault : PlaneError}
      (names : first.registry.policyOf? source = some policy)
      (fails : meddling .joinGroup (.fault fault)) :
    Founds meddling first identity source paths group
      (.failed (stepFailed identity "add thing to group" fault.message))
      ⟨first.registry.founded identity [policy] none, first.files⟩
  /-- The files cannot be written. -/
  | unwritten {policy : String} {fault : FileFault} {files : FileSystem}
      (names : first.registry.policyOf? source = some policy) :
    Founds meddling first identity source paths group
      (.failed (stepFailed identity "write credentials" fault.message))
      ⟨first.registry.founded identity [policy] group, files⟩
  /-- The identity is made. -/
  | made {policy : String} {files : FileSystem} {ownerOnly : Bool}
      (names : first.registry.policyOf? source = some policy)
      (certificate : files.Holds paths.certificate
        (certificateNumber (first.registry.issued + 1)).pem ownerOnly)
      (key : files.Holds paths.key (certificateNumber (first.registry.issued + 1)).privateKey true) :
    Founds meddling first identity source paths group
      (.done ⟨identity, arnOf first.registry.nextId, first.registry.nextId, paths, group⟩)
      ⟨first.registry.founded identity [policy] group, files⟩

variable {meddling : Meddling} {first last : Inventory} {registry : Registry} {files : FileSystem}
  {identity : String} {source : PolicySource} {paths : CredentialPaths} {group : Option String}

/-! ### Step by step -/

/-- A step does its work unless it is made to fail. -/
theorem step_of_leads {β : Type} {name : String} {call : Call} {value : call.Answer}
    {after : Registry} {next : call.Answer → Action TrialError β} {fate : Fate TrialError β}
    (leads : (step identity name call >>= next).Leads meddling first fate last)
    (fails : meddling.FailsAt call.operation)
    (works : first.registry.step call = .ok (value, after)) :
    (next value).Leads meddling ⟨after, first.files⟩ fate last ∨
      ∃ fault, meddling call.operation (.fault fault) ∧
        fate = .failed (stepFailed identity name fault.message) ∧ last = first := by
  obtain ⟨stop, middle, steps, onward⟩ := leads.bind
  obtain ⟨inner, called, rfl⟩ := steps.mapError
  obtain ⟨rfl, rfl⟩ | ⟨fault, meddles, rfl, rfl⟩ := called.call_of_works fails works
  · exact .inl onward
  · obtain ⟨rfl, rfl⟩ := Leads.fail onward
    exact .inr ⟨fault, meddles, rfl, rfl⟩

/-- The name of the policy, or the failure of the secret that it is kept in. -/
theorem names_of_leads {fate : Fate TrialError String}
    (leads : (policyName source).Leads meddling first fate last)
    (fails : meddling.FailsAt .getSecret) :
    last = first ∧
      ((∃ policy, fate = .done policy ∧ first.registry.policyOf? source = some policy) ∨
        ∃ secret fault, source = .secret secret ∧
          first.registry.Rejects meddling (.getSecret secret) fault ∧
          fate = .failed (.secretUnavailable secret fault.message)) := by
  cases source with
  | name policy =>
    obtain ⟨rfl, rfl⟩ := Leads.pure leads
    exact ⟨rfl, .inl ⟨policy, rfl, rfl⟩⟩
  | secret secret =>
    obtain ⟨stop, middle, tries, onward⟩ := Leads.bind leads
    obtain ⟨inner, called, rfl⟩ := tries.attempt
    obtain ⟨value, rfl, works, files⟩ | ⟨fault, rfl, rejects, rfl⟩ := called.call fails
    · obtain ⟨rfl, rfl⟩ := (Leads.log_bind onward).pure
      have told := Serves.told (.done works : Serves meddling _ (.getSecret secret) _ _)
      have kept := step_of_reading rfl works
      refine ⟨?_, .inl ⟨value, rfl, told⟩⟩
      cases first
      cases last
      simp_all
    · obtain ⟨rfl, rfl⟩ := (Leads.log_bind onward).fail
      exact ⟨rfl, .inr ⟨secret, fault, rfl, rejects, rfl⟩⟩

/-- The certificate that could not be attached is gone. -/
theorem discard_of_leads {fate : Fate TrialError Unit} (sound : registry.IsSound)
    (deactivates : meddling.Spares .deactivateCertificate)
    (deletes : meddling.Spares .deleteCertificate)
    (leads : (discard identity registry.nextId).Leads meddling
      ⟨(registry.withCertificate []).withThingAs identity (registry.knownAs identity), files⟩
      fate last) :
    fate = .done () ∧ last = ⟨registry.discarded identity, files⟩ := by
  obtain ⟨stop, middle, tries, onward⟩ := Leads.bind leads
  obtain ⟨inner, taken, rfl⟩ := tries.attempt
  obtain ⟨one, between, deactivated, rest⟩ := taken.bind
  obtain ⟨rfl, rfl⟩ := deactivated.call_of_spared deactivates
    (step_deactivateCertificate registry identity)
  obtain ⟨rfl, rfl⟩ := Leads.call_of_spared rest deletes (step_deleteCertificate sound identity)
  exact Leads.log onward

/-- The certificate is attached, or it is taken away again. -/
theorem attach_of_leads {fate : Fate TrialError Unit} (sound : registry.IsSound)
    (attaches : meddling.FailsAt .attachPrincipal)
    (deactivates : meddling.Spares .deactivateCertificate)
    (deletes : meddling.Spares .deleteCertificate)
    (leads : (attach identity (certificateNumber (registry.issued + 1))).Leads meddling
      ⟨(registry.withCertificate []).withThingAs identity (registry.knownAs identity), files⟩
      fate last) :
    (fate = .done () ∧ last = ⟨registry.founded identity [] none, files⟩) ∨
      ∃ fault, meddling .attachPrincipal (.fault fault) ∧
        fate = .failed (stepFailed identity "attach certificate to thing" fault.message) ∧
        last = ⟨registry.discarded identity, files⟩ := by
  obtain ⟨stop, middle, tries, onward⟩ := Leads.bind leads
  obtain ⟨inner, called, rfl⟩ := tries.attempt
  obtain ⟨rfl, rfl⟩ | ⟨fault, meddles, rfl, rfl⟩ :=
    called.call_of_works attaches (step_attachPrincipal _ _ _ _)
  · exact .inl (Leads.pure onward)
  · obtain ⟨stop, middle, discards, onward⟩ := Leads.bind onward
    obtain ⟨rfl, rfl⟩ := discard_of_leads sound deactivates deletes discards
    obtain ⟨rfl, rfl⟩ := Leads.fail onward
    exact .inr ⟨fault, meddles, rfl, rfl⟩

/-- The thing is in its group, or was not put into it. -/
theorem join_of_leads {policies : List String} {fate : Fate TrialError Unit}
    (joins : meddling.FailsAt .joinGroup)
    (leads : (join identity group).Leads meddling
      ⟨registry.founded identity policies none, files⟩ fate last) :
    (fate = .done () ∧ last = ⟨registry.founded identity policies group, files⟩) ∨
      ∃ fault, meddling .joinGroup (.fault fault) ∧
        fate = .failed (stepFailed identity "add thing to group" fault.message) ∧
        last = ⟨registry.founded identity policies none, files⟩ := by
  cases group with
  | none => exact .inl (Leads.pure leads)
  | some group =>
    obtain ⟨inner, called, rfl⟩ := Leads.mapError leads
    obtain ⟨rfl, rfl⟩ | ⟨fault, meddles, rfl, rfl⟩ :=
      called.call_of_works joins (step_joinGroup _ _ _ _)
    · exact .inl ⟨rfl, rfl⟩
    · exact .inr ⟨fault, meddles, rfl, rfl⟩

/-- The files are written or not, and the registry has no part in it. -/
theorem write_of_leads {certificate : Certificate} {fate : Fate FileFault Unit}
    (apart : paths.certificate.place ≠ paths.key.place)
    (leads : (writeCredentials certificate paths).Leads meddling first fate last) :
    last.registry = first.registry ∧
      ((fate = .done () ∧ (∃ ownerOnly,
          last.files.Holds paths.certificate certificate.pem ownerOnly) ∧
          last.files.Holds paths.key certificate.privateKey true) ∨
        ∃ fault, fate = .failed fault) := by
  obtain ⟨connect, launch, tag, world, rfl, rfl, rfl, rfl⟩ := leads
  have steady := steady_writeCredentials certificate paths
  have kept : ((writeCredentials certificate paths).runIn
      (.inMemory connect launch tag) world).2.plane = world.plane := by
    refine steady.within.runIn World.plane (fun effect world here => ?_) world
    cases effect with
    | file request => rfl
    | _ => exact absurd here id
  refine ⟨congrArg (·.state.contents) kept, ?_⟩
  obtain ⟨outcome, comes⟩ := steady.runIn (.inMemory connect launch tag) world
  cases outcome with
  | ok value => exact .inl ⟨comes, files_of_writeCredentials apart comes⟩
  | error fault => exact .inr ⟨fault, comes⟩

/-- **Every run is one of the cases.** -/
theorem founds_of_leads {fate : Fate TrialError Identity} (sound : first.registry.IsSound)
    (fails : ∀ operation, operation.isMaking = true → meddling.FailsAt operation)
    (deactivates : meddling.Spares .deactivateCertificate)
    (deletes : meddling.Spares .deleteCertificate)
    (apart : paths.certificate.place ≠ paths.key.place)
    (leads : (establish identity source paths group).Leads meddling first fate last) :
    Founds meddling first identity source paths group fate last := by
  -- after each step the run is over, which is one of the cases, or leads on
  obtain ⟨stop, middle, naming, onward⟩ := Leads.bind leads
  obtain ⟨rfl, ⟨policy, rfl, names⟩ | ⟨secret, fault, kept, rejects, rfl⟩⟩ :=
    names_of_leads naming (fails _ rfl)
  swap
  · obtain ⟨rfl, rfl⟩ := Leads.fail onward
    exact .unnamed kept rejects
  obtain registered | ⟨fault, meddles, rfl, rfl⟩ :=
    step_of_leads (Leads.log_bind onward) (fails _ rfl) (step_createThing _ identity)
  swap
  · exact .unregistered meddles
  obtain certified | ⟨fault, meddles, rfl, rfl⟩ :=
    step_of_leads (Leads.record_bind registered) (fails _ rfl) (step_createCertificate _)
  swap
  · exact .uncertified meddles
  obtain ⟨stop, middle, attaching, onward⟩ := Leads.bind (Leads.log_bind certified)
  obtain ⟨rfl, rfl⟩ | ⟨fault, meddles, rfl, rfl⟩ :=
    attach_of_leads sound (fails _ rfl) deactivates deletes attaching
  swap
  · obtain ⟨rfl, rfl⟩ := Leads.fail onward
    exact .unattached meddles
  obtain allowed | ⟨fault, meddles, rfl, rfl⟩ :=
    step_of_leads onward (fails _ rfl) (step_attachPolicy sound _ policy)
  swap
  · exact .unallowed meddles
  obtain ⟨stop, middle, joining, onward⟩ := Leads.bind allowed
  obtain ⟨rfl, rfl⟩ | ⟨fault, meddles, rfl, rfl⟩ := join_of_leads (fails _ rfl) joining
  swap
  · obtain ⟨rfl, rfl⟩ := Leads.fail onward
    exact .unjoined names meddles
  obtain ⟨stop, ⟨registry, files⟩, writing, onward⟩ := Leads.bind onward
  obtain ⟨inner, written, rfl⟩ := writing.mapError
  obtain ⟨rfl, ⟨rfl, ⟨ownerOnly, certificate⟩, key⟩ | ⟨fault, rfl⟩⟩ :=
    write_of_leads apart written
  · obtain ⟨rfl, rfl⟩ := (Leads.log_bind onward).pure
    exact .made names certificate key
  · obtain ⟨rfl, rfl⟩ := Leads.fail onward
    exact .unwritten names

/-! ### What the cases have in common -/

/-- What there is when an identity was made. -/
structure Provides (before : Registry) (identity : String) (source : PolicySource)
    (paths : CredentialPaths) (group : Option String) (made : Identity) (after : Inventory) :
    Prop where
  /-- The handle names the thing, the new certificate, the files and the group. -/
  handle : made = ⟨identity, arnOf before.nextId, before.nextId, paths, group⟩
  /-- The thing has the certificate among its principals, and is in the group. -/
  thing : after.registry.things.get? identity =
    some ((before.knownAs identity).equipped made.certificateArn group)
  /-- The certificate is active, and has the policy that was asked for and no other. -/
  certificate : ∃ policy, before.policyOf? source = some policy ∧
    after.registry.certificates.get? made.certificateId =
      some ⟨made.certificateArn, true, [policy]⟩
  /-- The certificate is in its file. -/
  certificateFile : ∃ ownerOnly, after.files.Holds paths.certificate
    (certificateNumber (before.issued + 1)).pem ownerOnly
  /-- The private key is in its file, for its owner alone. -/
  keyFile : after.files.Holds paths.key (certificateNumber (before.issued + 1)).privateKey true

/-- What there is when no identity was made. -/
structure Withholds (before : Inventory) (identity : String) (source : PolicySource)
    (error : TrialError) (after : Inventory) : Prop where
  /-- There is no new certificate, or one that is attached to the thing. -/
  certificates : after.registry.certificates = before.registry.certificates ∨
    arnOf before.registry.nextId ∈ after.registry.principalsOf identity ∧
      ∃ certificate, after.registry.certificates =
        before.registry.certificates.insert before.registry.nextId certificate
  /-- The error says that the secret of the policy is unavailable, and nothing has changed, or that
  the identity could not be made. -/
  error : (∃ secret reason, source = .secret secret ∧ error = .secretUnavailable secret reason ∧
      after = before) ∨ ∃ reason, error = .provisioningFailed identity reason

theorem mem_principalsOf_founded (registry : Registry) (identity : String) (policies : List String)
    (group : Option String) :
    arnOf registry.nextId ∈ (registry.founded identity policies group).principalsOf identity := by
  rw [principalsOf, founded, withThingAs, Table.get?_insert_self]
  exact mem_includeText _ _

theorem Founds.provides {made : Identity}
    (founds : Founds meddling first identity source paths group (.done made) last) :
    Provides first.registry identity source paths group made last := by
  cases founds with
  | @made policy files ownerOnly names certificate key =>
    exact ⟨rfl, Table.get?_insert_self _ _ _, ⟨policy, names, Table.get?_insert_self _ _ _⟩,
      ⟨ownerOnly, certificate⟩, key⟩

theorem Founds.withholds {error : TrialError}
    (founds : Founds meddling first identity source paths group (.failed error) last) :
    Withholds first identity source error last := by
  have attached := mem_principalsOf_founded first.registry identity
  cases founds with
  | unnamed kept rejects => exact ⟨.inl rfl, .inl ⟨_, _, kept, rfl, rfl⟩⟩
  | unregistered fails => exact ⟨.inl rfl, .inr ⟨_, rfl⟩⟩
  | uncertified fails => exact ⟨.inl rfl, .inr ⟨_, rfl⟩⟩
  | unattached fails => exact ⟨.inl rfl, .inr ⟨_, rfl⟩⟩
  | unallowed fails => exact ⟨.inr ⟨attached _ _, _, rfl⟩, .inr ⟨_, rfl⟩⟩
  | unjoined names fails => exact ⟨.inr ⟨attached _ _, _, rfl⟩, .inr ⟨_, rfl⟩⟩
  | unwritten names => exact ⟨.inr ⟨attached _ _, _, rfl⟩, .inr ⟨_, rfl⟩⟩

/-- An error about the secret of the policy comes before anything is changed. -/
theorem Founds.unchanged {secret reason : String}
    (founds : Founds meddling first identity source paths group
      (.failed (.secretUnavailable secret reason)) last) : last = first := by
  obtain ⟨-, ⟨-, -, -, -, same⟩ | ⟨_, other⟩⟩ := founds.withholds
  · exact same
  · cases other

theorem keeps_founded (registry : Registry) (identity : String) (policies : List String)
    (group : Option String) :
    registry.Keeps identity (some (registry.issued + 1))
      (registry.founded identity policies group) :=
  { Keeps.refl identity (some (registry.issued + 1)) registry with
    things := Table.erase_insert_self _ _ _
    certificates := Table.erase_insert_self _ _ _
    issued := Nat.le_succ _ }

/-- **Nothing else has changed** besides the thing and the new certificate. -/
theorem Founds.keeps {fate : Fate TrialError Identity}
    (founds : Founds meddling first identity source paths group fate last) :
    first.registry.Keeps identity (some (first.registry.issued + 1)) last.registry := by
  have kept := Keeps.refl identity (some (first.registry.issued + 1)) first.registry
  cases founds with
  | unnamed kept' rejects => exact kept
  | unregistered fails => exact kept
  | uncertified fails => exact { kept with things := Table.erase_insert_self _ _ _ }
  | unattached fails =>
    exact { kept with things := Table.erase_insert_self _ _ _, issued := Nat.le_succ _ }
  | unallowed fails => exact keeps_founded _ _ _ _
  | unjoined names fails => exact keeps_founded _ _ _ _
  | unwritten names => exact keeps_founded _ _ _ _
  | made names certificate key => exact keeps_founded _ _ _ _

/-- Making an identity ends where the secret of its policy cannot be read. -/
theorem runIn_establish_unnamed {σ : Type} {host : Host σ} {world : World σ} {secret : String}
    {fault : PlaneError}
    (answers : (host.plane.answer (.getSecret secret) world.plane).1 = .error fault) :
    ((establish identity (.secret secret) paths group).runIn host world).1 =
      .failed (.secretUnavailable secret fault.message) := by
  have called : ((Action.call (.getSecret secret)).runIn host world).1 = .failed fault := by
    rw [runIn_call]
    exact congrArg Reply.fate answers
  have tried : ((Action.call (.getSecret secret)).attempt.runIn host world :
      Fate TrialError _ × World σ).1 = .done (.error fault) := by
    rw [runIn_attempt, called]
    rfl
  have resolved : ((policyName (.secret secret)).runIn host world).1 =
      .failed (.secretUnavailable secret fault.message) := by
    show ((resolveSecret secret).runIn host world).1 = _
    unfold resolveSecret
    rw [runIn_bind_of_done tried]
    rfl
  unfold establish
  rw [runIn_bind_of_failed resolved]

section InMemory

variable (connect : String → Reply String)
  (launch : Launch → FileSystem → Except String Finish × FileSystem) (tag : Nat → RunTag)

/-- **Making an identity**, whatever is registered and whichever of its calls are made to fail, as long
as nothing comes in the way of taking a certificate away that is attached to nothing:

* it comes to one of the ways out of `Founds`, with exactly what there is then;
* no other thing and no other certificate is changed, and no secret, job or shadow;
* an identity that was made is what its handle says, in the registry and in its files;
* where none was made there is no new certificate that is attached to nothing;
* where the secret of the policy cannot be read the error says so, and nothing has changed. -/
theorem establish_founds (identity : String) (source : PolicySource) (paths : CredentialPaths)
    (group : Option String) (world : World (Interrupted Registry))
    (reachable : Reachable world.plane.state)
    (fails : ∀ operation, operation.isMaking = true → world.plane.meddling.FailsAt operation)
    (deactivates : world.plane.meddling.Spares .deactivateCertificate)
    (deletes : world.plane.meddling.Spares .deleteCertificate)
    (apart : paths.certificate.place ≠ paths.key.place) :
    ∃ fate last, (establish identity source paths group).runIn (.inMemory connect launch tag) world =
        (fate, last) ∧
      Founds world.plane.meddling world.inventory identity source paths group fate
        last.inventory ∧
      world.plane.state.Keeps identity (some (world.plane.state.issued + 1)) last.plane.state ∧
      (∀ made, fate = .done made →
        Provides world.plane.state identity source paths group made last.inventory) ∧
      (∀ error, fate = .failed error →
        Withholds world.inventory identity source error last.inventory) ∧
      ∀ secret fault, source = .secret secret →
        ((Interrupted.plane Registry.plane).answer (.getSecret secret) world.plane).1 =
          .error fault →
        fate = .failed (.secretUnavailable secret fault.message) ∧
          last.inventory = world.inventory := by
  have sound : world.inventory.registry.IsSound :=
    (isSound_of_reachable reachable).of_same rfl rfl
  have founds := founds_of_leads sound fails deactivates deletes apart
    (leads_runIn connect launch tag (establish identity source paths group) world)
  cases run : (establish identity source paths group).runIn (.inMemory connect launch tag) world with
  | mk fate last =>
    rw [run] at founds
    refine ⟨fate, last, rfl, founds, { founds.keeps with }, ?_, ?_, ?_⟩
    · rintro made rfl
      exact { founds.provides with }
    · rintro error rfl
      exact founds.withholds
    · rintro secret fault rfl answers
      have unnamed : fate = .failed (.secretUnavailable secret fault.message) :=
        (congrArg Prod.fst run).symm.trans (runIn_establish_unnamed answers)
      subst unnamed
      exact ⟨rfl, founds.unchanged⟩

end InMemory

/-! ### A thing with a past -/

/-- A thing with a principal and a group, and the secret that names a policy. -/
def sampleTenant : Registry :=
  (seeded [.secret "policy-ref" "P", .thing "device-a"]).afterCalls
    [.attachPrincipal "device-a" "operator", .joinGroup "device-a" "fleet"]

theorem reachable_sampleTenant : Reachable sampleTenant := (reachable_seeded _).afterCalls _

/-- The second attachment fails. -/
def unattachable : List Injection :=
  [⟨.attachPrincipal, some 2, .fault (.refused "AttachThingPrincipal" "throttled")⟩]

theorem meddling_unattachable {operation : Operation} {interruption : Interruption}
    (meddles : (attemptWorld sampleTenant unattachable).plane.meddling operation interruption) :
    operation = .attachPrincipal ∧
      interruption = .fault (.refused "AttachThingPrincipal" "throttled") := by
  have spared : sampleTenant.failing = [] ∧ sampleTenant.panicking = [] := by decide +kernel
  obtain ⟨injection, inside, rfl, rfl⟩ := exists_injection_of_meddling spared.1 spared.2 meddles
  cases List.mem_singleton.mp inside
  exact ⟨rfl, rfl⟩

/-- The thing keeps its principal and its group, and gets a certificate and a group. -/
theorem establish_founds_tenant :
    Reachable sampleTenant ∧
      ∃ made last, (establish "device-a" (.secret "policy-ref") ⟨⟨"/c.pem"⟩, ⟨"/k.pem"⟩⟩
          (some "spare")).runIn attemptHost (attemptWorld sampleTenant unattachable) =
        (.done made, last) ∧
      made.certificateArn = (certificateNumber 1).arn ∧
      last.plane.state.things.get? "device-a" =
        some ⟨["operator", (certificateNumber 1).arn], ["fleet", "spare"]⟩ ∧
      last.plane.state.certificates.get? made.certificateId =
        some ⟨made.certificateArn, true, ["P"]⟩ ∧
      last.files.Holds ⟨"/k.pem"⟩ (certificateNumber 1).privateKey true := by
  obtain ⟨fate, last, run, -, -, provides, -⟩ :=
    establish_founds .ok (fun _ files => (.error "", files)) (fun _ => ⟨"a", isTag_a⟩) "device-a"
      (.secret "policy-ref") ⟨⟨"/c.pem"⟩, ⟨"/k.pem"⟩⟩ (some "spare")
      (attemptWorld sampleTenant unattachable) reachable_sampleTenant
      (fun operation _ interruption meddles => ⟨_, (meddling_unattachable meddles).2⟩)
      (fun interruption meddles => nomatch (meddling_unattachable meddles).1)
      (fun interruption meddles => nomatch (meddling_unattachable meddles).1) (by decide +kernel)
  have done : ((establish "device-a" (.secret "policy-ref") ⟨⟨"/c.pem"⟩, ⟨"/k.pem"⟩⟩
      (some "spare")).runIn attemptHost (attemptWorld sampleTenant unattachable)).1 =
      .done ⟨"device-a", (certificateNumber 1).arn, (certificateNumber 1).id,
        ⟨⟨"/c.pem"⟩, ⟨"/k.pem"⟩⟩, some "spare"⟩ := by
    decide +kernel
  rw [run] at done
  subst done
  obtain ⟨-, thing, ⟨policy, names, certificate⟩, -, key⟩ := provides _ rfl
  have before : (sampleTenant.knownAs "device-a").equipped (certificateNumber 1).arn
      (some "spare") = ⟨["operator", (certificateNumber 1).arn], ["fleet", "spare"]⟩ := by
    decide +kernel
  have issued : sampleTenant.issued = 0 := by decide +kernel
  have secret : sampleTenant.policyOf? (.secret "policy-ref") = some "P" := by decide +kernel
  cases secret.symm.trans names
  refine ⟨reachable_sampleTenant, _, last, run, rfl, ?_, certificate, ?_⟩
  · rw [← before]
    exact thing
  · rw [show (attemptWorld sampleTenant unattachable).plane.state.issued = 0 from issued] at key
    exact key

/-! ### What is not added -/

/-- A thing that has the next certificate among its principals already. -/
def sampleForeseen : Registry :=
  (seeded [.thing "device-a"]).afterCalls
    [.attachPrincipal "device-a" (certificateNumber 1).arn]

/-- **A principal that was there before is not added again**, so that an identity can be made whose
thing has no more principals than it had. And paths that differ as paths may lead to one place, where
the key is all that is left. -/
theorem establish_adds_no_principal :
    Reachable sampleForeseen ∧
      (let run := (establish "device-a" (.name "P") ⟨⟨"/c.pem"⟩, ⟨"/k.pem"⟩⟩ none).runIn
        attemptHost (attemptWorld sampleForeseen [])
      run.1 = .done ⟨"device-a", (certificateNumber 1).arn, (certificateNumber 1).id,
          ⟨⟨"/c.pem"⟩, ⟨"/k.pem"⟩⟩, none⟩ ∧
        run.2.plane.state.things.get? "device-a" = sampleForeseen.things.get? "device-a") ∧
      (Path.mk "./c.pem").sameAs ⟨"c.pem"⟩ = false ∧
      let run := (establish "device-b" (.name "P") ⟨⟨"./c.pem"⟩, ⟨"c.pem"⟩⟩ none).runIn
        attemptHost (attemptWorld sampleForeseen [])
      run.1 = .done ⟨"device-b", (certificateNumber 1).arn, (certificateNumber 1).id,
          ⟨⟨"./c.pem"⟩, ⟨"c.pem"⟩⟩, none⟩ ∧
        run.2.files.readText ⟨"./c.pem"⟩ = .ok (certificateNumber 1).privateKey :=
  ⟨(reachable_seeded _).afterCalls _, by decide +kernel⟩

end Identity

end DeviceTrial
