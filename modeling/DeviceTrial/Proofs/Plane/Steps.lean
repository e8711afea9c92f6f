/-
**What a call to the control plane in memory does, case by case.**

`Registry.step` is a function of the call. `Fulfils` and `Denies` say the same as relations, with a case
for every way in which a call can do its work and for every reason why it cannot:

* `step_eq_ok_iff`, `step_eq_error_iff` — **a call does its work, or is denied, as these say**; what is
  true of all calls is proved from them, a case at a time;
* `Denies.unknownThing`, `Denies.unknownCertificate` — a call that is told that something does not exist
  has not found what it needs;
* `handles_answer` — every answer is that of a call that breaks down, fails, does its work or is denied.
-/

import DeviceTrial.Plane.Registry

namespace DeviceTrial

/-- The thing without which a call cannot do its work. -/
def Call.neededThing? : Call → Option String
  | .attachPrincipal thing _ | .joinGroup thing _ | .describeThing thing | .listPrincipals thing
  | .detachPrincipal thing _ | .deleteThing thing => some thing
  | _ => none

/-- The certificate without which a call cannot do its work. -/
def Call.neededCertificate? : Call → Option String
  | .deactivateCertificate certificate | .deleteCertificate certificate => some certificate
  | _ => none

/-- No call needs both a thing and a certificate. -/
theorem Call.neededCertificate?_eq_none {call : Call} {thing : String}
    (needed : call.neededThing? = some thing) : call.neededCertificate? = none := by
  cases call <;> first | rfl | cases needed

namespace Registry

/-- What a call gives back and leaves behind when it does its work. -/
inductive Fulfils (registry : Registry) : (call : Call) → call.Answer → Registry → Prop where
  /-- A secret is read. -/
  | secretRead {name value : String} (kept : registry.secrets.get? name = some value) :
    Fulfils registry (.getSecret name) value registry
  /-- A thing that is to be made is there already. -/
  | thingThere {thing : String} {known : RegisteredThing}
      (registered : registry.things.get? thing = some known) :
    Fulfils registry (.createThing thing) () registry
  /-- A thing is made. -/
  | thingMade {thing : String} (fresh : registry.things.get? thing = none) :
    Fulfils registry (.createThing thing) ()
      { registry with things := registry.things.insert thing .bare }
  /-- A certificate is issued under the next number. -/
  | certificateMade :
    Fulfils registry .createCertificate (certificateNumber (registry.issued + 1))
      { registry with
        issued := registry.issued + 1
        certificates := registry.certificates.insert (certificateId (registry.issued + 1))
          ⟨arnOf (certificateId (registry.issued + 1)), true, []⟩ }
  /-- A principal is attached. -/
  | principalAttached {thing principal : String} {known : RegisteredThing}
      (registered : registry.things.get? thing = some known) :
    Fulfils registry (.attachPrincipal thing principal) ()
      { registry with
        things := registry.things.update thing fun known =>
          { known with principals := includeText principal known.principals } }
  /-- A policy is attached to the certificate of a resource name. -/
  | policyAttached {policy target certificate : String}
      (found : registry.certificateWithArn? target = some certificate) :
    Fulfils registry (.attachPolicy policy target) ()
      { registry with
        certificates := registry.certificates.update certificate fun known =>
          { known with policies := known.policies ++ [policy] } }
  /-- A thing is put into a group. -/
  | groupJoined {thing group : String} {known : RegisteredThing}
      (registered : registry.things.get? thing = some known) :
    Fulfils registry (.joinGroup thing group) ()
      { registry with
        things := registry.things.update thing fun known =>
          { known with groups := includeText group known.groups } }
  /-- A thing is described. -/
  | thingDescribed {thing : String} {known : RegisteredThing}
      (registered : registry.things.get? thing = some known) :
    Fulfils registry (.describeThing thing) ⟨thing, some (arnStart ++ ":thing/" ++ thing)⟩ registry
  /-- The principals of a thing are listed. -/
  | principalsListed {thing : String} {known : RegisteredThing}
      (registered : registry.things.get? thing = some known) :
    Fulfils registry (.listPrincipals thing) known.principals registry
  /-- A principal is detached, wherever it is listed. -/
  | principalDetached {thing principal : String} {known : RegisteredThing}
      (registered : registry.things.get? thing = some known) :
    Fulfils registry (.detachPrincipal thing principal) ()
      { registry with
        things := registry.things.update thing fun known =>
          { known with principals := known.principals.filter fun other => other ≠ principal } }
  /-- A certificate is made inactive. -/
  | certificateDeactivated {certificate : String} {known : RegisteredCertificate}
      (registered : registry.certificates.get? certificate = some known) :
    Fulfils registry (.deactivateCertificate certificate) ()
      { registry with
        certificates := registry.certificates.update certificate fun known =>
          { known with active := false } }
  /-- An inactive certificate is deleted. -/
  | certificateDeleted {certificate : String} {known : RegisteredCertificate}
      (registered : registry.certificates.get? certificate = some known)
      (inactive : known.active = false) :
    Fulfils registry (.deleteCertificate certificate) ()
      { registry with certificates := registry.certificates.erase certificate }
  /-- A thing without principals is deleted. -/
  | thingDeleted {thing : String} {known : RegisteredThing}
      (registered : registry.things.get? thing = some known) (bare : known.principals = []) :
    Fulfils registry (.deleteThing thing) ()
      { registry with things := registry.things.erase thing }
  /-- The execution of a job is told, if there is one. -/
  | jobDescribed (job thing : String) :
    Fulfils registry (.describeJob job thing) (registry.jobs.get? (job, thing)) registry
  /-- A shadow is read. -/
  | shadowFetched {thing : String} {shadow : Option String} {payload : ByteArray}
      (kept : registry.shadows.get? (thing, shadow) = some payload) :
    Fulfils registry (.fetchShadow thing shadow) payload registry

/-- Why a call cannot do its work. -/
inductive Denies (registry : Registry) : Call → PlaneError → Prop where
  /-- There is no such secret. -/
  | secretMissing {name : String} (unknown : registry.secrets.get? name = none) :
    Denies registry (.getSecret name) (.notFound ("secret '" ++ name ++ "'"))
  /-- The thing that the call is about does not exist. -/
  | thingMissing {call : Call} {thing : String} (needed : call.neededThing? = some thing)
      (unknown : registry.things.get? thing = none) :
    Denies registry call (Registry.thingMissing thing)
  /-- No certificate has the resource name. -/
  | targetMissing {policy target : String}
      (unknown : registry.certificateWithArn? target = none) :
    Denies registry (.attachPolicy policy target) (.notFound ("target '" ++ target ++ "'"))
  /-- The certificate that the call is about does not exist. -/
  | certificateMissing {call : Call} {certificate : String}
      (needed : call.neededCertificate? = some certificate)
      (unknown : registry.certificates.get? certificate = none) :
    Denies registry call (Registry.certificateMissing certificate)
  /-- An active certificate is not deleted. -/
  | stillActive {certificate : String} {known : RegisteredCertificate}
      (registered : registry.certificates.get? certificate = some known)
      (active : known.active = true) :
    Denies registry (.deleteCertificate certificate) (.refused "DeleteCertificate"
      ("certificate '" ++ certificate ++ "' is still active"))
  /-- A thing with principals is not deleted. -/
  | stillAttached {thing : String} {known : RegisteredThing}
      (registered : registry.things.get? thing = some known) (held : known.principals ≠ []) :
    Denies registry (.deleteThing thing) (.refused "DeleteThing" ("thing '" ++ thing ++
      "' still has " ++ toString known.principals.length ++ " principal(s) attached"))
  /-- There is no such shadow. -/
  | shadowMissing {thing : String} {shadow : Option String}
      (unknown : registry.shadows.get? (thing, shadow) = none) :
    Denies registry (.fetchShadow thing shadow) (Registry.shadowMissing thing shadow)

variable {registry after : Registry} {call : Call} {value : call.Answer} {fault : PlaneError}

/-! ### The function does what the relations say -/

theorem Fulfils.step_eq (fulfils : registry.Fulfils call value after) :
    registry.step call = .ok (value, after) := by
  cases fulfils with
  | thingMade fresh => simp [step, Table.contains, fresh]
  | _ => simp [step, changeThing, Table.contains, certificateNumber, *]

theorem Denies.step_eq (denies : registry.Denies call fault) :
    registry.step call = .error fault := by
  cases denies with
  | thingMissing needed unknown =>
    cases call <;> cases needed <;> simp [step, changeThing, Table.contains, unknown]
  | certificateMissing needed unknown =>
    cases call <;> cases needed <;> simp [step, unknown]
  | _ => simp [step, *]

/-- A call that needs a thing: it is denied when there is none, and when the thing is to be deleted and
has principals. -/
theorem fulfils_or_denies_of_thing {thing : String} (registry : Registry)
    (needed : call.neededThing? = some thing) :
    (∃ value after, registry.Fulfils call value after) ∨ ∃ fault, registry.Denies call fault := by
  cases found : registry.things.get? thing with
  | none => exact .inr ⟨_, .thingMissing needed found⟩
  | some known =>
    cases call <;> cases needed
    case some.attachPrincipal.refl => exact .inl ⟨_, _, .principalAttached found⟩
    case some.joinGroup.refl => exact .inl ⟨_, _, .groupJoined found⟩
    case some.describeThing.refl => exact .inl ⟨_, _, .thingDescribed found⟩
    case some.listPrincipals.refl => exact .inl ⟨_, _, .principalsListed found⟩
    case some.detachPrincipal.refl => exact .inl ⟨_, _, .principalDetached found⟩
    case some.deleteThing.refl =>
      by_cases bare : known.principals = []
      · exact .inl ⟨_, _, .thingDeleted found bare⟩
      · exact .inr ⟨_, .stillAttached found bare⟩

/-- A call does its work or is denied: there is nothing else that it can do. -/
theorem fulfils_or_denies (registry : Registry) (call : Call) :
    (∃ value after, registry.Fulfils call value after) ∨ ∃ fault, registry.Denies call fault := by
  cases call with
  | getSecret name =>
    cases found : registry.secrets.get? name with
    | none => exact .inr ⟨_, .secretMissing found⟩
    | some value => exact .inl ⟨_, _, .secretRead found⟩
  | createThing thing =>
    cases found : registry.things.get? thing with
    | none => exact .inl ⟨_, _, .thingMade found⟩
    | some known => exact .inl ⟨_, _, .thingThere found⟩
  | createCertificate => exact .inl ⟨_, _, .certificateMade⟩
  | attachPolicy policy target =>
    cases found : registry.certificateWithArn? target with
    | none => exact .inr ⟨_, .targetMissing found⟩
    | some certificate => exact .inl ⟨_, _, .policyAttached found⟩
  | deactivateCertificate certificate =>
    cases found : registry.certificates.get? certificate with
    | none => exact .inr ⟨_, .certificateMissing rfl found⟩
    | some known => exact .inl ⟨_, _, .certificateDeactivated found⟩
  | deleteCertificate certificate =>
    cases found : registry.certificates.get? certificate with
    | none => exact .inr ⟨_, .certificateMissing rfl found⟩
    | some known =>
      cases live : known.active with
      | true => exact .inr ⟨_, .stillActive found live⟩
      | false => exact .inl ⟨_, _, .certificateDeleted found live⟩
  | describeJob job thing => exact .inl ⟨_, _, .jobDescribed job thing⟩
  | fetchShadow thing shadow =>
    cases found : registry.shadows.get? (thing, shadow) with
    | none => exact .inr ⟨_, .shadowMissing found⟩
    | some payload => exact .inl ⟨_, _, .shadowFetched found⟩
  | _ => exact fulfils_or_denies_of_thing registry rfl

/-- **A call does its work** as `Fulfils` says. -/
theorem step_eq_ok_iff :
    registry.step call = .ok (value, after) ↔ registry.Fulfils call value after := by
  refine ⟨fun done => ?_, Fulfils.step_eq⟩
  rcases fulfils_or_denies registry call with ⟨_, _, fulfils⟩ | ⟨_, denies⟩
  · cases fulfils.step_eq.symm.trans done
    exact fulfils
  · cases denies.step_eq.symm.trans done

/-- **A call is denied** as `Denies` says. -/
theorem step_eq_error_iff : registry.step call = .error fault ↔ registry.Denies call fault := by
  refine ⟨fun refused => ?_, Denies.step_eq⟩
  rcases fulfils_or_denies registry call with ⟨_, _, fulfils⟩ | ⟨_, denies⟩
  · cases fulfils.step_eq.symm.trans refused
  · cases denies.step_eq.symm.trans refused
    exact denies

/-! ### What is missing -/

/-- A call that is told that something does not exist does not find the thing that it needs. -/
theorem Denies.unknownThing {thing : String} (denies : registry.Denies call fault)
    (needed : call.neededThing? = some thing) (missing : fault.isNotFound = true) :
    fault = Registry.thingMissing thing ∧ registry.things.get? thing = none := by
  cases denies with
  | thingMissing other unknown =>
    cases other.symm.trans needed
    exact ⟨rfl, unknown⟩
  | certificateMissing other unknown =>
    cases other.symm.trans (Call.neededCertificate?_eq_none needed)
  | stillAttached registered held => cases missing
  | _ => cases needed

/-- A call that is told that something does not exist does not find the certificate that it needs. -/
theorem Denies.unknownCertificate {certificate : String} (denies : registry.Denies call fault)
    (needed : call.neededCertificate? = some certificate) (missing : fault.isNotFound = true) :
    registry.certificates.get? certificate = none := by
  cases denies with
  | certificateMissing other unknown =>
    cases other.symm.trans needed
    exact unknown
  | thingMissing other unknown =>
    cases needed.symm.trans (Call.neededCertificate?_eq_none other)
  | stillActive registered active => cases missing
  | _ => cases needed

/-- Only what is to be deleted can be in the way of a call without being missing. -/
theorem Denies.isNotFound (denies : registry.Denies call fault)
    (certificate : call.operation ≠ .deleteCertificate) (thing : call.operation ≠ .deleteThing) :
    fault.isNotFound = true := by
  cases denies with
  | stillActive => exact absurd rfl certificate
  | stillAttached => exact absurd rfl thing
  | _ => rfl

/-! ### Calls that are answered -/

/-- How a call is answered, and what it leaves behind. -/
inductive Handles (registry : Registry) : (call : Call) → Reply call.Answer → Registry → Prop where
  /-- The operation was made to break down. -/
  | broken {call : Call} (breaks : call.operation ∈ registry.panicking) :
    Handles registry call (.panic ("mock control plane panic in " ++ sabotageText call))
      (registry.logged call)
  /-- The operation was made to fail. -/
  | failed {call : Call} (unbroken : call.operation ∉ registry.panicking)
      (fails : call.operation ∈ registry.failing) :
    Handles registry call
      (.error (.refused "mock" ("injected failure in " ++ sabotageText call)))
      (registry.logged call)
  /-- The call does its work. -/
  | done {call : Call} {value : call.Answer} {after : Registry}
      (unbroken : call.operation ∉ registry.panicking)
      (unfailing : call.operation ∉ registry.failing)
      (fulfils : (registry.logged call).Fulfils call value after) :
    Handles registry call (.ok value) after
  /-- The call is denied. -/
  | denied {call : Call} {fault : PlaneError} (unbroken : call.operation ∉ registry.panicking)
      (unfailing : call.operation ∉ registry.failing)
      (denies : (registry.logged call).Denies call fault) :
    Handles registry call (.error fault) (registry.logged call)

/-- **Every answer** of the control plane in memory. -/
theorem handles_answer (registry : Registry) (call : Call) :
    registry.Handles call (answer call registry).1 (answer call registry).2 := by
  unfold answer
  dsimp only
  split
  · exact .broken ‹_›
  · split
    · exact .failed ‹_› ‹_›
    · split
      · rename_i done
        exact .done ‹_› ‹_› (step_eq_ok_iff.mp done)
      · rename_i refused
        exact .denied ‹_› ‹_› (step_eq_error_iff.mp refused)

end Registry

end DeviceTrial
