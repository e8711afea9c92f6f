/-
**The plan of a trial.**

A plan is made once, of the settings and of what was asked for, and then everything about a trial is
known: its identity, its descriptor, what has to be made for it, and what it must bring about.

* `exists_of_build` — what a plan is made of;
* `identity_of_build` — the identity of a plan is a front part followed by the tag of the run;
* `bindings` — what the process under test is told.
-/

import DeviceTrial.Bindings
import DeviceTrial.Expectation
import DeviceTrial.Identity
import DeviceTrial.Scenario
import DeviceTrial.Settings.Basic

namespace DeviceTrial

/-- What is asked for. -/
structure TrialRequest where
  /-- The family of scenarios. -/
  family : Family
  /-- The version of the protocol. -/
  protocol : Protocol
  /-- The variant of the family. -/
  variant : Variant
  /-- The tag of the run. -/
  tag : RunTag
  /-- The region of the control plane. -/
  region : String
  /-- A descriptor that is used instead of the one in the table. -/
  descriptor : Option Path
  /-- A front part of the identity's name that is used instead of the configured one. -/
  nameStart : Option String

/-- What has to be made before the process can run. -/
structure Provisioning where
  /-- Where the policy comes from. -/
  policy : PolicySource
  /-- The files of the identity. -/
  paths : CredentialPaths
  /-- The group of the thing. -/
  group : Option String
deriving DecidableEq

/-- Everything that is needed for one trial. -/
structure Plan where
  /-- The family of scenarios. -/
  family : Family
  /-- The tag of the run. -/
  tag : RunTag
  /-- The name of the identity. -/
  identity : String
  /-- The region of the control plane. -/
  region : String
  /-- Where the descriptor is. -/
  descriptor : Path
  /-- What has to be made, if the scenario does not make its identity itself. -/
  provisioning : Option Provisioning
  /-- What the trial must bring about. -/
  expectation : Expectation
deriving DecidableEq

namespace Plan

/-- Where the descriptor of a request is. -/
def descriptorPath (settings : Settings) (request : TrialRequest) : Except SettingError Path :=
  match request.descriptor with
  | some path => .ok path
  | none => do
    let name ← descriptorName request.family request.variant request.protocol
    return (settings.get .scenarioDirectory).join name

/-- The absolute form of the path in a field, seen from a directory. -/
def absolutePath (seenFrom : Path) (field : Field) (path : Path) : Except SettingError Path :=
  match path.absolute seenFrom with
  | .ok absolute => .ok absolute
  | .error fault =>
    .error (.invalidValue field.dotted ("cannot resolve '" ++ path.text ++ "': " ++ fault.message))

/-- What has to be made for a family whose policy is kept in a secret. -/
def provisioningWith (seenFrom : Path) (policySecret : String) (certificateField keyField : Field)
    (certificate key : Path) (group : Option String) : Except SettingError Provisioning := do
  let certificate ← absolutePath seenFrom certificateField certificate
  let key ← absolutePath seenFrom keyField key
  return ⟨.secret policySecret, ⟨certificate, key⟩, group⟩

/-- What has to be made for a request. -/
def provisioningFor (seenFrom : Path) (settings : Settings) (request : TrialRequest) :
    Except SettingError (Option Provisioning) :=
  match request.family with
  | .fleetProvisioning => .ok none
  | .jobs => (provisioningWith seenFrom (settings.get .jobsPolicySecret) .jobsCertificate .jobsKey
      (settings.get .jobsCertificate) (settings.get .jobsKey) settings.jobsGroup?).map some
  | .shadow => (provisioningWith seenFrom (settings.get .shadowPolicySecret) .shadowCertificate
      .shadowKey (settings.get .shadowCertificate) (settings.get .shadowKey) settings.shadowGroup?).map some

/-- The front part of the identity's name. -/
def nameStart (settings : Settings) (request : TrialRequest) : String :=
  match request.family with
  | .fleetProvisioning => request.nameStart.getD (settings.get .fleetNameStart)
  | .jobs => settings.get .jobsNameStart
  | .shadow => settings.get .shadowNameStart

/-- What a request must bring about. -/
def expectationFor (settings : Settings) (request : TrialRequest) : Expectation :=
  match request.family with
  | .fleetProvisioning => .thingExists
  | .jobs => .jobSucceeded (settings.get .jobSecret)
  | .shadow => .shadowReported
      (if request.variant = .namedShadow then some (settings.get .shadowName) else none)
      (settings.get .shadowProperty) (settings.get .shadowExpected)

/-- Makes the plan for a request; relative paths of the identity's files are seen from a directory. -/
def build (seenFrom : Path) (settings : Settings) (request : TrialRequest) :
    Except SettingError Plan := do
  let descriptor ← descriptorPath settings request
  let provisioning ← provisioningFor seenFrom settings request
  let identity ← request.tag.identityName (nameStart settings request)
  return { family := request.family
           tag := request.tag
           identity := identity
           region := request.region
           descriptor := descriptor
           provisioning := provisioning
           expectation := expectationFor settings request }

/-- What the process under test is told. -/
def bindings (plan : Plan) : Bindings where
  tag := plan.tag
  thing := plan.identity
  certificate := plan.provisioning.map fun provisioning => provisioning.paths.certificate
  key := plan.provisioning.map fun provisioning => provisioning.paths.key
  region := plan.region

section

variable {seenFrom : Path} {settings : Settings} {request : TrialRequest} {plan : Plan}

/-- What a plan is made of. -/
theorem exists_of_build (built : build seenFrom settings request = .ok plan) :
    ∃ descriptor provisioning identity, descriptorPath settings request = .ok descriptor ∧
      provisioningFor seenFrom settings request = .ok provisioning ∧
      request.tag.identityName (nameStart settings request) = .ok identity ∧
      plan = ⟨request.family, request.tag, identity, request.region, descriptor, provisioning,
        expectationFor settings request⟩ := by
  unfold build at built
  cases first : descriptorPath settings request with
  | error fault => simp [first, bind, Except.bind] at built
  | ok descriptor =>
    cases second : provisioningFor seenFrom settings request with
    | error fault => simp [first, second, bind, Except.bind] at built
    | ok provisioning =>
      cases third : request.tag.identityName (nameStart settings request) with
      | error fault => simp [first, second, third, bind, Except.bind] at built
      | ok identity =>
        simp only [first, second, third, bind, Except.bind, pure, Except.pure,
          Except.ok.injEq] at built
        exact ⟨descriptor, provisioning, identity, rfl, rfl, rfl, built.symm⟩

/-- The identity of a plan is a front part followed by the tag of the run. -/
theorem identity_of_build (built : build seenFrom settings request = .ok plan) :
    plan.identity = nameStart settings request ++ request.tag.text := by
  obtain ⟨_, _, _, -, -, named, rfl⟩ := exists_of_build built
  exact ((RunTag.identityName_eq_ok_iff _ _ _).mp named).2.2

end

end Plan

end DeviceTrial
