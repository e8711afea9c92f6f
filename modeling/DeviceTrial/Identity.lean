/-
**Ephemeral identities.**

An identity is a thing with a certificate whose policy lets it work, and with the certificate and its
key in two files. `establish` makes one step by step and `dismantle` removes whatever can be reached
from the name of the thing. The one certificate that cannot be reached so is the one that could not
be attached, and `establish` takes that away itself.

* `removalOf`, `dismantleReason` — how the steps of a removal add up;
* `forgive_ok` — what does not exist any more counts as taken away.
-/

import DeviceTrial.Secret

namespace DeviceTrial

/-- Where the policy of an identity comes from. -/
inductive PolicySource where
  /-- The policy of that name. -/
  | name (policy : String)
  /-- The policy whose name is kept in a secret. -/
  | secret (secret : String)
deriving DecidableEq, Repr

/-- The two files of an identity. -/
structure CredentialPaths where
  /-- Where the certificate is written. -/
  certificate : Path
  /-- Where the private key is written. -/
  key : Path
deriving DecidableEq

/-- An identity that is ready to be used. -/
structure Identity where
  /-- The name of the thing. -/
  name : String
  /-- The resource name of the certificate. -/
  certificateArn : String
  /-- The identifier of the certificate. -/
  certificateId : String
  /-- The files of the identity. -/
  paths : CredentialPaths
  /-- The group of the thing. -/
  group : Option String
deriving DecidableEq

/-- What a removal found. -/
inductive Removal where
  /-- The thing was there and is gone, with its certificates. -/
  | removed
  /-- There was no such thing. -/
  | absent
deriving DecidableEq, Repr

namespace Identity

/-- The name of the policy. -/
def policyName : PolicySource → Action TrialError String
  | .name policy => return policy
  | .secret secret => resolveSecret secret

/-- The error for a step of making an identity. -/
def stepFailed (identity step reason : String) : TrialError :=
  .provisioningFailed identity (step ++ ": " ++ reason)

/-- A step of making an identity. -/
def step (identity name : String) (call : Call) : Action TrialError call.Answer :=
  (Action.call call).mapError fun fault => stepFailed identity name fault.message

/-! ### Files -/

/-- Writes a certificate and its key; only the owner may read the key. -/
def writeCredentials (certificate : Certificate) (paths : CredentialPaths) :
    Action FileFault Unit := do
  Action.makeParent paths.certificate
  Action.makeParent paths.key
  Action.fileStep (Action.file (.write paths.certificate certificate.pem))
  Action.fileStep (Action.file (.write paths.key certificate.privateKey))
  Action.fileStep (Action.file (.restrict paths.key))

/-- Removes one file; that it is not there is no fault, and other faults are only logged. -/
def removeFile {ε : Type} (path : Path) : Action ε Unit := do
  match ← Action.file (.remove path) with
  | .ok () => Action.log .debug .identity "credential file removed" [("path", path.text)]
  | .error .notFound => return ()
  | .error fault =>
    Action.log .warn .identity "failed to remove credential file"
      [("path", path.text), ("error", fault.message)]

/-- Removes the files of an identity. -/
def removeCredentials {ε : Type} (paths : CredentialPaths) : Action ε Unit := do
  removeFile paths.certificate
  removeFile paths.key

/-! ### Making -/

/-- Takes a certificate away that is attached to nothing. -/
def discard (identity certificate : String) : Action TrialError Unit := do
  let taken : Action PlaneError Unit := do
    Action.call (.deactivateCertificate certificate)
    Action.call (.deleteCertificate certificate)
  match ← taken.attempt with
  | .ok () =>
    Action.log .info .identity "unattached certificate deleted"
      [("identity", identity), ("certificate_id", certificate)]
  | .error fault =>
    Action.log .warn .identity "failed to delete unattached certificate"
      [("identity", identity), ("certificate_id", certificate), ("error", fault.message)]

/-- Attaches a new certificate to its thing. -/
def attach (identity : String) (certificate : Certificate) : Action TrialError Unit := do
  match ← (Action.call (.attachPrincipal identity certificate.arn)).attempt with
  | .ok () => return ()
  | .error fault =>
    discard identity certificate.id
    Action.fail (stepFailed identity "attach certificate to thing" fault.message)

/-- Puts a thing into its group, if it is to have one. -/
def join (identity : String) : Option String → Action TrialError Unit
  | none => return ()
  | some group => step identity "add thing to group" (.joinGroup identity group)

/-- Makes an identity: thing, certificate, attachment, policy, group and files, in this order. -/
def establish (identity : String) (policy : PolicySource) (paths : CredentialPaths)
    (group : Option String) : Action TrialError Identity := do
  let policy ← policyName policy
  Action.log .info .identity "creating thing" [("identity", identity)]
  step identity "create thing" (.createThing identity)
  Action.record .identityMade
  let certificate ← step identity "create keys and certificate" .createCertificate
  Action.log .debug .identity "certificate created"
    [("identity", identity), ("certificate_id", certificate.id)]
  attach identity certificate
  step identity "attach policy" (.attachPolicy policy certificate.arn)
  join identity group
  (writeCredentials certificate paths).mapError fun fault =>
    stepFailed identity "write credentials" fault.message
  Action.log .info .identity "identity provisioned"
    [("identity", identity), ("policy", policy), ("group", group.getD ""),
     ("certificate_path", paths.certificate.text)]
  return ⟨identity, certificate.arn, certificate.id, paths, group⟩

/-! ### Taking away -/

/-- What does not exist any more counts as taken away. -/
def forgive : Except PlaneError Unit → Except PlaneError Unit
  | .ok () => .ok ()
  | .error fault => if fault.isNotFound then .ok () else .error fault

@[simp] theorem forgive_ok : forgive (.ok ()) = .ok () := rfl

/-- A step that takes something away. -/
def takeAway (operation : Action PlaneError Unit) : Action PlaneError Unit := do
  Action.ofExcept (forgive (← operation.attempt))

/-- Detaches a principal and, if it is a certificate, deactivates and deletes it. -/
def removePrincipal (identity principal : String) : Action PlaneError Unit := do
  takeAway (Action.call (.detachPrincipal identity principal))
  match certificateOf? principal with
  | none =>
    Action.log .debug .identity "principal is not a certificate, detached only"
      [("principal", principal)]
  | some certificate =>
    takeAway (Action.call (.deactivateCertificate certificate))
    takeAway (Action.call (.deleteCertificate certificate))
    Action.log .debug .identity "certificate deleted"
      [("identity", identity), ("certificate_id", certificate)]

/-- Removes principals one after the other; the faults are collected and stop nothing. -/
def removePrincipals (identity : String) : List String → Action TrialError (List String)
  | [] => return []
  | principal :: rest => do
    match ← (removePrincipal identity principal).attempt with
    | .ok () => removePrincipals identity rest
    | .error fault =>
      Action.log .warn .identity "failed to remove principal"
        [("identity", identity), ("principal", principal), ("error", fault.message)]
      let faults ← removePrincipals identity rest
      return (principal ++ ": " ++ fault.message) :: faults

/-- The reason for a removal that failed in some of its steps. -/
def dismantleReason (faults : List String) : String :=
  toString faults.length ++ " step(s) failed: " ++ "; ".intercalate faults

/-- What the deletion of the thing adds to a removal: what was found, and the faults. -/
def removalOf : Except PlaneError Unit → Removal × List String
  | .ok () => (.removed, [])
  | .error fault =>
    if fault.isNotFound then (.absent, []) else (.absent, ["delete thing: " ++ fault.message])

/-- Removes an identity with every certificate attached to it. A step that fails stops none of the
others, and all faults are reported together. -/
def dismantle (identity : String) : Action TrialError Removal := do
  match ← (Action.call (.listPrincipals identity)).attempt with
  | .error fault =>
    if fault.isNotFound then
      Action.log .info .identity "thing not found, nothing to delete" [("identity", identity)]
      return .absent
    else Action.fail (.cleanupFailed identity ("list principals: " ++ fault.message))
  | .ok principals =>
    let faults ← removePrincipals identity principals
    let (removal, more) := removalOf (← (Action.call (.deleteThing identity)).attempt)
    let all := faults ++ more
    if all.isEmpty then
      if removal = .removed then
        Action.record .identityRemoved
        Action.log .info .identity "identity deleted"
          [("identity", identity), ("principals", toString principals.length)]
      return removal
    else Action.fail (.cleanupFailed identity (dismantleReason all))

end Identity

end DeviceTrial
