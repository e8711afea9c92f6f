/-
**The cloud service as a control plane.**

Each call is one request, except that listing principals asks for page after page. A response that
is no success is a fault: *not found* where the service says so and the operation can tell what is
missing, *refused* otherwise.

* `listPages_of_last` — a page without a token is the last one;
* `listPages_of_token` — a page with a token is followed by the page of that token.
-/

import DeviceTrial.Cloud.Script

namespace DeviceTrial.Cloud

/-- The fault for a response that is no success. -/
def refusal (operation : String) (response : Response) : PlaneError :=
  .refused operation response.explanation

/-- What a response gives: its output, a fault that names the missing resource, or a refusal. -/
def outputOf (operation : String) (resource : Option String) :
    Response → Except PlaneError Output
  | .success output => .ok output
  | response =>
    match resource with
    | some name => if response.isResourceNotFound then .error (.notFound name)
      else .error (refusal operation response)
    | none => .error (refusal operation response)

/-- Sends a request; `resource` names what is missing when the service says so. -/
def send (request : Request) (resource : Option String) (script : Script) :
    Except PlaneError Output × Script :=
  let served := script.serve request
  (outputOf request.operation resource served.1, served.2)

/-- Names a thing in a fault. -/
def thingResource (thing : String) : String := "thing '" ++ thing ++ "'"

/-- Names a certificate in a fault. -/
def certificateResource (certificate : String) : String := "certificate '" ++ certificate ++ "'"

/-- A part that an output must have. -/
def required {α : Type} (operation part : String) : Option α → Except PlaneError α
  | some value => .ok value
  | none => .error (.incomplete operation ("missing " ++ part))

/-- The certificate in an output, whose parts are looked for in a fixed order. -/
def certificateOf (output : Output) : Except PlaneError Certificate := do
  let operation := "CreateKeysAndCertificate"
  let arn ← required operation "certificateArn" output.certificateArn
  let id ← required operation "certificateId" output.certificateId
  let pem ← required operation "certificatePem" output.certificatePem
  let privateKey ← required operation "keyPair.PrivateKey" output.privateKey
  return ⟨arn, id, pem, privateKey⟩

/-- The token that asks for the page after an output; an empty token is none. -/
def nextToken? (output : Output) : Option String :=
  output.nextToken.filter fun token => !token.isEmpty

/-- Lists principals page by page, at most `fuel` pages; `none` when there are more. -/
def listPages (thing : String) :
    (fuel : Nat) → (token : Option String) → Script → Option (Except PlaneError (List String)) × Script
  | 0, _, script => (none, script)
  | fuel + 1, token, script =>
    match send (.listThingPrincipals thing token) (some (thingResource thing)) script with
    | (.error fault, after) => (some (.error fault), after)
    | (.ok output, after) =>
      match nextToken? output with
      | none => (some (.ok output.principals), after)
      | some next =>
        match listPages thing fuel (some next) after with
        | (some (.ok rest), last) => (some (.ok (output.principals ++ rest)), last)
        | other => other

/-- The number of pages after which a script only repeats itself. -/
def pageBound (script : Script) : Nat := (script.upcoming "ListThingPrincipals").length + 1

/-- The principals of a thing. When the last scripted page asks for another one, the listing never
ends. -/
def listPrincipals (thing : String) (script : Script) : Reply (List String) × Script :=
  match listPages thing (pageBound script) none script with
  | (some (.ok principals), after) => (.ok principals, after)
  | (some (.error fault), after) => (.error fault, after)
  | (none, after) => (.hang, after)

/-- The reply that carries the outcome of a request. -/
def replyWith {α : Type} (read : Output → Except PlaneError α) :
    Except PlaneError Output × Script → Reply α × Script
  | (.ok output, after) =>
    match read output with
    | .ok value => (.ok value, after)
    | .error fault => (.error fault, after)
  | (.error fault, after) => (.error fault, after)

/-- Ignores the output. -/
def nothing (_ : Output) : Except PlaneError Unit := .ok ()

/-- The secret in an output. -/
def secretOf (name : String) (output : Output) : Except PlaneError String :=
  match output.secretString with
  | some value => .ok value
  | none => .error (.incomplete "GetSecretValue" ("secret '" ++ name ++ "' has no string value"))

/-- The payload in an output. -/
def payloadOf (output : Output) : Except PlaneError ByteArray :=
  match output.payload with
  | some payload => .ok payload
  | none => .error (.incomplete "GetThingShadow" "empty payload")

/-- Asks for the execution of a job; one that the service does not know is no execution. -/
def describeJob (job thing : String) (script : Script) :
    Reply (Option JobExecution) × Script :=
  let request := Request.describeJobExecution job thing
  let served := script.serve request
  match served.1 with
  | .success output => (.ok output.execution, served.2)
  | response =>
    if response.isResourceNotFound then (.ok none, served.2)
    else (.error (refusal request.operation response), served.2)

/-- Answers a call to the control plane by requests to the service. -/
def answer : (call : Call) → Script → Reply call.Answer × Script
  | .getSecret name, script =>
    replyWith (secretOf name)
      (send (.getSecretValue name) (some ("secret '" ++ name ++ "'")) script)
  | .createThing thing, script => replyWith nothing (send (.createThing thing) none script)
  | .createCertificate, script =>
    replyWith certificateOf (send (.createKeysAndCertificate true) none script)
  | .attachPrincipal thing principal, script =>
    replyWith nothing
      (send (.attachThingPrincipal thing principal) (some (thingResource thing)) script)
  | .attachPolicy policy target, script =>
    replyWith nothing
      (send (.attachPolicy policy target) (some ("policy '" ++ policy ++ "'")) script)
  | .joinGroup thing group, script =>
    replyWith nothing
      (send (.addThingToThingGroup thing group) (some ("thing group '" ++ group ++ "'")) script)
  | .describeThing thing, script =>
    replyWith (fun output => .ok ⟨output.thingName.getD thing, output.thingArn⟩)
      (send (.describeThing thing) (some (thingResource thing)) script)
  | .listPrincipals thing, script => listPrincipals thing script
  | .detachPrincipal thing principal, script =>
    replyWith nothing
      (send (.detachThingPrincipal thing principal) (some (thingResource thing)) script)
  | .deactivateCertificate certificate, script =>
    replyWith nothing
      (send (.updateCertificate certificate "INACTIVE") (some (certificateResource certificate))
        script)
  | .deleteCertificate certificate, script =>
    replyWith nothing
      (send (.deleteCertificate certificate true) (some (certificateResource certificate)) script)
  | .deleteThing thing, script =>
    replyWith nothing (send (.deleteThing thing) (some (thingResource thing)) script)
  | .describeJob job thing, script => describeJob job thing script
  | .fetchShadow thing shadow, script =>
    replyWith payloadOf
      (send (.getThingShadow thing shadow)
        (some (shadow.getD "classic" ++ " shadow of thing '" ++ thing ++ "'")) script)

/-- The service as a control plane. -/
def plane : Plane Script := ⟨answer⟩

/-- The kind of endpoint that shadows are read from. -/
def dataEndpoint : String := "iot:Data-ATS"

/-- Connects to the service of a region: its data endpoint must be known. -/
def connect (region : String) (script : Script) : Reply String × Script :=
  let located := { script with region := region }
  let request := Request.describeEndpoint dataEndpoint
  replyWith (fun output => required request.operation "endpointAddress" output.endpointAddress)
    (send request none located)

theorem listPages_of_last {thing : String} {fuel : Nat} {token : Option String}
    {script after : Script} {output : Output}
    (sent : send (.listThingPrincipals thing token) (some (thingResource thing)) script =
      (.ok output, after))
    (last : nextToken? output = none) :
    listPages thing (fuel + 1) token script = (some (.ok output.principals), after) := by
  simp [listPages, sent, last]

theorem listPages_of_token {thing next : String} {fuel : Nat} {token : Option String}
    {script after final : Script} {output : Output} {rest : List String}
    (sent : send (.listThingPrincipals thing token) (some (thingResource thing)) script =
      (.ok output, after))
    (more : nextToken? output = some next)
    (others : listPages thing fuel (some next) after = (some (.ok rest), final)) :
    listPages thing (fuel + 1) token script =
      (some (.ok (output.principals ++ rest)), final) := by
  simp [listPages, sent, more, others]

end DeviceTrial.Cloud
