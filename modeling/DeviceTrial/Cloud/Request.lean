/-
**Requests to the cloud service and its responses.**

A `Request` is one request on the wire, a `Response` is what comes back. The output of a successful
request is a record of the fields that matter, each of which may be absent.

* `operation_mem_operations` — every request is one of the service's operations.
-/

import DeviceTrial.Plane.Call

namespace DeviceTrial.Cloud

/-- One request to the cloud service. -/
inductive Request where
  | getSecretValue (secret : String)
  | createThing (thing : String)
  | createKeysAndCertificate (active : Bool)
  | attachThingPrincipal (thing principal : String)
  | attachPolicy (policy target : String)
  | addThingToThingGroup (thing group : String)
  | describeThing (thing : String)
  | listThingPrincipals (thing : String) (token : Option String)
  | detachThingPrincipal (thing principal : String)
  | updateCertificate (certificate status : String)
  | deleteCertificate (certificate : String) (force : Bool)
  | deleteThing (thing : String)
  | describeJobExecution (job thing : String)
  | getThingShadow (thing : String) (shadow : Option String)
  | describeEndpoint (kind : String)
deriving DecidableEq, Repr

/-- The value of a request's parameter. -/
inductive Parameter where
  | text (value : String)
  | flag (value : Bool)
  | absent
deriving DecidableEq, Repr

/-- A text that may be absent, as a parameter. -/
def Parameter.optional : Option String → Parameter
  | some value => .text value
  | none => .absent

namespace Request

/-- The name of the service's operation. -/
def operation : Request → String
  | getSecretValue _ => "GetSecretValue"
  | createThing _ => "CreateThing"
  | createKeysAndCertificate _ => "CreateKeysAndCertificate"
  | attachThingPrincipal _ _ => "AttachThingPrincipal"
  | attachPolicy _ _ => "AttachPolicy"
  | addThingToThingGroup _ _ => "AddThingToThingGroup"
  | describeThing _ => "DescribeThing"
  | listThingPrincipals _ _ => "ListThingPrincipals"
  | detachThingPrincipal _ _ => "DetachThingPrincipal"
  | updateCertificate _ _ => "UpdateCertificate"
  | deleteCertificate _ _ => "DeleteCertificate"
  | deleteThing _ => "DeleteThing"
  | describeJobExecution _ _ => "DescribeJobExecution"
  | getThingShadow _ _ => "GetThingShadow"
  | describeEndpoint _ => "DescribeEndpoint"

/-- The names of the service's operations. -/
def operations : List String :=
  ["GetSecretValue", "CreateThing", "CreateKeysAndCertificate", "AttachThingPrincipal",
   "AttachPolicy", "AddThingToThingGroup", "DescribeThing", "ListThingPrincipals",
   "DetachThingPrincipal", "UpdateCertificate", "DeleteCertificate", "DeleteThing",
   "DescribeJobExecution", "GetThingShadow", "DescribeEndpoint"]

theorem operation_mem_operations (request : Request) : request.operation ∈ operations := by
  cases request <;> simp [operation, operations]

/-- The parameters of a request under their names on the wire. -/
def parameters : Request → List (String × Parameter)
  | getSecretValue secret => [("secret_id", .text secret)]
  | createThing thing => [("thing_name", .text thing)]
  | createKeysAndCertificate active => [("set_as_active", .flag active)]
  | attachThingPrincipal thing principal =>
    [("thing_name", .text thing), ("principal", .text principal)]
  | attachPolicy policy target => [("policy_name", .text policy), ("target", .text target)]
  | addThingToThingGroup thing group =>
    [("thing_name", .text thing), ("thing_group_name", .text group)]
  | describeThing thing => [("thing_name", .text thing)]
  | listThingPrincipals thing token =>
    [("thing_name", .text thing), ("next_token", .optional token)]
  | detachThingPrincipal thing principal =>
    [("thing_name", .text thing), ("principal", .text principal)]
  | updateCertificate certificate status =>
    [("certificate_id", .text certificate), ("new_status", .text status)]
  | deleteCertificate certificate force =>
    [("certificate_id", .text certificate), ("force_delete", .flag force)]
  | deleteThing thing => [("thing_name", .text thing)]
  | describeJobExecution job thing => [("job_id", .text job), ("thing_name", .text thing)]
  | getThingShadow thing shadow =>
    [("thing_name", .text thing), ("shadow_name", .optional shadow)]
  | describeEndpoint kind => [("endpoint_type", .text kind)]

end Request

-- payloads are compared as core compares bytes
local instance outputEq : DecidableEq ByteArray := ByteArray.instDecidableEq

/-- The fields that the output of a request may have. -/
structure Output where
  secretString : Option String
  certificateArn : Option String
  certificateId : Option String
  certificatePem : Option String
  privateKey : Option String
  thingName : Option String
  thingArn : Option String
  principals : List String
  nextToken : Option String
  execution : Option JobExecution
  endpointAddress : Option String
  payload : Option ByteArray
deriving DecidableEq

/-- The output without any field. -/
def Output.empty : Output :=
  ⟨none, none, none, none, none, none, none, [], none, none, none, none⟩

/-- What comes back for a request. -/
inductive Response where
  /-- The request succeeded. -/
  | success (output : Output)
  /-- The service answered with an error of its own. -/
  | serviceError (name : String) (message : String)
  /-- The service was not reached. -/
  | unreachable
  /-- The answer could not be read. -/
  | unreadable
deriving DecidableEq

/-- The name of the service's error that a resource does not exist. -/
def resourceNotFound : String := "ResourceNotFoundException"

/-- Whether the service answered that a resource does not exist. -/
def Response.isResourceNotFound : Response → Bool
  | .serviceError name _ => name == resourceNotFound
  | _ => false

/-- The explanation of a response that is no success. -/
def Response.explanation : Response → String
  | .success _ => "success"
  | .serviceError name message => "service error: " ++ name ++ ": " ++ message
  | .unreachable => "dispatch failure: other: connection failed"
  | .unreadable => "response error: the answer could not be read"

end DeviceTrial.Cloud
