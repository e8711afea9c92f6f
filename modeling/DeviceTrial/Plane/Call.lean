/-
**The calls to the control plane.**

A `Call` names an operation and its arguments; `Call.Answer` is the type of what it gives back when
it succeeds. A control plane is anything that answers calls, see `Plane`.

* `certificateOf?` — the certificate that a principal names;
* `certificateOf?_eq_some_iff` — exactly the texts with the mark of a certificate and something
  behind it name one.
-/

import DeviceTrial.Error.Plane
import DeviceTrial.Text.Scan

namespace DeviceTrial

/-- The operations of the control plane. -/
inductive Operation where
  | getSecret
  | createThing
  | createCertificate
  | attachPrincipal
  | attachPolicy
  | joinGroup
  | describeThing
  | listPrincipals
  | detachPrincipal
  | deactivateCertificate
  | deleteCertificate
  | deleteThing
  | describeJob
  | fetchShadow
deriving DecidableEq, Repr

/-- The name of an operation. -/
def Operation.name : Operation → String
  | .getSecret => "GetSecret"
  | .createThing => "CreateThing"
  | .createCertificate => "CreateKeysAndCertificate"
  | .attachPrincipal => "AttachThingPrincipal"
  | .attachPolicy => "AttachPolicy"
  | .joinGroup => "AddThingToGroup"
  | .describeThing => "DescribeThing"
  | .listPrincipals => "ListThingPrincipals"
  | .detachPrincipal => "DetachThingPrincipal"
  | .deactivateCertificate => "DeactivateCertificate"
  | .deleteCertificate => "DeleteCertificate"
  | .deleteThing => "DeleteThing"
  | .describeJob => "DescribeJobExecution"
  | .fetchShadow => "GetThingShadow"

/-- The operations in order. -/
def Operation.all : List Operation :=
  [.getSecret, .createThing, .createCertificate, .attachPrincipal, .attachPolicy, .joinGroup,
   .describeThing, .listPrincipals, .detachPrincipal, .deactivateCertificate, .deleteCertificate,
   .deleteThing, .describeJob, .fetchShadow]

/-- The operation of a name. -/
def Operation.ofName? (text : String) : Option Operation := Operation.all.find? (·.name == text)

/-- A certificate that was just made, with its private key. -/
structure Certificate where
  /-- The resource name of the certificate. -/
  arn : String
  /-- The identifier of the certificate. -/
  id : String
  /-- The certificate in its text form. -/
  pem : String
  /-- The private key in its text form. -/
  privateKey : String
deriving DecidableEq, Repr, Inhabited

/-- What the control plane tells about a thing. -/
structure Thing where
  /-- The name of the thing. -/
  name : String
  /-- The resource name of the thing. -/
  arn : Option String
deriving DecidableEq, Repr, Inhabited

/-- The execution of a job on a thing. -/
structure JobExecution where
  /-- The status of the execution. -/
  status : Option String
  /-- The number of the execution. -/
  number : Option Int
deriving DecidableEq, Repr, Inhabited

/-- One call to the control plane. -/
inductive Call where
  /-- Reads a secret. -/
  | getSecret (name : String)
  /-- Registers a thing. -/
  | createThing (thing : String)
  /-- Makes an active certificate with a key pair. -/
  | createCertificate
  /-- Attaches a principal to a thing. -/
  | attachPrincipal (thing principal : String)
  /-- Attaches a policy to a certificate. -/
  | attachPolicy (policy target : String)
  /-- Puts a thing into a group. -/
  | joinGroup (thing group : String)
  /-- Asks about a thing. -/
  | describeThing (thing : String)
  /-- Lists the principals of a thing. -/
  | listPrincipals (thing : String)
  /-- Detaches a principal from a thing. -/
  | detachPrincipal (thing principal : String)
  /-- Makes a certificate inactive. -/
  | deactivateCertificate (certificate : String)
  /-- Deletes an inactive certificate. -/
  | deleteCertificate (certificate : String)
  /-- Deletes a thing without principals. -/
  | deleteThing (thing : String)
  /-- Asks for the execution of a job on a thing. -/
  | describeJob (job thing : String)
  /-- Reads a shadow of a thing, the classic one when no name is given. -/
  | fetchShadow (thing : String) (shadow : Option String)
deriving DecidableEq, Repr

namespace Call

/-- The operation of a call. -/
def operation : Call → Operation
  | getSecret _ => .getSecret
  | createThing _ => .createThing
  | createCertificate => .createCertificate
  | attachPrincipal _ _ => .attachPrincipal
  | attachPolicy _ _ => .attachPolicy
  | joinGroup _ _ => .joinGroup
  | describeThing _ => .describeThing
  | listPrincipals _ => .listPrincipals
  | detachPrincipal _ _ => .detachPrincipal
  | deactivateCertificate _ => .deactivateCertificate
  | deleteCertificate _ => .deleteCertificate
  | deleteThing _ => .deleteThing
  | describeJob _ _ => .describeJob
  | fetchShadow _ _ => .fetchShadow

/-- The argument that a call is known by in a log of calls. -/
def target : Call → String
  | getSecret name => name
  | createThing thing => thing
  | createCertificate => ""
  | attachPrincipal thing _ => thing
  | attachPolicy policy _ => policy
  | joinGroup thing _ => thing
  | describeThing thing => thing
  | listPrincipals thing => thing
  | detachPrincipal thing _ => thing
  | deactivateCertificate certificate => certificate
  | deleteCertificate certificate => certificate
  | deleteThing thing => thing
  | describeJob _ thing => thing
  | fetchShadow thing _ => thing

/-- What a call gives back when it succeeds. -/
abbrev Answer : Call → Type
  | getSecret _ => String
  | createCertificate => Certificate
  | describeThing _ => Thing
  | listPrincipals _ => List String
  | describeJob _ _ => Option JobExecution
  | fetchShadow _ _ => ByteArray
  | createThing _ | attachPrincipal _ _ | attachPolicy _ _ | joinGroup _ _
  | detachPrincipal _ _ | deactivateCertificate _ | deleteCertificate _ | deleteThing _ => Unit

end Call

/-- How a call to the control plane comes out. -/
inductive Reply (α : Type) where
  /-- The call succeeded. -/
  | ok (value : α)
  /-- The call failed. -/
  | error (fault : PlaneError)
  /-- The control plane broke down. -/
  | panic (message : String)
  /-- The call never comes back. -/
  | hang

/-- A control plane with states in `σ`: the reply to each call, and the state after it. -/
structure Plane (σ : Type) where
  /-- Answers a call. -/
  answer : (call : Call) → σ → Reply call.Answer × σ

/-! ### Principals that are certificates -/

/-- What stands in front of the certificate's identifier in the name of a principal. -/
def certificateMark : String := ":cert/"

/-- The identifier of the certificate that a principal names: what follows the first mark. -/
def certificateOf? (principal : String) : Option String :=
  ((Text.cut certificateMark principal).map Prod.snd).filter fun id => !id.isEmpty

theorem certificateOf?_eq_some_iff (principal id : String) :
    certificateOf? principal = some id ↔
      (∃ front, Text.cut certificateMark principal = some (front, id)) ∧ id.isEmpty = false := by
  unfold certificateOf?
  cases found : Text.cut certificateMark principal with
  | none => simp
  | some parts =>
    obtain ⟨front, rest⟩ := parts
    simp only [Option.map_some, Option.filter_some, Option.some.injEq, Prod.mk.injEq]
    constructor
    · intro same
      split at same
      · rename_i full
        cases same
        exact ⟨⟨front, rfl, rfl⟩, by simpa using full⟩
      · cases same
    · rintro ⟨⟨_, _, rfl⟩, full⟩
      simp [full]

end DeviceTrial
