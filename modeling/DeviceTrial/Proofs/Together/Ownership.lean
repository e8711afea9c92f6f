/-
**What belongs to a run.**

To a run belong the thing that its identity is called after and the certificate that it was issued,
known by its number. A call that is about these alone leaves all the rest of a registry as it was.

* `Registry.keeps_answer` — **what an own call leaves alone**: every other thing and certificate, and
  all secrets, jobs and shadows;
* `Errand.IsOwn.spares` — an own call takes nothing away from another run.
-/

import DeviceTrial.Proofs.Plane.Serving
import DeviceTrial.Proofs.Plane.Soundness

namespace DeviceTrial

open Registry

/-- That a call is about the thing, or about the certificate of the number. -/
def Call.IsOwn (thing : String) (number : Option Nat) : Call → Prop
  | .createThing other | .joinGroup other _ | .listPrincipals other | .deleteThing other =>
    other = thing
  | .attachPrincipal other principal | .detachPrincipal other principal =>
    other = thing ∧ ∃ n, number = some n ∧ principal = arnOf (certificateId n)
  | .attachPolicy _ target => ∃ n, number = some n ∧ target = arnOf (certificateId n)
  | .deactivateCertificate certificate | .deleteCertificate certificate =>
    ∃ n, number = some n ∧ certificate = certificateId n
  | .createCertificate | .getSecret _ | .describeThing _ | .describeJob _ _ | .fetchShadow _ _ =>
    True

namespace Errand

/-- That an errand is an own call; a certificate that was made has the number. -/
def IsOwn (thing : String) (number : Option Nat) : Errand → Prop
  | .call .createCertificate (.ok certificate) =>
    ∃ n, number = some n ∧ certificate = certificateNumber n
  | .call request _ => request.IsOwn thing number
  | _ => True

/-- That an errand takes something away from a run: its thing, a principal of its thing, or a
certificate that it made. -/
def TakesFrom (thing : String) (seen : List Errand) : Errand → Prop
  | .call (.detachPrincipal other principal) _ => other = thing ∨
      ∃ certificate, .call .createCertificate (.ok certificate) ∈ seen ∧ principal = certificate.arn
  | .call (.deactivateCertificate id) _ | .call (.deleteCertificate id) _ =>
    ∃ certificate, .call .createCertificate (.ok certificate) ∈ seen ∧ id = certificate.id
  | .call (.deleteThing other) _ => other = thing
  | _ => False

variable {thing other : String} {number owned : Option Nat} {errand : Errand} {seen : List Errand}

/-- **An own call takes nothing away from another run.** -/
theorem IsOwn.spares (own : errand.IsOwn thing number) (different : thing ≠ other)
    (others : ∀ errand ∈ seen, errand.IsOwn other owned)
    (apart : ∀ n, number = some n → owned ≠ some n) : ¬ errand.TakesFrom other seen := by
  -- a certificate that the other run made has another number
  have made : ∀ certificate, .call .createCertificate (.ok certificate) ∈ seen →
      ∀ n, number = some n → certificate.id ≠ certificateId n := by
    intro certificate created n here same
    obtain ⟨m, there, rfl⟩ := others _ created
    have numbers : m = n := certificateId_injective same
    rw [numbers] at there
    exact apart n here there
  cases errand with
  | call call reply =>
    cases call with
    | detachPrincipal thing' principal =>
      obtain ⟨rfl, n, here, rfl⟩ := own
      rintro (same | ⟨certificate, created, same⟩)
      · exact different same
      · obtain ⟨m, there, rfl⟩ := others _ created
        exact made _ created n here (arnOf_injective same).symm
    | deactivateCertificate id =>
      obtain ⟨n, here, rfl⟩ := own
      rintro ⟨certificate, created, same⟩
      exact made certificate created n here same.symm
    | deleteCertificate id =>
      obtain ⟨n, here, rfl⟩ := own
      rintro ⟨certificate, created, same⟩
      exact made certificate created n here same.symm
    | deleteThing thing' => exact fun same => different (own.symm.trans same)
    | _ => exact id
  | _ => exact id

/-- What is own stays so when the certificate is made. -/
theorem IsOwn.mono (own : errand.IsOwn thing number)
    (grows : ∀ n, number = some n → owned = some n) : errand.IsOwn thing owned := by
  cases errand with
  | call request reply =>
    cases request with
    | createCertificate =>
      cases reply with
      | ok certificate =>
        obtain ⟨n, here, same⟩ := own
        exact ⟨n, grows n here, same⟩
      | _ => exact own
    | attachPrincipal | detachPrincipal =>
      obtain ⟨same, n, here, principal⟩ := own
      exact ⟨same, n, grows n here, principal⟩
    | attachPolicy | deactivateCertificate | deleteCertificate =>
      obtain ⟨n, here, same⟩ := own
      exact ⟨n, grows n here, same⟩
    | _ => exact own
  | _ => exact own

end Errand

namespace Registry

/-- The certificates but the one of the number. -/
def hide (number : Option Nat) (certificates : Table String RegisteredCertificate) :
    Table String RegisteredCertificate :=
  match number with
  | some n => certificates.erase (certificateId n)
  | none => certificates

theorem hide_of_absent {number : Option Nat} {certificates : Table String RegisteredCertificate}
    (absent : ∀ n, number = some n → certificates.get? (certificateId n) = none) :
    hide number certificates = certificates := by
  cases number with
  | none => rfl
  | some n => exact Table.erase_of_get?_eq_none (absent n rfl)

theorem hide_comm (first second : Option Nat)
    (certificates : Table String RegisteredCertificate) :
    hide first (hide second certificates) = hide second (hide first certificates) := by
  cases first with
  | none => rfl
  | some m =>
    cases second with
    | none => rfl
    | some n => exact Table.erase_comm certificates (certificateId n) (certificateId m)

/-- That nothing has changed besides a thing and a certificate. -/
structure Keeps (thing : String) (number : Option Nat) (before after : Registry) : Prop where
  secrets : after.secrets = before.secrets
  jobs : after.jobs = before.jobs
  shadows : after.shadows = before.shadows
  failing : after.failing = before.failing
  panicking : after.panicking = before.panicking
  things : after.things.erase thing = before.things.erase thing
  certificates : hide number after.certificates = hide number before.certificates
  issued : before.issued ≤ after.issued

variable {thing : String} {number : Option Nat} {registry after : Registry} {call : Call}

theorem Keeps.refl (thing : String) (number : Option Nat) (registry : Registry) :
    registry.Keeps thing number registry :=
  ⟨rfl, rfl, rfl, rfl, rfl, rfl, rfl, Nat.le_refl _⟩

/-- A call that works on the own thing and the own certificate keeps all the rest. -/
theorem keeps_step {value : call.Answer} (sound : registry.IsSound)
    (own : (Errand.call call (.ok value)).IsOwn thing number)
    (works : registry.step call = .ok (value, after)) : registry.Keeps thing number after := by
  have kept := Keeps.refl thing number registry
  cases step_eq_ok_iff.mp works with
  | @thingMade other fresh =>
    obtain rfl : other = thing := own
    exact { kept with things := Table.erase_insert_self _ _ _ }
  | certificateMade =>
    obtain ⟨n, rfl, same⟩ := own
    rw [← certificateId_injective (congrArg Certificate.id same)]
    exact { kept with
      certificates := Table.erase_insert_self _ _ _
      issued := Nat.le_succ _ }
  | principalAttached registered | principalDetached registered =>
    obtain ⟨rfl, -⟩ := own
    exact { kept with things := Table.erase_update _ _ _ }
  | @groupJoined other group known registered =>
    obtain rfl : other = thing := own
    exact { kept with things := Table.erase_update _ _ _ }
  | policyAttached finds =>
    obtain ⟨n, rfl, rfl⟩ := own
    rw [sound.certificateWithArn?_eq finds]
    exact { kept with certificates := Table.erase_update _ _ _ }
  | certificateDeactivated registered =>
    obtain ⟨n, rfl, rfl⟩ := own
    exact { kept with certificates := Table.erase_update _ _ _ }
  | certificateDeleted registered inactive =>
    obtain ⟨n, rfl, rfl⟩ := own
    exact { kept with certificates := Table.erase_of_get?_eq_none (Table.get?_erase_self _ _) }
  | @thingDeleted other known registered bare =>
    obtain rfl : other = thing := own
    exact { kept with things := Table.erase_of_get?_eq_none (Table.get?_erase_self _ _) }
  | _ => exact kept

/-- **What an own call leaves alone**, however it comes out. -/
theorem keeps_answer (sound : registry.IsSound)
    (own : (Errand.call call (answer call registry).1).IsOwn thing number) :
    registry.Keeps thing number (answer call registry).2 := by
  have logged : registry.Keeps thing number (registry.logged call) :=
    { Keeps.refl thing number registry with }
  have known : (registry.logged call).IsSound := sound.of_same rfl rfl
  have handles := handles_answer registry call
  generalize (answer call registry).1 = reply, (answer call registry).2 = after
    at own handles ⊢
  cases handles with
  | done unbroken unfailing fulfils => exact { keeps_step known own fulfils.step_eq with }
  | _ => exact logged

end Registry

end DeviceTrial
