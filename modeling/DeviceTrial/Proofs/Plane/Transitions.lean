/-
**What a registry goes through.**

A registry is seeded and then called. A call that does its work makes one of seven changes, and every
other call leaves its entry in the log and nothing else. So what is true of a registry after any number
of calls follows from what each of the changes keeps.

* `changes_of_step` — what a call that does its work can change;
* `lawful_answer` — **one call**: it is logged, it changes nothing else when it does not succeed, and
  only the deletion of an inactive certificate or of a thing without principals takes either away;
* `declines_answer`, `declines_afterCalls` — a certificate is made active once;
* `issuedIds_eq` — the identifiers of the certificates are those of consecutive numbers;
* `lawful_of_seeded` — **any calls** of any registry that was seeded.
-/

import DeviceTrial.Proofs.Plane.Soundness
import DeviceTrial.Proofs.Run.Errand
import Mathlib.Data.List.Nodup

namespace DeviceTrial

namespace Registry

variable {registry after : Registry} {call : Call}

/-! ### Seeding -/

/-- One step of seeding a registry. -/
inductive Seeding where
  /-- Adds a secret. -/
  | secret (name value : String)
  /-- Adds a thing without principals. -/
  | thing (name : String)
  /-- Adds a job execution. -/
  | job (job thing : String) (execution : JobExecution)
  /-- Adds a shadow. -/
  | shadow (thing : String) (name : Option String) (payload : ByteArray)
  /-- Makes an operation fail. -/
  | failing (operation : Operation)
  /-- Makes an operation break down. -/
  | panicking (operation : Operation)

/-- Carries out a step of seeding. -/
def seed (registry : Registry) : Seeding → Registry
  | .secret name value => registry.withSecret name value
  | .thing name => registry.withThing name
  | .job job thing execution => registry.withJob job thing execution
  | .shadow thing name payload => registry.withShadow thing name payload
  | .failing operation => registry.failingOn operation
  | .panicking operation => registry.panickingOn operation

/-- The registry that is seeded step by step. -/
def seeded (seeds : List Seeding) : Registry := seeds.foldl seed empty

/-- The registry after calls. -/
def afterCalls (calls : List Call) (registry : Registry) : Registry :=
  calls.foldl (fun known call => (answer call known).2) registry

theorem Reachable.seed (reachable : Reachable registry) (seeding : Seeding) :
    Reachable (registry.seed seeding) := by
  cases seeding with
  | secret name value => exact .secret reachable name value
  | thing name => exact .thing reachable name
  | job job thing execution => exact .job reachable job thing execution
  | shadow thing name payload => exact .shadow reachable thing name payload
  | failing operation => exact .failing reachable operation
  | panicking operation => exact .panicking reachable operation

theorem reachable_seeded (seeds : List Seeding) : Reachable (seeded seeds) := by
  have onward : ∀ (seeds : List Seeding) {registry : Registry}, Reachable registry →
      Reachable (seeds.foldl Registry.seed registry) := by
    intro seeds
    induction seeds with
    | nil => exact fun reachable => reachable
    | cons seeding seeds step => exact fun reachable => step (reachable.seed seeding)
  exact onward seeds .empty

theorem Reachable.afterCalls (reachable : Reachable registry) (calls : List Call) :
    Reachable (registry.afterCalls calls) := by
  induction calls generalizing registry with
  | nil => exact reachable
  | cons call calls step => exact step (.called reachable call)

/-! ### What a call changes -/

/-- What a call that does its work changes. -/
inductive Changes (registry : Registry) : Call → Registry → Prop where
  /-- Nothing. -/
  | nothing (call : Call) : Changes registry call registry
  /-- A thing is registered. -/
  | thingMade {thing : String} (fresh : registry.things.get? thing = none) :
    Changes registry (.createThing thing)
      { registry with things := registry.things.insert thing .bare }
  /-- A thing is changed in a way that repeats none of its principals. -/
  | thingChanged (call : Call) (thing : String) {change : RegisteredThing → RegisteredThing}
      (single : ∀ known, known.principals.Nodup → (change known).principals.Nodup) :
    Changes registry call { registry with things := registry.things.update thing change }
  /-- A thing without principals is deleted. -/
  | thingDeleted {thing : String} {known : RegisteredThing}
      (registered : registry.things.get? thing = some known) (bare : known.principals = []) :
    Changes registry (.deleteThing thing) { registry with things := registry.things.erase thing }
  /-- A certificate is issued under the next number. -/
  | issued : Changes registry .createCertificate
      { registry with
        issued := registry.issued + 1
        certificates := registry.certificates.insert (certificateId (registry.issued + 1))
          ⟨arnOf (certificateId (registry.issued + 1)), true, []⟩ }
  /-- A certificate is changed in a way that does not make it active. -/
  | certificateChanged (call : Call) (id : String)
      {change : RegisteredCertificate → RegisteredCertificate}
      (falls : ∀ known, known.active = false → (change known).active = false) :
    Changes registry call
      { registry with certificates := registry.certificates.update id change }
  /-- An inactive certificate is deleted. -/
  | certificateDeleted {id : String} {known : RegisteredCertificate}
      (registered : registry.certificates.get? id = some known) (inactive : known.active = false) :
    Changes registry (.deleteCertificate id)
      { registry with certificates := registry.certificates.erase id }

theorem nodup_includeText (item : String) {texts : List String} (distinct : texts.Nodup) :
    (includeText item texts).Nodup := by
  unfold includeText
  split
  · exact distinct
  · rename_i fresh
    exact List.nodup_append.mpr ⟨distinct, List.nodup_singleton item, fun other inside _ same =>
      fun equal => fresh (List.mem_singleton.mp same ▸ equal ▸ inside)⟩

/-- **What a call that does its work changes**, and it changes nothing else. -/
theorem changes_of_step {value : call.Answer} (works : registry.step call = .ok (value, after)) :
    Changes registry call after := by
  cases step_eq_ok_iff.mp works with
  | thingMade fresh => exact .thingMade fresh
  | certificateMade => exact .issued
  | @principalAttached _ principal =>
    exact .thingChanged _ _ fun _ distinct => nodup_includeText principal distinct
  | groupJoined => exact .thingChanged _ _ fun _ distinct => distinct
  | principalDetached => exact .thingChanged _ _ fun _ distinct => distinct.filter _
  | policyAttached => exact .certificateChanged _ _ fun _ inactive => inactive
  | certificateDeactivated => exact .certificateChanged _ _ fun _ _ => rfl
  | certificateDeleted registered inactive => exact .certificateDeleted registered inactive
  | thingDeleted registered bare => exact .thingDeleted registered bare
  | _ => exact .nothing _

/-- A call does its work, or is logged and that is all. -/
theorem answer_cases (registry : Registry) (call : Call) :
    (answer call registry).1.IsOk ∧
        Changes (registry.logged call) call (answer call registry).2 ∨
      ¬ (answer call registry).1.IsOk ∧ (answer call registry).2 = registry.logged call := by
  have handles := handles_answer registry call
  generalize (answer call registry).1 = reply, (answer call registry).2 = after at handles ⊢
  cases handles with
  | done unbroken unfailing fulfils => exact .inl ⟨⟨_, rfl⟩, changes_of_step fulfils.step_eq⟩
  | _ => exact .inr ⟨nofun, rfl⟩

/-! ### One call -/

/-- What is true of one call. -/
structure Lawful (registry : Registry) (call : Call) : Prop where
  /-- It adds exactly one entry to the log. -/
  logged : (answer call registry).2.calls = registry.calls ++ [(call.operation, call.target)]
  /-- When it fails or breaks down it changes nothing else. -/
  atomic : ¬ (answer call registry).1.IsOk → (answer call registry).2 = registry.logged call
  /-- A certificate only goes by its own deletion, and it is inactive then. -/
  certificateGone : ∀ id known, registry.certificates.get? id = some known →
    (answer call registry).2.certificates.get? id = none →
    call = .deleteCertificate id ∧ (answer call registry).1.IsOk ∧ known.active = false
  /-- A thing only goes by its own deletion, and it has no principals then. -/
  thingGone : ∀ thing known, registry.things.get? thing = some known →
    (answer call registry).2.things.get? thing = none →
    call = .deleteThing thing ∧ (answer call registry).1.IsOk ∧ known.principals = []

/-- A change under which a certificate goes. -/
theorem Changes.certificateGone (changes : Changes registry call after) {id : String}
    {known : RegisteredCertificate} (registered : registry.certificates.get? id = some known)
    (gone : after.certificates.get? id = none) :
    call = .deleteCertificate id ∧ known.active = false := by
  cases changes with
  | issued =>
    rw [Table.get?_insert] at gone
    split at gone
    · cases gone
    · cases registered.symm.trans gone
  | certificateChanged call other falls =>
    rw [Table.get?_update] at gone
    split at gone
    · rename_i same
      rw [← same, registered] at gone
      cases gone
    · cases registered.symm.trans gone
  | @certificateDeleted other was found inactive =>
    rw [Table.get?_erase] at gone
    split at gone
    · rename_i same
      subst same
      cases registered.symm.trans found
      exact ⟨rfl, inactive⟩
    · cases registered.symm.trans gone
  | _ => cases registered.symm.trans gone

/-- A change under which a thing goes. -/
theorem Changes.thingGone (changes : Changes registry call after) {thing : String}
    {known : RegisteredThing} (registered : registry.things.get? thing = some known)
    (gone : after.things.get? thing = none) :
    call = .deleteThing thing ∧ known.principals = [] := by
  cases changes with
  | thingMade fresh =>
    rw [Table.get?_insert] at gone
    split at gone
    · cases gone
    · cases registered.symm.trans gone
  | thingChanged call other single =>
    rw [Table.get?_update] at gone
    split at gone
    · rename_i same
      rw [← same, registered] at gone
      cases gone
    · cases registered.symm.trans gone
  | @thingDeleted other was found bare =>
    rw [Table.get?_erase] at gone
    split at gone
    · rename_i same
      subst same
      cases registered.symm.trans found
      exact ⟨rfl, bare⟩
    · cases registered.symm.trans gone
  | _ => cases registered.symm.trans gone

/-- **One call.** -/
theorem lawful_answer (registry : Registry) (call : Call) : Lawful registry call where
  logged := answer_calls registry call
  atomic failed := answer_of_not_ok fun value same => failed ⟨value, same⟩
  certificateGone id known registered gone := by
    rcases answer_cases registry call with ⟨succeeds, changes⟩ | ⟨-, same⟩
    · obtain ⟨deletes, inactive⟩ := changes.certificateGone registered gone
      exact ⟨deletes, succeeds, inactive⟩
    · rw [same] at gone
      cases registered.symm.trans gone
  thingGone thing known registered gone := by
    rcases answer_cases registry call with ⟨succeeds, changes⟩ | ⟨-, same⟩
    · obtain ⟨deletes, bare⟩ := changes.thingGone registered gone
      exact ⟨deletes, succeeds, bare⟩
    · rw [same] at gone
      cases registered.symm.trans gone

/-! ### Certificates from one call to the next -/

/-- That a certificate is still what it was, or less: it may have gone or become inactive, but neither
come back nor become active again. -/
def Declines (earlier later : Option RegisteredCertificate) : Prop :=
  ∀ known, later = some known →
    ∃ old, earlier = some old ∧ (old.active = false → known.active = false)

theorem Declines.refl (certificate : Option RegisteredCertificate) :
    Declines certificate certificate :=
  fun known same => ⟨known, same, id⟩

theorem Declines.trans {first second third : Option RegisteredCertificate}
    (early : Declines first second) (late : Declines second third) : Declines first third := by
  intro known same
  obtain ⟨middle, before, falls⟩ := late known same
  obtain ⟨old, start, fell⟩ := early middle before
  exact ⟨old, start, fun inactive => falls (fell inactive)⟩

/-- A change to a certificate with a number that was given out. -/
theorem Changes.declines (changes : Changes registry call after) {n : Nat}
    (given : n ≤ registry.issued) :
    Declines (registry.certificates.get? (certificateId n))
      (after.certificates.get? (certificateId n)) := by
  cases changes with
  | issued =>
    -- The new certificate has a number that was not given out before.
    have other : certificateId n ≠ certificateId (registry.issued + 1) := by
      intro same
      have number := certificateId_injective same
      omega
    rw [Table.get?_insert, if_neg other]
    exact .refl _
  | certificateChanged call id falls =>
    rw [Table.get?_update]
    split
    · rename_i same
      rw [same]
      intro known changed
      obtain ⟨old, was, rfl⟩ := Option.map_eq_some_iff.mp changed
      exact ⟨old, was, falls old⟩
    · exact .refl _
  | certificateDeleted registered inactive =>
    rw [Table.get?_erase]
    split
    · intro known gone
      cases gone
    · exact .refl _
  | _ => exact .refl _

theorem Changes.issued_le (changes : Changes registry call after) :
    registry.issued ≤ after.issued := by
  cases changes with
  | issued => exact Nat.le_succ _
  | _ => exact Nat.le_refl _

theorem issued_le_answer (registry : Registry) (call : Call) :
    registry.issued ≤ (answer call registry).2.issued := by
  rcases answer_cases registry call with ⟨-, changes⟩ | ⟨-, same⟩
  · exact changes.issued_le
  · rw [same]
    exact Nat.le_refl _

/-- **One call** brings no certificate back and makes none active again. -/
theorem declines_answer (call : Call) {n : Nat} (given : n ≤ registry.issued) :
    Declines (registry.certificates.get? (certificateId n))
      ((answer call registry).2.certificates.get? (certificateId n)) := by
  rcases answer_cases registry call with ⟨-, changes⟩ | ⟨-, same⟩
  · exact changes.declines given
  · rw [same]
    exact .refl _

/-- **Any calls** bring no certificate back and make none active again. -/
theorem declines_afterCalls (calls : List Call) {n : Nat} (given : n ≤ registry.issued) :
    Declines (registry.certificates.get? (certificateId n))
      ((registry.afterCalls calls).certificates.get? (certificateId n)) := by
  induction calls generalizing registry with
  | nil => exact .refl _
  | cons call calls step =>
    exact (declines_answer call given).trans
      (step (Nat.le_trans given (issued_le_answer registry call)))

/-! ### Identifiers -/

/-- The identifier of the certificate that a call has made. -/
def madeId? : (call : Call) → Reply call.Answer → Option String
  | .createCertificate, .ok certificate => some certificate.id
  | _, _ => none

/-- The identifiers of the certificates that calls make, in order. -/
def issuedIds : List Call → Registry → List String
  | [], _ => []
  | call :: rest, registry =>
    (madeId? call (answer call registry).1).toList ++ issuedIds rest (answer call registry).2

/-- A call makes the certificate of the next number, or none. -/
theorem madeId?_cases (registry : Registry) (call : Call) :
    madeId? call (answer call registry).1 = some (certificateId (registry.issued + 1)) ∧
        (answer call registry).2.issued = registry.issued + 1 ∨
      madeId? call (answer call registry).1 = none ∧
        (answer call registry).2.issued = registry.issued := by
  cases call with
  | createCertificate =>
    have handles := handles_answer registry .createCertificate
    generalize (answer .createCertificate registry).1 = reply,
      (answer .createCertificate registry).2 = after at handles ⊢
    cases handles with
    | done unbroken unfailing fulfils =>
      cases fulfils
      exact .inl ⟨rfl, rfl⟩
    | _ => exact .inr ⟨rfl, rfl⟩
  | _ =>
    refine .inr ⟨rfl, ?_⟩
    rcases answer_cases registry _ with ⟨-, changes⟩ | ⟨-, same⟩
    · generalize (answer _ registry).2 = after at changes
      cases changes <;> rfl
    · rw [same]
      rfl

theorem issued_le_afterCalls (registry : Registry) (calls : List Call) :
    registry.issued ≤ (registry.afterCalls calls).issued := by
  induction calls generalizing registry with
  | nil => exact Nat.le_refl _
  | cons call calls step => exact Nat.le_trans (issued_le_answer registry call) (step _)

/-- **The identifiers are those of consecutive numbers**, from the next one on. -/
theorem issuedIds_eq (registry : Registry) (calls : List Call) :
    issuedIds calls registry =
      (List.range' (registry.issued + 1)
        ((registry.afterCalls calls).issued - registry.issued)).map certificateId := by
  induction calls generalizing registry with
  | nil => simp [issuedIds, afterCalls]
  | cons call calls step =>
    have grows := issued_le_afterCalls (answer call registry).2 calls
    rw [issuedIds, step,
      show registry.afterCalls (call :: calls) = (answer call registry).2.afterCalls calls from rfl]
    rcases madeId?_cases registry call with ⟨made, next⟩ | ⟨none, same⟩
    · rw [next] at grows
      obtain ⟨more, last⟩ := Nat.exists_eq_add_of_le grows
      rw [made, next, last, show registry.issued + 1 + more - registry.issued = more + 1 by omega,
        Nat.add_sub_cancel_left, List.range'_succ]
      rfl
    · rw [none, same]
      rfl

theorem nodup_issuedIds (registry : Registry) (calls : List Call) :
    (issuedIds calls registry).Nodup := by
  rw [issuedIds_eq]
  exact (List.nodup_map_iff certificateId_injective).mpr List.nodup_range'

/-- An identifier that calls have issued is that of a number which was given out. -/
theorem exists_number_of_issued {calls : List Call} {id : String}
    (made : id ∈ issuedIds calls registry) :
    ∃ n ≤ (registry.afterCalls calls).issued, id = certificateId n := by
  rw [issuedIds_eq] at made
  obtain ⟨n, inside, rfl⟩ := List.mem_map.mp made
  have bounds := List.mem_range'_1.mp inside
  exact ⟨n, by omega, rfl⟩

/-! ### Principals -/

/-- That no principal is listed twice on a thing. -/
def IsUnrepeated (registry : Registry) : Prop :=
  ∀ {thing known}, registry.things.get? thing = some known → known.principals.Nodup

theorem Changes.unrepeated (changes : Changes registry call after)
    (single : registry.IsUnrepeated) : after.IsUnrepeated := by
  intro thing known found
  cases changes with
  | thingMade fresh =>
    rw [Table.get?_insert] at found
    split at found
    · cases found
      exact List.nodup_nil
    · exact single found
  | thingChanged call other keeps =>
    rw [Table.get?_update] at found
    split at found
    · obtain ⟨old, was, rfl⟩ := Option.map_eq_some_iff.mp found
      exact keeps old (single was)
    · exact single found
  | thingDeleted registered bare =>
    rw [Table.get?_erase] at found
    split at found
    · cases found
    · exact single found
  | _ => exact single found

/-- **No principal is listed twice** in a registry that can come about. -/
theorem isUnrepeated_of_reachable (reachable : Reachable registry) : registry.IsUnrepeated := by
  induction reachable with
  | empty => exact nofun
  | @thing registry before name single =>
    intro thing known found
    rw [withThing, Table.get?_insert] at found
    split at found
    · cases found
      exact List.nodup_nil
    · exact single found
  | @called registry before call single =>
    rcases answer_cases registry call with ⟨-, changes⟩ | ⟨-, same⟩
    · exact changes.unrepeated single
    · rw [same]
      exact single
  | secret before name value single => exact single
  | job before job thing execution single => exact single
  | shadow before thing name payload single => exact single
  | failing before operation single => exact single
  | panicking before operation single => exact single

/-! ### Any calls -/

/-- **A seeded registry after any calls**:

* the next call, whatever it is, is lawful;
* every certificate stands under the identifier that its resource name carries;
* no identifier was issued twice;
* no principal is listed twice on a thing;
* a certificate that is inactive never becomes active again, whatever calls follow;
* a certificate that has gone never comes back. -/
theorem lawful_of_seeded (seeds : List Seeding) (calls : List Call) :
    let registry := (seeded seeds).afterCalls calls
    (∀ call, registry.Lawful call) ∧
      (∀ id certificate, registry.certificates.get? id = some certificate →
        certificateOf? certificate.arn = some id) ∧
      (issuedIds calls (seeded seeds)).Nodup ∧
      (∀ thing known, registry.things.get? thing = some known → known.principals.Nodup) ∧
      (∀ id certificate, registry.certificates.get? id = some certificate →
        certificate.active = false → ∀ later other,
          (registry.afterCalls later).certificates.get? id = some other → other.active = false) ∧
      ∀ id ∈ issuedIds calls (seeded seeds), registry.certificates.get? id = none → ∀ later,
        (registry.afterCalls later).certificates.get? id = none := by
  intro registry
  have reachable : Reachable registry := (reachable_seeded seeds).afterCalls calls
  have sound := isSound_of_reachable reachable
  refine ⟨lawful_answer registry, ?_, nodup_issuedIds _ calls,
    fun _ _ => isUnrepeated_of_reachable reachable, ?_, ?_⟩
  · intro id certificate registered
    obtain ⟨n, -, rfl⟩ := sound.numbered registered
    rw [sound.arn registered]
    exact certificateOf?_arnOf (isEmpty_certificateId n)
  · intro id certificate registered inactive later other found
    obtain ⟨n, given, rfl⟩ := sound.numbered registered
    obtain ⟨old, was, falls⟩ := declines_afterCalls later given other found
    cases registered.symm.trans was
    exact falls inactive
  · intro id made gone later
    obtain ⟨n, given, rfl⟩ := exists_number_of_issued made
    cases found : (registry.afterCalls later).certificates.get? (certificateId n) with
    | none => rfl
    | some other =>
      obtain ⟨old, was, -⟩ := declines_afterCalls later given other found
      cases gone.symm.trans was

end Registry

end DeviceTrial
