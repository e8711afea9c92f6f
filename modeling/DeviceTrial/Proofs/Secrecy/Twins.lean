/-
**Control planes that differ in their secrets.**

Two registries are *twins* when they have secrets under the same names, be it with other values, and
for the rest differ in the policies of their certificates and in their logs of calls alone. No call but
the reading of a secret depends on any of that, so twins answer every other call alike and are twins
after it.

* `Registry.Twins.step` — **the same call to twins**, when it reads no secret;
* `Registry.Twins.permitted`, `Registry.Twins.executed`, `Registry.Twins.told` — the calls whose
  arguments come from a secret, and the one that reads it;
* `Registry.Twins.served` — what becomes of calls to twins that come out alike.
-/

import DeviceTrial.Proofs.Plane.Serving

namespace DeviceTrial

namespace Table

universe u v

variable {κ : Type u} {ν ω : Type v} [DecidableEq κ] (change : ν → ω)

theorem get?_mapValues (table : Table κ ν) (key : κ) :
    (table.mapValues change).get? key = (table.get? key).map change := by
  show find? key (table.entries.map fun entry => (entry.1, change entry.2)) =
    (find? key table.entries).map change
  induction table.entries with
  | nil => rfl
  | cons entry rest step =>
    rw [List.map_cons, find?, find?, step]
    split <;> rfl

theorem mapValues_insert (table : Table κ ν) (key : κ) (value : ν) :
    (table.insert key value).mapValues change =
      (table.mapValues change).insert key (change value) := by
  refine Table.ext ?_
  show (put key value table.entries).map (fun entry => (entry.1, change entry.2)) =
    put key (change value) (table.entries.map fun entry => (entry.1, change entry.2))
  induction table.entries with
  | nil => rfl
  | cons entry rest step =>
    rw [List.map_cons, put, put]
    split
    · rfl
    · rw [List.map_cons, step]

theorem mapValues_erase (table : Table κ ν) (key : κ) :
    (table.erase key).mapValues change = (table.mapValues change).erase key := by
  refine Table.ext ?_
  show (drop key table.entries).map (fun entry => (entry.1, change entry.2)) =
    drop key (table.entries.map fun entry => (entry.1, change entry.2))
  rw [drop, drop, List.filter_map]
  rfl

variable {change}

/-- A change of a value is seen as the change that it makes to what is seen of the value. -/
theorem mapValues_update {inner : ν → ν} {outer : ω → ω}
    (seen : ∀ value, change (inner value) = outer (change value)) (table : Table κ ν) (key : κ) :
    (table.update key inner).mapValues change = (table.mapValues change).update key outer := by
  unfold update
  rw [get?_mapValues]
  cases table.get? key with
  | none => rfl
  | some value =>
    dsimp only [Option.map_some]
    rw [mapValues_insert, seen]

/-- Tables of which the same is seen have the same keys, with values of which the same is seen. -/
theorem get?_cases {table other : Table κ ν}
    (same : table.mapValues change = other.mapValues change) (key : κ) :
    (table.get? key = none ∧ other.get? key = none) ∨
      ∃ value also, table.get? key = some value ∧ other.get? key = some also ∧
        change value = change also := by
  have both : (table.get? key).map change = (other.get? key).map change := by
    rw [← get?_mapValues, ← get?_mapValues, same]
  cases here : table.get? key with
  | none =>
    rw [here] at both
    exact .inl ⟨rfl, Option.map_eq_none_iff.mp both.symm⟩
  | some value =>
    rw [here] at both
    obtain ⟨also, there, seen⟩ := Option.map_eq_some_iff.mp both.symm
    exact .inr ⟨value, also, rfl, there, seen.symm⟩

end Table

/-- That nothing comes in the way of any call. -/
def Meddling.IsAbsent (meddling : Meddling) : Prop :=
  ∀ operation interruption, ¬ meddling operation interruption

/-- A certificate without its policies. -/
def RegisteredCertificate.blotted (known : RegisteredCertificate) : RegisteredCertificate :=
  { known with policies := [] }

namespace Registry

/-- **That two registries differ in their secrets alone**: in the values of secrets, and in what comes of
them, the policies of certificates and the log of calls. -/
structure Twins (one two : Registry) : Prop where
  secrets : ∀ name, (one.secrets.get? name).isSome = (two.secrets.get? name).isSome
  things : one.things = two.things
  certificates : one.certificates.mapValues RegisteredCertificate.blotted =
    two.certificates.mapValues RegisteredCertificate.blotted
  jobs : one.jobs = two.jobs
  shadows : one.shadows = two.shadows
  issued : one.issued = two.issued

/-- That a call came out alike, and left twins. -/
inductive Agreed {α β : Type} (agree : α → β → Prop) :
    Except PlaneError (α × Registry) → Except PlaneError (β × Registry) → Prop where
  | done {value : α} {other : β} {one two : Registry} (agrees : agree value other)
      (twins : one.Twins two) : Agreed agree (.ok (value, one)) (.ok (other, two))
  | refused (fault : PlaneError) : Agreed agree (.error fault) (.error fault)

variable {one two : Registry}

section Agreement

variable {call other : Call} {agree : call.Answer → other.Answer → Prop}

theorem Agreed.of_fulfils {value : call.Answer} {answer : other.Answer} {left right : Registry}
    (here : one.Fulfils call value left) (there : two.Fulfils other answer right)
    (agrees : agree value answer) (twins : left.Twins right) :
    Agreed agree (one.step call) (two.step other) := by
  rw [here.step_eq, there.step_eq]
  exact .done agrees twins

theorem Agreed.of_denies {fault : PlaneError} (here : one.Denies call fault)
    (there : two.Denies other fault) : Agreed agree (one.step call) (two.step other) := by
  rw [here.step_eq, there.step_eq]
  exact .refused fault

end Agreement

section Step

variable (twins : one.Twins two)
include twins

theorem Twins.certificateWithArn? (arn : String) :
    one.certificateWithArn? arn = two.certificateWithArn? arn := by
  have seen : ∀ registry : Registry, registry.certificateWithArn? arn =
      ((registry.certificates.mapValues RegisteredCertificate.blotted).entries.find?
        fun entry => entry.2.arn == arn).map Prod.fst := by
    intro registry
    show _ = ((registry.certificates.entries.map _).find? _).map Prod.fst
    rw [List.find?_map, Option.map_map]
    rfl
  rw [seen, seen, twins.certificates]

/-- Things that change in both, and in the same way. -/
theorem Twins.with_things (change : Table String RegisteredThing → Table String RegisteredThing) :
    Twins { one with things := change one.things } { two with things := change two.things } :=
  { twins with things := congrArg change twins.things }

/-- Certificates that change in both, and in the same way but for their policies. -/
theorem Twins.updated {inner outer : RegisteredCertificate → RegisteredCertificate}
    (change : RegisteredCertificate → RegisteredCertificate)
    (here : ∀ known, (inner known).blotted = change known.blotted)
    (there : ∀ known, (outer known).blotted = change known.blotted) (certificate : String) :
    Twins { one with certificates := one.certificates.update certificate inner }
      { two with certificates := two.certificates.update certificate outer } := by
  refine { twins with certificates := ?_ }
  show (one.certificates.update certificate inner).mapValues _ =
    (two.certificates.update certificate outer).mapValues _
  rw [Table.mapValues_update here, Table.mapValues_update there, twins.certificates]

/-- A policy that is attached, or is not for the same reason, whichever it is. -/
theorem Twins.permitted (policy other target : String) :
    Agreed Eq (one.step (.attachPolicy policy target)) (two.step (.attachPolicy other target)) := by
  have same := twins.certificateWithArn? target
  cases found : one.certificateWithArn? target with
  | none =>
    have here : one.Denies (.attachPolicy policy target) _ := .targetMissing found
    have there : two.Denies (.attachPolicy other target) _ :=
      .targetMissing (same.symm.trans found)
    exact .of_denies here there
  | some certificate =>
    refine .of_fulfils (.policyAttached found) (.policyAttached (same.symm.trans found)) rfl
      (twins.updated id ?_ ?_ certificate)
    · exact fun _ => rfl
    · exact fun _ => rfl

/-- The execution of a job, whichever it is. -/
theorem Twins.executed (job other thing : String) :
    Agreed (fun _ _ => True) (one.step (.describeJob job thing))
      (two.step (.describeJob other thing)) :=
  .of_fulfils (.jobDescribed job thing) (.jobDescribed other thing) trivial twins

/-- A secret, which both have or have not. -/
theorem Twins.told (name : String) :
    Agreed (fun value other => one.secrets.get? name = some value ∧ two.secrets.get? name = some other)
      (one.step (.getSecret name)) (two.step (.getSecret name)) := by
  have names := twins.secrets name
  cases here : one.secrets.get? name with
  | none =>
    rw [here] at names
    have there := Option.isNone_iff_eq_none.mp (Option.isSome_eq_false_iff.mp names.symm)
    exact .of_denies (.secretMissing here) (.secretMissing there)
  | some value =>
    rw [here] at names
    obtain ⟨other, there⟩ := Option.isSome_iff_exists.mp names.symm
    exact .of_fulfils (.secretRead here) (.secretRead there) ⟨rfl, there⟩ twins

/-- A certificate is unknown to both. -/
theorem Twins.unknown {certificate : String} (unknown : one.certificates.get? certificate = none) :
    two.certificates.get? certificate = none := by
  rcases Table.get?_cases twins.certificates certificate with ⟨-, there⟩ | ⟨known, other, here, -, -⟩
  · exact there
  · cases unknown.symm.trans here

/-- A certificate is known to both, and active in both or in none. -/
theorem Twins.registered {certificate : String} {known : RegisteredCertificate}
    (registered : one.certificates.get? certificate = some known) :
    ∃ other, two.certificates.get? certificate = some other ∧ other.active = known.active := by
  rcases Table.get?_cases twins.certificates certificate with ⟨here, -⟩ | ⟨found, other, here, there, seen⟩
  · cases registered.symm.trans here
  · cases registered.symm.trans here
    exact ⟨other, there, (congrArg RegisteredCertificate.active seen).symm⟩

variable {call : Call} (reads : call.operation ≠ .getSecret)
include reads

/-- A call that does its work in the one does it in the other, with the same answer. -/
theorem Twins.fulfils {value : call.Answer} {after : Registry}
    (fulfils : one.Fulfils call value after) :
    ∃ other, two.Fulfils call value other ∧ after.Twins other := by
  have things := twins.things
  cases fulfils with
  | secretRead kept => exact absurd rfl reads
  | thingThere registered => exact ⟨_, .thingThere (things ▸ registered), twins⟩
  | @thingMade thing fresh =>
    exact ⟨_, .thingMade (things ▸ fresh), twins.with_things (·.insert thing .bare)⟩
  | certificateMade =>
    rw [twins.issued]
    refine ⟨_, .certificateMade, { twins with issued := rfl, certificates := ?_ }⟩
    rw [Table.mapValues_insert, Table.mapValues_insert, twins.certificates]
  | @principalAttached thing principal known registered =>
    exact ⟨_, .principalAttached (things ▸ registered), twins.with_things (·.update thing _)⟩
  | @policyAttached policy target certificate found =>
    have same := twins.certificateWithArn? target
    refine ⟨_, .policyAttached (same.symm.trans found), twins.updated id ?_ ?_ certificate⟩
    · exact fun _ => rfl
    · exact fun _ => rfl
  | @groupJoined thing group known registered =>
    exact ⟨_, .groupJoined (things ▸ registered), twins.with_things (·.update thing _)⟩
  | thingDescribed registered => exact ⟨_, .thingDescribed (things ▸ registered), twins⟩
  | principalsListed registered => exact ⟨_, .principalsListed (things ▸ registered), twins⟩
  | @principalDetached thing principal known registered =>
    exact ⟨_, .principalDetached (things ▸ registered), twins.with_things (·.update thing _)⟩
  | @certificateDeactivated certificate known registered =>
    obtain ⟨other, there, -⟩ := twins.registered registered
    refine ⟨_, .certificateDeactivated there,
      twins.updated (fun known => { known with active := false }) ?_ ?_ certificate⟩
    · exact fun _ => rfl
    · exact fun _ => rfl
  | certificateDeleted registered inactive =>
    obtain ⟨other, there, active⟩ := twins.registered registered
    refine ⟨_, .certificateDeleted there (active.trans inactive), { twins with certificates := ?_ }⟩
    rw [Table.mapValues_erase, Table.mapValues_erase, twins.certificates]
  | @thingDeleted thing known registered bare =>
    exact ⟨_, .thingDeleted (things ▸ registered) bare, twins.with_things (·.erase thing)⟩
  | jobDescribed job thing =>
    rw [twins.jobs]
    exact ⟨_, .jobDescribed job thing, twins⟩
  | shadowFetched kept => exact ⟨_, .shadowFetched (twins.shadows ▸ kept), twins⟩

/-- A call that the one denies is denied by the other, for the same reason. -/
theorem Twins.denies {fault : PlaneError} (denies : one.Denies call fault) :
    two.Denies call fault := by
  have things := twins.things
  cases denies with
  | secretMissing unknown => exact absurd rfl reads
  | thingMissing needed unknown => exact .thingMissing needed (things ▸ unknown)
  | @targetMissing policy target unknown =>
    exact .targetMissing ((twins.certificateWithArn? target).symm.trans unknown)
  | certificateMissing needed unknown =>
    exact .certificateMissing needed (twins.unknown unknown)
  | stillActive registered active =>
    obtain ⟨other, there, same⟩ := twins.registered registered
    exact .stillActive there (same.trans active)
  | stillAttached registered held => exact .stillAttached (things ▸ registered) held
  | shadowMissing unknown => exact .shadowMissing (twins.shadows ▸ unknown)

/-- **No call but the reading of a secret tells twins apart.** -/
theorem Twins.step : Agreed Eq (one.step call) (two.step call) := by
  rcases fulfils_or_denies one call with ⟨_, _, here⟩ | ⟨_, here⟩
  · obtain ⟨_, there, after⟩ := twins.fulfils reads here
    exact .of_fulfils here there rfl after
  · exact .of_denies here (twins.denies reads here)

end Step

/-- No call changes a secret. -/
theorem step_secrets {registry after : Registry} {call : Call} {value : call.Answer}
    (works : registry.step call = .ok (value, after)) : after.secrets = registry.secrets := by
  cases step_eq_ok_iff.mp works <;> rfl

/-- How a call to twins that comes out alike is answered, when nothing comes in its way. -/
inductive Answers {α β : Type} (agree : α → β → Prop) : Reply α → Reply β → Prop where
  | ok {value : α} {other : β} (agrees : agree value other) : Answers agree (.ok value) (.ok other)
  | error (fault : PlaneError) : Answers agree (.error fault) (.error fault)

theorem Answers.eq {α : Type} {reply answer : Reply α} (answers : Answers Eq reply answer) :
    reply = answer := by
  cases answers with
  | ok agrees => exact congrArg Reply.ok agrees
  | error fault => rfl

/-- **A call to twins that comes out alike** is answered alike and leaves twins. -/
theorem Twins.served {meddling meddlingToo : Meddling} {here there : Registry} {call other : Call}
    {reply : Reply call.Answer} {answer : Reply other.Answer} {agree : call.Answer → other.Answer → Prop}
    (twins : one.Twins two) (agreed : Agreed agree (one.step call) (two.step other))
    (absent : meddling.IsAbsent) (absentToo : meddlingToo.IsAbsent)
    (serves : Serves meddling one call reply here) (also : Serves meddlingToo two other answer there) :
    Answers agree reply answer ∧ here.Twins there ∧ here.secrets = one.secrets ∧
      there.secrets = two.secrets := by
  cases serves with
  | done works =>
    rw [works] at agreed
    cases also with
    | done worksToo =>
      rw [worksToo] at agreed
      cases agreed with
      | done agrees left => exact ⟨.ok agrees, left, step_secrets works, step_secrets worksToo⟩
    | refused refuses => rw [refuses] at agreed; cases agreed
    | meddled meddles => exact absurd meddles (absentToo _ _)
  | refused refuses =>
    rw [refuses] at agreed
    cases also with
    | done works => rw [works] at agreed; cases agreed
    | refused refusesToo =>
      rw [refusesToo] at agreed
      cases agreed
      exact ⟨.error _, twins, rfl, rfl⟩
    | meddled meddles => exact absurd meddles (absentToo _ _)
  | meddled meddles => exact absurd meddles (absent _ _)

end Registry

end DeviceTrial
