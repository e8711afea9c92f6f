/-
**What taking an identity away leaves behind.**

`Registry.dismantled` is the registry without a thing and without the certificates that its
principals name. A removal that reports no fault leaves exactly that, as long as nobody makes the
control plane say that something does not exist which does; and when nothing comes in its way, it
reports no fault.

* `Removes.serves` — one principal that was removed;
* `Dismantles.serves` — **a removal without faults leaves nothing of the identity**;
* `Dismantles.undisturbed` — a removal in whose way nothing comes has no faults.
-/

import DeviceTrial.Proofs.Identity.Removing
import DeviceTrial.Proofs.Plane.Serving

namespace DeviceTrial

/-- That no operation which takes away is made to say that something does not exist. -/
def Meddling.IsHonest (meddling : Meddling) : Prop :=
  ∀ operation fault, meddling operation (.fault fault) → operation.isTeardown = true →
    fault.isNotFound = false

/-- That nothing comes in the way of what takes away. -/
def Meddling.IsCalm (meddling : Meddling) : Prop :=
  ∀ operation interruption, meddling operation interruption → operation.isTeardown = false

theorem Meddling.IsCalm.honest {meddling : Meddling} (calm : meddling.IsCalm) :
    meddling.IsHonest := by
  intro operation fault meddles takes
  rw [calm operation _ meddles] at takes
  cases takes

namespace Registry

/-- Forgets the certificate that a principal names. -/
def forget (certificates : Table String RegisteredCertificate) (principal : String) :
    Table String RegisteredCertificate :=
  match certificateOf? principal with
  | none => certificates
  | some certificate => certificates.erase certificate

/-- The principals of a thing. -/
def principalsOf (registry : Registry) (thing : String) : List String :=
  ((registry.things.get? thing).map (·.principals)).getD []

/-- The registry without one principal of a thing. -/
def without (thing : String) (registry : Registry) (principal : String) : Registry :=
  { registry with
    things := registry.things.update thing fun known =>
      { known with principals := known.principals.filter fun other => other ≠ principal }
    certificates := forget registry.certificates principal }

/-- The registry without a thing and without the certificates that its principals name. -/
def dismantled (registry : Registry) (thing : String) : Registry :=
  { registry with
    things := registry.things.erase thing
    certificates := (registry.principalsOf thing).foldl forget registry.certificates }

theorem get?_forget {certificates : Table String RegisteredCertificate} {certificate : String}
    (gone : certificates.get? certificate = none) (principal : String) :
    (forget certificates principal).get? certificate = none := by
  unfold forget
  split
  · exact gone
  · rw [Table.get?_erase, gone, ite_self]

/-- Whatever a principal names is forgotten with the principals. -/
theorem get?_foldl_forget {principals : List String} {principal certificate : String}
    (listed : principal ∈ principals) (names : certificateOf? principal = some certificate)
    (certificates : Table String RegisteredCertificate) :
    (principals.foldl forget certificates).get? certificate = none := by
  -- what was forgotten stays so
  have stays : ∀ (others : List String) {left : Table String RegisteredCertificate},
      left.get? certificate = none → (others.foldl forget left).get? certificate = none := by
    intro others
    induction others with
    | nil => exact id
    | cons other others step => exact fun gone => step (get?_forget gone other)
  induction principals generalizing certificates with
  | nil => nomatch listed
  | cons first others step =>
    rcases List.mem_cons.mp listed with rfl | listed
    · refine stays others ?_
      rw [forget, names, Table.get?_erase, if_pos rfl]
    · exact step listed _

/-- No certificate is left that a principal of the thing names. -/
theorem get?_dismantled {registry : Registry} {thing principal certificate : String}
    (attached : principal ∈ registry.principalsOf thing)
    (names : certificateOf? principal = some certificate) :
    (registry.dismantled thing).certificates.get? certificate = none :=
  get?_foldl_forget attached names registry.certificates

/-! ### Single calls -/

section Calls

variable {meddling : Meddling} {registry after : Registry} {call : Call}
  {reply : Reply call.Answer}

/-- Where nothing is left, the call did its work, or there was nothing to be done. -/
theorem Serves.of_gone (serves : Serves meddling registry call reply after)
    (honest : meddling.IsHonest) (takes : call.operation.isTeardown = true)
    (gone : reply.IsGone) :
    (∃ value, reply = .ok value ∧ registry.Fulfils call value after) ∨
      after = registry ∧ ∃ fault, reply = .error fault ∧ registry.Denies call fault ∧
        fault.isNotFound = true := by
  cases serves with
  | done works => exact .inl ⟨_, rfl, step_eq_ok_iff.mp works⟩
  | refused refuses =>
    obtain ⟨_, same⟩ | ⟨fault, same, missing⟩ := gone
    · cases same
    · cases same
      exact .inr ⟨rfl, _, rfl, step_eq_error_iff.mp refuses, missing⟩
  | @meddled interruption meddles =>
    obtain ⟨_, same⟩ | ⟨fault, same, missing⟩ := gone
    · cases interruption <;> cases same
    · cases interruption with
      | fault problem =>
        cases same
        rw [honest _ _ meddles takes] at missing
        cases missing
      | panic message => cases same
      | hang => cases same

/-- Where nothing comes in the way, a call does its work or is refused. -/
theorem Serves.of_calm (serves : Serves meddling registry call reply after)
    (calm : meddling.IsCalm) (takes : call.operation.isTeardown = true) :
    (∃ value, reply = .ok value ∧ registry.Fulfils call value after) ∨
      after = registry ∧ ∃ fault, reply = .error fault ∧ registry.Denies call fault := by
  cases serves with
  | done works => exact .inl ⟨_, rfl, step_eq_ok_iff.mp works⟩
  | refused refuses => exact .inr ⟨rfl, _, rfl, step_eq_error_iff.mp refuses⟩
  | meddled meddles =>
    rw [calm _ _ meddles] at takes
    cases takes

/-- A call in whose way nothing comes, and which is refused only for what is missing. -/
theorem Serves.gone_of_calm (serves : Serves meddling registry call reply after)
    (calm : meddling.IsCalm) (takes : call.operation.isTeardown = true)
    (missing : ∀ fault, registry.Denies call fault → fault.isNotFound = true) :
    reply.IsGone := by
  obtain ⟨value, rfl, -⟩ | ⟨-, fault, rfl, denies⟩ := serves.of_calm calm takes
  · exact .inl ⟨value, rfl⟩
  · exact .inr ⟨fault, rfl, missing fault denies⟩

end Calls

variable {meddling : Meddling} {registry after : Registry} {thing principal certificate : String}
  {reply : Reply Unit}

/-- A list of principals is that of the thing. -/
theorem Serves.listed {principals : List String}
    (serves : Serves meddling registry (.listPrincipals thing) (.ok principals) after) :
    after = registry ∧ registry.principalsOf thing = principals ∧
      ∃ known, registry.things.get? thing = some known := by
  cases serves.fulfils with
  | @principalsListed _ known found => exact ⟨rfl, by rw [principalsOf, found]; rfl, known, found⟩

theorem Serves.detached
    (serves : Serves meddling registry (.detachPrincipal thing principal) reply after)
    (honest : meddling.IsHonest) (gone : reply.IsGone) :
    after = { registry with
      things := registry.things.update thing fun known =>
        { known with principals := known.principals.filter fun other => other ≠ principal } } := by
  obtain ⟨_, -, fulfils⟩ | ⟨rfl, _, -, denies, missing⟩ := serves.of_gone honest rfl gone
  · cases fulfils
    rfl
  · rw [Table.update_of_get?_eq_none (denies.unknownThing rfl missing).2]

theorem Serves.deactivated
    (serves : Serves meddling registry (.deactivateCertificate certificate) reply after)
    (honest : meddling.IsHonest) (gone : reply.IsGone) :
    after = { registry with
      certificates := registry.certificates.update certificate fun known =>
        { known with active := false } } := by
  obtain ⟨_, -, fulfils⟩ | ⟨rfl, _, -, denies, missing⟩ := serves.of_gone honest rfl gone
  · cases fulfils
    rfl
  · rw [Table.update_of_get?_eq_none (denies.unknownCertificate rfl missing)]

theorem Serves.deleted
    (serves : Serves meddling registry (.deleteCertificate certificate) reply after)
    (honest : meddling.IsHonest) (gone : reply.IsGone) :
    after = { registry with certificates := registry.certificates.erase certificate } := by
  obtain ⟨_, -, fulfils⟩ | ⟨rfl, _, -, denies, missing⟩ := serves.of_gone honest rfl gone
  · cases fulfils
    rfl
  · rw [Table.erase_of_get?_eq_none (denies.unknownCertificate rfl missing)]

theorem Serves.thingDeleted (serves : Serves meddling registry (.deleteThing thing) reply after)
    (honest : meddling.IsHonest) (gone : reply.IsGone) :
    after = { registry with things := registry.things.erase thing } := by
  obtain ⟨_, -, fulfils⟩ | ⟨rfl, _, -, denies, missing⟩ := serves.of_gone honest rfl gone
  · cases fulfils
    rfl
  · rw [Table.erase_of_get?_eq_none (denies.unknownThing rfl missing).2]

/-! ### Nothing comes in the way -/

theorem Serves.lists {reply : Reply (List String)}
    (serves : Serves meddling registry (.listPrincipals thing) reply after)
    (calm : meddling.IsCalm) : reply.IsGone :=
  serves.gone_of_calm calm rfl fun _ denies => denies.isNotFound nofun nofun

theorem Serves.detaches
    (serves : Serves meddling registry (.detachPrincipal thing principal) reply after)
    (calm : meddling.IsCalm) : reply.IsGone :=
  serves.gone_of_calm calm rfl fun _ denies => denies.isNotFound nofun nofun

theorem Serves.deactivates
    (serves : Serves meddling registry (.deactivateCertificate certificate) reply after)
    (calm : meddling.IsCalm) : reply.IsGone :=
  serves.gone_of_calm calm rfl fun _ denies => denies.isNotFound nofun nofun

/-- A certificate that is not active can be deleted. -/
theorem Serves.deletes
    (serves : Serves meddling registry (.deleteCertificate certificate) reply after)
    (calm : meddling.IsCalm)
    (inactive : ∀ known, registry.certificates.get? certificate = some known →
      known.active = false) : reply.IsGone := by
  refine serves.gone_of_calm calm rfl fun fault denies => ?_
  cases denies with
  | thingMissing needed unknown => rfl
  | certificateMissing needed unknown => rfl
  | stillActive registered active => cases active.symm.trans (inactive _ registered)

/-- A thing without principals can be deleted. -/
theorem Serves.thingDeletes (serves : Serves meddling registry (.deleteThing thing) reply after)
    (calm : meddling.IsCalm) (none : registry.principalsOf thing = []) : reply.IsGone := by
  refine serves.gone_of_calm calm rfl fun fault denies => ?_
  cases denies with
  | thingMissing needed unknown => rfl
  | certificateMissing needed unknown => rfl
  | @stillAttached _ known registered held =>
    have bare : known.principals = [] := by simpa [principalsOf, registered] using none
    exact absurd bare held

end Registry

namespace Identity

open Registry

variable {meddling : Meddling} {registry after : Registry} {identity principal : String}
  {seen : List Errand}

/-- **One principal that was removed.** -/
theorem Removes.serves (removes : Removes identity principal seen (.done ()))
    (serves : ServesAll meddling registry seen after) (honest : meddling.IsHonest) :
    after = registry.without identity principal := by
  generalize same : (Fate.done () : Fate PlaneError Unit) = fate at removes
  cases removes with
  | undetached stays => exact absurd same.symm stays
  | detached gone foreign =>
    obtain ⟨middle, detaches, rest⟩ := servesAll_cons_call_iff.mp serves
    cases rest
    rw [detaches.detached honest ((Reply.forgiven_eq_done_iff _).mp gone), without, forget, foreign]
  | active gone own stays => exact absurd same.symm stays
  | deleting gone own inactive third =>
    obtain ⟨one, detaches, rest⟩ := servesAll_cons_call_iff.mp serves
    obtain ⟨two, deactivates, last⟩ := servesAll_cons_call_iff.mp rest
    obtain ⟨three, deletes, none⟩ := servesAll_cons_call_iff.mp last
    cases none
    rw [deletes.deleted honest ((Reply.forgiven_eq_done_iff _).mp same.symm),
      deactivates.deactivated honest ((Reply.forgiven_eq_done_iff _).mp inactive),
      detaches.detached honest ((Reply.forgiven_eq_done_iff _).mp gone), without, forget, own]
    simp only [Table.erase_update]

/-- All principals, when none of them made a fault. -/
theorem RemovesAll.serves {principals : List String}
    (all : RemovesAll identity principals seen (.done []))
    (serves : ServesAll meddling registry seen after) (honest : meddling.IsHonest) :
    after = principals.foldl (without identity) registry := by
  generalize same : (Fate.done [] : Fate TrialError (List String)) = fate at all
  induction all generalizing registry with
  | nil =>
    cases serves
    rfl
  | removed one others step =>
    obtain ⟨middle, here, later⟩ := servesAll_append_iff.mp serves
    rw [step later same, one.serves here honest]
    rfl
  | @kept _ _ _ _ inner _ one others step => cases inner <;> cases same
  | crashed one crashes =>
    rw [← same] at crashes
    cases crashes

/-- Removing principals changes the thing, and the certificates that they name. -/
theorem foldl_without (principals : List String) (registry : Registry) :
    { principals.foldl (without identity) registry with
      things := (principals.foldl (without identity) registry).things.erase identity } =
    { registry with
      things := registry.things.erase identity
      certificates := principals.foldl forget registry.certificates } := by
  induction principals generalizing registry with
  | nil => rfl
  | cons principal principals step =>
    rw [List.foldl_cons, List.foldl_cons, step]
    simp only [without, Table.erase_update]

theorem principalsOf_foldl_without (principals : List String) (registry : Registry) :
    (principals.foldl (without identity) registry).principalsOf identity =
      (registry.principalsOf identity).filter fun other => other ∉ principals := by
  induction principals generalizing registry with
  | nil => simp
  | cons principal principals step =>
    have here : (registry.without identity principal).principalsOf identity =
        (registry.principalsOf identity).filter fun other => other ≠ principal := by
      simp only [principalsOf, without, Table.get?_update, if_true, Option.map_map]
      cases registry.things.get? identity <;> rfl
    rw [List.foldl_cons, step, here, List.filter_filter]
    refine List.filter_congr fun other _ => ?_
    rw [Bool.and_comm]
    simp [not_or]

/-- **A removal without faults leaves nothing of the identity.** -/
theorem Dismantles.serves {removal : Removal}
    (dismantles : Dismantles identity seen (.done removal))
    (serves : ServesAll meddling registry seen after) (honest : meddling.IsHonest) :
    after = registry.dismantled identity := by
  generalize same : (Fate.done removal : Fate TrialError Removal) = fate at dismantles
  cases dismantles with
  | absent missing =>
    obtain ⟨middle, lists, rest⟩ := servesAll_cons_call_iff.mp serves
    cases rest
    obtain ⟨_, wrong, -⟩ | ⟨rfl, fault, -, denies, unknown⟩ :=
      lists.of_gone honest rfl (.inr ⟨_, rfl, missing⟩)
    · cases wrong
    · have absent := (denies.unknownThing rfl unknown).2
      simp [dismantled, principalsOf, absent, Table.erase_of_get?_eq_none]
  | unlisted other => cases same
  | crashed crashes => exact absurd same.symm (crashes.not_done removal)
  | stopped all crashes => exact absurd same.symm (crashes.not_done removal)
  | broken all crashes => exact absurd same.symm (crashes.not_done removal)
  | @finished principals faults errands all outcome =>
    obtain ⟨first, lists, rest⟩ := servesAll_cons_call_iff.mp serves
    obtain ⟨second, removes, last⟩ := servesAll_append_iff.mp rest
    obtain ⟨third, deletes, none⟩ := servesAll_cons_call_iff.mp last
    cases none
    obtain ⟨rfl, rfl, -⟩ := Serves.listed lists
    obtain ⟨rfl, gone⟩ := faultless_of_summedUp same.symm
    rw [deletes.thingDeleted honest gone, all.serves removes honest]
    exact foldl_without _ _

/-! ### A removal in whose way nothing comes -/

theorem Removes.undisturbed {fate : Fate PlaneError Unit}
    (removes : Removes identity principal seen fate)
    (serves : ServesAll meddling registry seen after) (calm : meddling.IsCalm) :
    fate = .done () := by
  cases removes with
  | undetached stays =>
    obtain ⟨middle, detaches, rest⟩ := servesAll_cons_call_iff.mp serves
    exact absurd ((Reply.forgiven_eq_done_iff _).mpr (detaches.detaches calm)) stays
  | detached gone foreign => rfl
  | active gone own stays =>
    obtain ⟨one, detaches, rest⟩ := servesAll_cons_call_iff.mp serves
    obtain ⟨two, deactivates, last⟩ := servesAll_cons_call_iff.mp rest
    exact absurd ((Reply.forgiven_eq_done_iff _).mpr (deactivates.deactivates calm)) stays
  | deleting gone own inactive third =>
    obtain ⟨one, detaches, rest⟩ := servesAll_cons_call_iff.mp serves
    obtain ⟨two, deactivates, last⟩ := servesAll_cons_call_iff.mp rest
    obtain ⟨three, deletes, none⟩ := servesAll_cons_call_iff.mp last
    refine (Reply.forgiven_eq_done_iff _).mpr (deletes.deletes calm fun known found => ?_)
    rw [deactivates.deactivated calm.honest ((Reply.forgiven_eq_done_iff _).mp inactive),
      Table.get?_update, if_pos rfl] at found
    obtain ⟨_, -, rfl⟩ := Option.map_eq_some_iff.mp found
    rfl

theorem RemovesAll.undisturbed {principals : List String} {fate : Fate TrialError (List String)}
    (all : RemovesAll identity principals seen fate)
    (serves : ServesAll meddling registry seen after) (calm : meddling.IsCalm) :
    fate = .done [] := by
  induction all generalizing registry with
  | nil => rfl
  | removed one others step =>
    obtain ⟨middle, here, later⟩ := servesAll_append_iff.mp serves
    exact step later
  | kept one others step =>
    obtain ⟨middle, here, later⟩ := servesAll_append_iff.mp serves
    cases one.undisturbed here calm
  | crashed one crashes =>
    rw [one.undisturbed serves calm] at crashes
    cases crashes

/-- Once all principals were removed, the thing can be deleted. -/
theorem RemovesAll.thingDeletes {faults : List String} {reply : Reply Unit} {middle : Registry}
    (all : RemovesAll identity (registry.principalsOf identity) seen (.done faults))
    (removes : ServesAll meddling registry seen middle)
    (deletes : Serves meddling middle (.deleteThing identity) reply after)
    (calm : meddling.IsCalm) : faults = [] ∧ reply.IsGone := by
  cases all.undisturbed removes calm
  refine ⟨rfl, deletes.thingDeletes calm ?_⟩
  rw [all.serves removes calm.honest, principalsOf_foldl_without]
  exact List.filter_eq_nil_iff.mpr fun other inside => by simpa using inside

/-- **A removal in whose way nothing comes has no faults.** -/
theorem Dismantles.undisturbed {fate : Fate TrialError Removal}
    (dismantles : Dismantles identity seen fate)
    (serves : ServesAll meddling registry seen after) (calm : meddling.IsCalm) :
    ∃ removal, fate = .done removal := by
  cases dismantles with
  | absent missing => exact ⟨.absent, rfl⟩
  | unlisted other =>
    obtain ⟨middle, lists, -⟩ := servesAll_cons_call_iff.mp serves
    obtain ⟨_, wrong⟩ | ⟨_, same, missing⟩ := Serves.lists lists calm
    · cases wrong
    · cases same
      rw [other] at missing
      cases missing
  | crashed crashes =>
    obtain ⟨middle, lists, -⟩ := servesAll_cons_call_iff.mp serves
    exact absurd crashes (Serves.lists lists calm).not_crashes
  | stopped all crashes =>
    obtain ⟨middle, lists, rest⟩ := servesAll_cons_call_iff.mp serves
    rw [all.undisturbed rest calm] at crashes
    cases crashes
  | broken all crashes =>
    obtain ⟨first, lists, rest⟩ := servesAll_cons_call_iff.mp serves
    obtain ⟨second, removes, last⟩ := servesAll_append_iff.mp rest
    obtain ⟨third, deletes, -⟩ := servesAll_cons_call_iff.mp last
    obtain ⟨rfl, rfl, -⟩ := Serves.listed lists
    exact absurd crashes (all.thingDeletes removes deletes calm).2.not_crashes
  | finished all outcome =>
    obtain ⟨first, lists, rest⟩ := servesAll_cons_call_iff.mp serves
    obtain ⟨second, removes, last⟩ := servesAll_append_iff.mp rest
    obtain ⟨third, deletes, -⟩ := servesAll_cons_call_iff.mp last
    obtain ⟨rfl, rfl, -⟩ := Serves.listed lists
    obtain ⟨rfl, gone⟩ := all.thingDeletes removes deletes calm
    exact ⟨_, summedUp_of_gone gone⟩

end Identity

end DeviceTrial
