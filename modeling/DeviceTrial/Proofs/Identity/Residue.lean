/-
**What making an identity leaves behind.**

Making an identity that is not registered yet can stop after every call. `Leaves` lists what there
is then, as long as a certificate that exists is attached to the thing; the one other possibility is
that the control plane crashed when the new certificate was to be attached.

* `Registry.Leaves` — the states in which every certificate can be found from the thing;
* `Strands` — the one state in which it cannot;
* `leaves_of_making` — what a part of the script leaves;
* `Establishes.leaves` — **what making an identity leaves**, whatever became of it.
-/

import DeviceTrial.Proofs.Identity.Erasure
import DeviceTrial.Proofs.Identity.Making
import DeviceTrial.Proofs.Plane.Soundness

namespace DeviceTrial

namespace Registry

/-- The identifier that the next certificate gets. -/
def nextId (registry : Registry) : String := certificateId (registry.issued + 1)

/-- The registry with one more certificate. -/
def withCertificate (registry : Registry) (policies : List String) : Registry :=
  { registry with
    issued := registry.issued + 1
    certificates := registry.certificates.insert registry.nextId
      ⟨arnOf registry.nextId, true, policies⟩ }

/-- The registry that knows this of a thing, whatever it knew before. -/
def withThingAs (registry : Registry) (thing : String) (known : RegisteredThing) : Registry :=
  { registry with things := registry.things.insert thing known }

/-- What the registry knows of a thing, or will know when the thing is made. -/
def knownAs (registry : Registry) (thing : String) : RegisteredThing :=
  (registry.things.get? thing).getD .bare

/-- The registry with a thing and its new certificate. -/
def withIdentity (registry : Registry) (thing : String) (policies groups : List String) :
    Registry :=
  { registry.withCertificate policies with
    things := registry.things.insert thing ⟨[arnOf registry.nextId], groups⟩ }

/-- What is left when every certificate that was made is attached to the thing, or deleted. -/
inductive Leaves (registry : Registry) (thing : String) : Registry → Prop where
  | nothing : Leaves registry thing registry
  | bare : Leaves registry thing (registry.withThing thing)
  | equipped (policies groups : List String) :
    Leaves registry thing (registry.withIdentity thing policies groups)
  | discarded : Leaves registry thing { registry.withThing thing with
      issued := registry.issued + 1 }

/-- What is left when the new certificate is attached to nothing. -/
def loose (registry : Registry) (thing : String) : Registry :=
  (registry.withCertificate []).withThing thing

variable {meddling : Meddling} {registry after : Registry} {thing : String}

/-! ### Steps of making -/

theorem mem_includeText (item : String) (texts : List String) : item ∈ includeText item texts := by
  unfold includeText
  split
  · assumption
  · simp

theorem step_createThing (registry : Registry) (thing : String) :
    registry.step (.createThing thing) =
      .ok ((), registry.withThingAs thing (registry.knownAs thing)) := by
  unfold knownAs
  cases found : registry.things.get? thing with
  | none =>
    rw [Fulfils.step_eq (.thingMade found), Option.getD_none]
    rfl
  | some known =>
    rw [Fulfils.step_eq (.thingThere found), Option.getD_some, withThingAs,
      Table.insert_of_get? found]

theorem step_createCertificate (registry : Registry) :
    registry.step .createCertificate =
      .ok (certificateNumber (registry.issued + 1), registry.withCertificate []) := rfl

theorem changeThing_withThingAs (registry : Registry) (thing : String) (known : RegisteredThing)
    (change : RegisteredThing → RegisteredThing) :
    (registry.withThingAs thing known).changeThing thing change =
      .ok ((), registry.withThingAs thing (change known)) := by
  simp only [changeThing, withThingAs, Table.get?_insert_self, Table.update_insert]

theorem step_attachPrincipal (registry : Registry) (thing principal : String)
    (known : RegisteredThing) :
    (registry.withThingAs thing known).step (.attachPrincipal thing principal) =
      .ok ((), registry.withThingAs thing
        { known with principals := includeText principal known.principals }) :=
  changeThing_withThingAs registry thing known _

theorem step_joinGroup (registry : Registry) (thing group : String) (known : RegisteredThing) :
    (registry.withThingAs thing known).step (.joinGroup thing group) =
      .ok ((), registry.withThingAs thing
        { known with groups := includeText group known.groups }) :=
  changeThing_withThingAs registry thing known _

/-- The new certificate is the one that is found by its resource name. -/
theorem step_attachPolicy (sound : registry.IsSound) (known : RegisteredThing) (policy : String) :
    ((registry.withCertificate []).withThingAs thing known).step
        (.attachPolicy policy (arnOf registry.nextId)) =
      .ok ((), (registry.withCertificate [policy]).withThingAs thing known) := by
  have kept : ((registry.withCertificate []).withThingAs thing known).IsSound :=
    sound.issue rfl rfl
  have found := kept.certificateWithArn?_of_known (Table.get?_insert_self _ _ _)
  rw [Fulfils.step_eq (.policyAttached found)]
  simp only [withThingAs, withCertificate, Table.update_insert, List.nil_append]

theorem Serves.thingMade (serves : Serves meddling registry (.createThing thing) (.ok ()) after)
    (unknown : registry.things.get? thing = none) : after = registry.withThing thing := by
  cases serves.fulfils with
  | thingThere registered => cases unknown.symm.trans registered
  | thingMade fresh => rfl

theorem Serves.certificateMade {certificate : Certificate}
    (serves : Serves meddling registry .createCertificate (.ok certificate) after) :
    certificate = certificateNumber (registry.issued + 1) ∧
      after = registry.withCertificate [] := by
  cases serves.fulfils with
  | certificateMade => exact ⟨rfl, rfl⟩

/-- The new certificate is attached to the new thing. -/
theorem Serves.attached
    (serves : Serves meddling (registry.loose thing)
      (.attachPrincipal thing (arnOf registry.nextId)) (.ok ()) after) :
    after = registry.withIdentity thing [] [] := by
  have works := (step_attachPrincipal _ _ _ _).symm.trans serves.works
  cases works
  rfl

theorem Serves.policyAttached {policy : String} (sound : registry.IsSound)
    (serves : Serves meddling (registry.withIdentity thing [] [])
      (.attachPolicy policy (arnOf registry.nextId)) (.ok ()) after) :
    after = registry.withIdentity thing [policy] [] := by
  have works := (step_attachPolicy sound _ _).symm.trans serves.works
  cases works
  rfl

theorem Serves.joined {group : String} {policies : List String}
    (serves : Serves meddling (registry.withIdentity thing policies []) (.joinGroup thing group)
      (.ok ()) after) :
    after = registry.withIdentity thing policies [group] := by
  have works := (step_joinGroup _ _ _ _).symm.trans serves.works
  cases works
  rfl

end Registry

namespace Identity

open Registry

variable {meddling : Meddling} {registry after : Registry} {identity policy : String}
  {group : Option String} {seen : List Errand}

/-- A new certificate is attached at the end, whether or not the thing is new. -/
theorem attached_of_making {naming : List Errand} {certificate : Certificate}
    (serves : ServesAll meddling registry
      (makingErrands naming identity policy certificate group) after) :
    certificate.arn ∈ after.principalsOf identity := by
  obtain ⟨start, -, equips⟩ := servesAll_append_iff.mp serves
  obtain ⟨one, attaches, rest⟩ := servesAll_cons_call_iff.mp equips
  obtain ⟨two, allows, joins⟩ := servesAll_cons_call_iff.mp rest
  have attached : certificate.arn ∈ one.principalsOf identity := by
    cases attaches.fulfils with
    | principalAttached found =>
      simpa [principalsOf, Table.get?_update, found] using mem_includeText _ _
  have allowed : certificate.arn ∈ two.principalsOf identity := by
    cases allows.fulfils
    exact attached
  cases group with
  | none =>
    cases joins
    exact allowed
  | some group =>
    obtain ⟨three, enters, none⟩ := servesAll_cons_call_iff.mp joins
    cases none
    cases enters.fulfils with
    | groupJoined found => simpa [principalsOf, Table.get?_update, found] using allowed

/-- What the errands after the certificate leave. -/
theorem leaves_of_equipping (sound : registry.IsSound)
    (initial : seen <+:
      equipErrands identity policy (certificateNumber (registry.issued + 1)) group)
    (serves : ServesAll meddling (registry.loose identity) seen after) :
    (seen = [] ∧ after = registry.loose identity) ∨ registry.Leaves identity after := by
  rcases List.prefix_cons_iff.mp initial with rfl | ⟨more, rfl, further⟩
  · cases serves
    exact .inl ⟨rfl, rfl⟩
  obtain ⟨one, attaches, rest⟩ := servesAll_cons_call_iff.mp serves
  cases Serves.attached attaches
  rcases List.prefix_cons_iff.mp further with rfl | ⟨more, rfl, last⟩
  · cases rest
    exact .inr (.equipped [] [])
  obtain ⟨two, allows, joins⟩ := servesAll_cons_call_iff.mp rest
  cases Serves.policyAttached sound allows
  cases group with
  | none =>
    cases List.prefix_nil.mp last
    cases joins
    exact .inr (.equipped [policy] [])
  | some group =>
    rcases List.prefix_cons_iff.mp last with rfl | ⟨more, rfl, none⟩
    · cases joins
      exact .inr (.equipped [policy] [])
    · obtain ⟨three, enters, ends⟩ := servesAll_cons_call_iff.mp joins
      cases Serves.joined enters
      cases List.prefix_nil.mp none
      cases ends
      exact .inr (.equipped [policy] [group])

/-- **What a part of the script leaves.** -/
theorem leaves_of_making {source : PolicySource} {naming : List Errand} {certificate : Certificate}
    (names : Names source policy naming) (sound : registry.IsSound)
    (unknown : registry.things.get? identity = none)
    (initial : seen <+: makingErrands naming identity policy certificate group)
    (serves : ServesAll meddling registry seen after) :
    (seen = naming ++ startErrands identity certificate ∧ after = registry.loose identity) ∨
      registry.Leaves identity after := by
  rw [makingErrands, List.append_assoc] at initial
  rcases List.prefix_or_prefix_of_prefix initial (List.prefix_append naming _) with early | late
  · rw [serves.of_reading fun errand inside => names.reading errand (early.subset inside)]
    exact .inr .nothing
  obtain ⟨more, rfl⟩ := late
  obtain ⟨start, named, rest⟩ := servesAll_append_iff.mp serves
  cases named.of_reading names.reading
  rcases List.prefix_cons_iff.mp ((List.prefix_append_right_inj _).mp initial) with
    rfl | ⟨more, rfl, further⟩
  · cases rest
    exact .inr .nothing
  obtain ⟨one, makes, rest⟩ := servesAll_cons_call_iff.mp rest
  cases Serves.thingMade makes unknown
  rcases List.prefix_cons_iff.mp further with rfl | ⟨more, rfl, last⟩
  · cases rest
    exact .inr .bare
  obtain ⟨two, issues, rest⟩ := servesAll_cons_call_iff.mp rest
  obtain ⟨rfl, rfl⟩ := Serves.certificateMade issues
  rcases leaves_of_equipping sound last rest with ⟨rfl, rfl⟩ | leaves
  · exact .inl ⟨rfl, rfl⟩
  · exact .inr leaves

/-- The errands up to the certificate leave it attached to nothing. -/
theorem loose_of_start {source : PolicySource} {naming : List Errand} {certificate : Certificate}
    (names : Names source policy naming) (unknown : registry.things.get? identity = none)
    (serves : ServesAll meddling registry (naming ++ startErrands identity certificate) after) :
    certificate = certificateNumber (registry.issued + 1) ∧ after = registry.loose identity := by
  obtain ⟨start, named, rest⟩ := servesAll_append_iff.mp serves
  cases named.of_reading names.reading
  obtain ⟨one, makes, rest⟩ := servesAll_cons_call_iff.mp rest
  cases Serves.thingMade makes unknown
  obtain ⟨two, issues, rest⟩ := servesAll_cons_call_iff.mp rest
  obtain ⟨rfl, rfl⟩ := Serves.certificateMade issues
  cases rest
  exact ⟨rfl, rfl⟩

/-- The certificate that could not be attached is taken away again. -/
theorem Discards.leaves (discards : Discards registry.nextId seen) (sound : registry.IsSound)
    (calm : meddling.IsCalm)
    (serves : ServesAll meddling (registry.loose identity) seen after) :
    registry.Leaves identity after := by
  have known : (registry.loose identity).certificates.get? registry.nextId =
      some ⟨arnOf registry.nextId, true, []⟩ := Table.get?_insert_self _ _ _
  have deactivation : ∀ {reply : Reply Unit} {middle : Registry},
      Registry.Serves meddling (registry.loose identity)
        (.deactivateCertificate registry.nextId) reply middle → reply.IsOk := by
    intro reply middle deactivates
    obtain ⟨value, rfl, -⟩ | ⟨-, fault, -, denies⟩ := deactivates.of_calm calm rfl
    · exact ⟨value, rfl⟩
    · have unknown := denies.unknownCertificate rfl (denies.isNotFound nofun nofun)
      cases known.symm.trans unknown
  cases discards with
  | active bad =>
    obtain ⟨middle, deactivates, -⟩ := servesAll_cons_call_iff.mp serves
    exact absurd (deactivation deactivates) bad
  | deleting reply =>
    obtain ⟨one, deactivates, rest⟩ := servesAll_cons_call_iff.mp serves
    obtain ⟨two, deletes, none⟩ := servesAll_cons_call_iff.mp rest
    cases none
    cases Serves.deactivated deactivates calm.honest (.inl ⟨(), rfl⟩)
    have gone : reply.IsGone := Serves.deletes deletes calm fun certificate found => by
      rw [Table.get?_update, if_pos rfl] at found
      obtain ⟨_, -, rfl⟩ := Option.map_eq_some_iff.mp found
      rfl
    have restored : (registry.certificates.insert registry.nextId
        ⟨arnOf registry.nextId, true, []⟩).erase registry.nextId = registry.certificates :=
      Table.erase_insert sound.fresh _
    rw [Serves.deleted deletes calm.honest gone]
    simp only [Table.erase_update, loose, withThing, withCertificate, restored]
    exact .discarded

/-- That the control plane crashed when a certificate was to be attached. -/
def IsCrashedAttachment (errand : Errand) : Prop :=
  ∃ thing principal, ∃ reply : Reply Unit, reply.IsCrash ∧
    errand = .call (.attachPrincipal thing principal) reply

theorem operation_of_crashed {errand : Errand} (crashed : IsCrashedAttachment errand) :
    errand.operation? = some .attachPrincipal := by
  obtain ⟨_, _, _, -, rfl⟩ := crashed
  rfl

/-- A certificate that is attached to nothing, as the control plane crashed at its attachment. -/
structure Strands (registry : Registry) (identity : String) (seen : List Errand)
    (after : Registry) : Prop where
  /-- The thing has no principals, and the certificate is there. -/
  same : after = registry.loose identity
  /-- The certificate was made by one of the errands. -/
  created : .call .createCertificate (.ok (certificateNumber (registry.issued + 1))) ∈ seen
  /-- One of them is the attachment. -/
  crashed : ∃ errand ∈ seen, IsCrashedAttachment errand

/-- Nothing is attached before the certificate is there. -/
theorem unattached_start {source : PolicySource} {naming : List Errand}
    (names : Names source policy naming) (identity : String) (certificate : Certificate) :
    ∀ errand ∈ naming ++ startErrands identity certificate,
      errand.operation? ≠ some .attachPrincipal := by
  intro errand inside attaches
  simp only [startErrands, List.mem_append, List.mem_cons, List.not_mem_nil, or_false] at inside
  rcases inside with inside | rfl | rfl
  · cases names.reading errand inside _ attaches
  · cases attaches
  · cases attaches

/-- Where the attachment stands in the script. -/
theorem start_of_attachment {source : PolicySource} {naming front rest : List Errand}
    {certificate : Certificate} {meant : Errand} (names : Names source policy naming)
    (script : makingErrands naming identity policy certificate group = front ++ meant :: rest)
    (attaches : meant.operation? = some .attachPrincipal) :
    front = naming ++ startErrands identity certificate ∧
      meant = .call (.attachPrincipal identity certificate.arn) (.ok ()) := by
  have before : meant ∉ naming ++ startErrands identity certificate :=
    fun inside => unattached_start names identity certificate meant inside attaches
  have after : meant ∉ .call (.attachPolicy policy certificate.arn) (.ok ()) ::
      joinErrands identity group := by
    intro inside
    cases group <;> simp [joinErrands] at inside
    · rw [inside] at attaches
      cases attaches
    · rcases inside with rfl | rfl <;> cases attaches
  obtain ⟨same, here, -⟩ := (List.append_cons_inj_of_notMem before after).mp script
  exact ⟨same.symm, here.symm⟩

/-- Where every errand comes out as it should, no attachment crashes. -/
theorem uncrashed_of_succeeds {errands : List Errand}
    (succeeds : ∀ errand ∈ errands, errand.Succeeds) :
    ∀ errand ∈ errands, ¬ IsCrashedAttachment errand := by
  rintro _ inside ⟨_, _, reply, crash, rfl⟩
  exact crash.not_ok (succeeds _ inside)

/-- What the whole script leaves. -/
theorem leaves_of_made {source : PolicySource} {naming : List Errand} {certificate : Certificate}
    (names : Names source policy naming) (sound : registry.IsSound)
    (unknown : registry.things.get? identity = none)
    (serves : ServesAll meddling registry
      (makingErrands naming identity policy certificate group) after) :
    registry.Leaves identity after := by
  rcases leaves_of_making names sound unknown List.prefix_rfl serves with ⟨short, -⟩ | leaves
  · cases List.append_right_eq_self.mp short
  · exact leaves

/-- What a script leaves that broke off, and not at a refused attachment. -/
theorem leaves_of_breaks {source : PolicySource} {naming : List Errand} {certificate : Certificate}
    (names : Names source policy naming)
    (breaks : Errand.Breaks seen (makingErrands naming identity policy certificate group))
    (attaching : ∀ thing principal fault,
      .call (.attachPrincipal thing principal) (.error fault) ∉ seen)
    (sound : registry.IsSound) (unknown : registry.things.get? identity = none)
    (serves : ServesAll meddling registry seen after) :
    (registry.Leaves identity after ∧ ∀ errand ∈ seen, ¬ IsCrashedAttachment errand) ∨
      Strands registry identity seen after := by
  obtain ⟨front, failed, meant, rest, rfl, script, same, fails, others⟩ := serves.of_breaks breaks
  have succeeds := succeeds_makingErrands names identity certificate group
  rw [script] at succeeds
  have early := uncrashed_of_succeeds fun errand inside =>
    succeeds errand (List.mem_append_left _ inside)
  by_cases crashed : IsCrashedAttachment failed
  · obtain ⟨rfl, rfl⟩ := start_of_attachment names script
      (Errand.operation?_eq same ▸ operation_of_crashed crashed)
    obtain ⟨rfl, rfl⟩ := loose_of_start names unknown others
    exact .inr ⟨rfl, by simp [startErrands], failed, by simp, crashed⟩
  refine .inl ⟨?_, fun errand inside => ?_⟩
  · rcases leaves_of_making names sound unknown ⟨_, script.symm⟩ others with ⟨rfl, -⟩ | leaves
    · -- the attachment failed, and it neither crashed nor was refused
      obtain ⟨rfl, -⟩ := List.cons_eq_cons.mp (List.append_cancel_left script)
      obtain ⟨reply, rfl⟩ := Errand.exists_reply same
      cases reply with
      | ok value => exact absurd ⟨value, rfl⟩ fails
      | error fault =>
        exact absurd (List.mem_append_right _ (List.mem_singleton_self _))
          (attaching identity certificate.arn fault)
      | panic message => exact absurd ⟨_, _, _, .panic message, rfl⟩ crashed
      | hang => exact absurd ⟨_, _, _, .hang, rfl⟩ crashed
    · exact leaves
  · rcases List.mem_append.mp inside with inside | inside
    · exact early errand inside
    · rw [List.mem_singleton.mp inside]
      exact crashed

/-- What is left when the attachment was refused and the certificate was taken away. -/
theorem leaves_of_unattached {source : PolicySource} {naming discarding : List Errand}
    {certificate : Certificate} (names : Names source policy naming) (fault : PlaneError)
    (discards : Discards certificate.id discarding) (sound : registry.IsSound)
    (unknown : registry.things.get? identity = none) (calm : meddling.IsCalm)
    (serves : ServesAll meddling registry (naming ++ startErrands identity certificate ++
      .call (.attachPrincipal identity certificate.arn) (.error fault) :: discarding) after) :
    registry.Leaves identity after := by
  obtain ⟨middle, starts, rest⟩ := servesAll_append_iff.mp serves
  obtain ⟨rfl, rfl⟩ := loose_of_start names unknown starts
  obtain ⟨_, refuses, discarding⟩ := servesAll_cons_call_iff.mp rest
  cases refuses.of_not_ok nofun
  exact discards.leaves sound calm discarding

/-- An attachment that was refused did not crash. -/
theorem uncrashed_of_unattached {source : PolicySource} {naming discarding : List Errand}
    {certificate : Certificate} (names : Names source policy naming) (fault : PlaneError)
    (discards : Discards certificate.id discarding) :
    ∀ errand ∈ naming ++ startErrands identity certificate ++
      .call (.attachPrincipal identity certificate.arn) (.error fault) :: discarding,
      ¬ IsCrashedAttachment errand := by
  intro errand inside crashed
  have attaches := operation_of_crashed crashed
  rcases List.mem_append.mp inside with inside | inside
  · exact unattached_start names _ _ errand inside attaches
  · rcases List.mem_cons.mp inside with rfl | inside
    · obtain ⟨_, _, _, crash, same⟩ := crashed
      cases same
      cases crash
    · rcases discards.operations errand inside with same | same <;>
        · rw [same] at attaches
          cases attaches

/-- **What making an identity leaves**, when nothing comes in the way of taking away. -/
theorem Establishes.leaves {source : PolicySource} {paths : CredentialPaths}
    {fate : Fate TrialError Identity}
    (establishes : Establishes identity source paths group seen fate) (sound : registry.IsSound)
    (unknown : registry.things.get? identity = none) (calm : meddling.IsCalm)
    (serves : ServesAll meddling registry seen after) :
    (registry.Leaves identity after ∧ ∀ errand ∈ seen, ¬ IsCrashedAttachment errand) ∨
      Strands registry identity seen after := by
  cases establishes with
  | made certificate names =>
    exact .inl ⟨leaves_of_made names sound unknown serves,
      uncrashed_of_succeeds (succeeds_makingErrands names _ _ _)⟩
  | unwritten certificate names fault =>
    exact .inl ⟨leaves_of_made names sound unknown serves,
      uncrashed_of_succeeds (succeeds_makingErrands names _ _ _)⟩
  | broken certificate names breaks attaching halts =>
    exact leaves_of_breaks names breaks attaching sound unknown serves
  | unattached names fault discards halts =>
    exact .inl ⟨leaves_of_unattached names fault discards sound unknown calm serves,
      uncrashed_of_unattached names fault discards⟩

end Identity

end DeviceTrial
