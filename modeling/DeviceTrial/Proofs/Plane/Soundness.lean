/-
**What is always true of the control plane in memory.**

A registry is made of the empty one by seeding it and by calls. In every registry that comes about
so, a certificate stands under its identifier with the resource name that belongs to it, and was
issued under a number; so the next certificate is a new one, and can be found by its resource name.

* `certificateId_injective` — two numbers never give one identifier;
* `certificateOf?_arnOf` — the resource name of a certificate names it;
* `isSound_of_reachable` — **the invariant**, for every registry that can come about.
-/

import DeviceTrial.Proofs.Plane.Steps
import Mathlib.Logic.Function.Basic

namespace DeviceTrial

namespace Registry

/-! ### Identifiers -/

theorem toList_fourDigits (n : Nat) : (fourDigits n).toList =
    List.replicate (4 - (toString n).length) '0' ++ Nat.toDigits 10 n := by
  rw [fourDigits, String.toList_append, String.toList_ofList]
  rw [show (toString n : String) = n.repr from rfl, Nat.toList_repr]

/-- The number can be read off its digits. -/
theorem fourDigits_injective : Function.Injective fourDigits := by
  have value : ∀ n, Nat.ofDigitChars 10 (fourDigits n).toList 0 = n := by
    intro n
    rw [toList_fourDigits, Nat.ofDigitChars_append, Nat.ofDigitChars_replicate_zero, Nat.mul_zero,
      Nat.ofDigitChars_ten_toDigits]
  intro m n same
  rw [← value m, same, value n]

theorem certificateId_injective : Function.Injective certificateId := by
  intro m n same
  have digits := congrArg String.toList same
  rw [certificateId, certificateId, String.toList_append, String.toList_append] at digits
  exact fourDigits_injective (String.toList_inj.mp (List.append_cancel_left digits))

theorem isEmpty_certificateId (n : Nat) : (certificateId n).isEmpty = false := by
  rw [Bool.eq_false_iff, Ne, String.isEmpty_iff]
  intro none
  have chars := congrArg String.toList none
  rw [certificateId, String.toList_append] at chars
  simp at chars

/-- The resource name of a certificate names it. -/
theorem certificateOf?_arnOf {id : String} (named : id.isEmpty = false) :
    certificateOf? (arnOf id) = some id := by
  rw [certificateOf?_eq_some_iff]
  refine ⟨⟨arnStart, ?_⟩, named⟩
  have split : Text.cut? certificateMark.toList (arnOf id).toList =
      some (arnStart.toList, id.toList) := by
    rw [arnOf, String.toList_append, String.toList_append]
    rfl
  rw [Text.cut, split, Option.map_some, String.ofList_toList, String.ofList_toList]

theorem arnOf_injective : Function.Injective arnOf := by
  intro left right same
  have chars := congrArg String.toList same
  simp only [arnOf, String.toList_append] at chars
  exact String.toList_inj.mp (List.append_cancel_left chars)

/-! ### The invariant -/

/-- That a registry can come about: it is seeded and called. -/
inductive Reachable : Registry → Prop where
  | empty : Reachable empty
  | secret {registry : Registry} (before : Reachable registry) (name value : String) :
    Reachable (registry.withSecret name value)
  | thing {registry : Registry} (before : Reachable registry) (name : String) :
    Reachable (registry.withThing name)
  | job {registry : Registry} (before : Reachable registry) (job thing : String)
      (execution : JobExecution) : Reachable (registry.withJob job thing execution)
  | shadow {registry : Registry} (before : Reachable registry) (thing : String)
      (name : Option String) (payload : ByteArray) :
    Reachable (registry.withShadow thing name payload)
  | failing {registry : Registry} (before : Reachable registry) (operation : Operation) :
    Reachable (registry.failingOn operation)
  | panicking {registry : Registry} (before : Reachable registry) (operation : Operation) :
    Reachable (registry.panickingOn operation)
  | called {registry : Registry} (before : Reachable registry) (call : Call) :
    Reachable (answer call registry).2

/-- That every certificate has its own resource name and was issued under a number. -/
structure IsSound (registry : Registry) : Prop where
  /-- A certificate has the resource name that belongs to its identifier. -/
  arn : ∀ {id certificate}, registry.certificates.get? id = some certificate →
    certificate.arn = arnOf id
  /-- A certificate was issued under a number. -/
  numbered : ∀ {id certificate}, registry.certificates.get? id = some certificate →
    ∃ n ≤ registry.issued, id = certificateId n

/-- What was not issued is not there. -/
theorem IsSound.unissued {registry : Registry} (sound : registry.IsSound) {n : Nat}
    (beyond : registry.issued < n) : registry.certificates.get? (certificateId n) = none := by
  cases found : registry.certificates.get? (certificateId n) with
  | none => rfl
  | some certificate =>
    obtain ⟨m, small, same⟩ := sound.numbered found
    have number := certificateId_injective same
    omega

/-- The next certificate is a new one. -/
theorem IsSound.fresh {registry : Registry} (sound : registry.IsSound) :
    registry.certificates.get? (certificateId (registry.issued + 1)) = none :=
  sound.unissued (Nat.lt_succ_self _)

/-- A certificate that is found by its resource name is the one of that name. -/
theorem IsSound.certificateWithArn?_eq {registry : Registry} (sound : registry.IsSound)
    {id found : String} (finds : registry.certificateWithArn? (arnOf id) = some found) :
    found = id := by
  obtain ⟨entry, first, rfl⟩ := Option.map_eq_some_iff.mp finds
  have known := sound.arn (Table.get?_of_mem (List.mem_of_find?_eq_some first))
  have named := List.find?_some first
  rw [beq_iff_eq, known] at named
  exact arnOf_injective named

/-- A certificate can be found by its resource name. -/
theorem IsSound.certificateWithArn?_of_known {registry : Registry} (sound : registry.IsSound)
    {id : String} {certificate : RegisteredCertificate}
    (known : registry.certificates.get? id = some certificate) :
    registry.certificateWithArn? (arnOf id) = some id := by
  cases finds : registry.certificateWithArn? (arnOf id) with
  | some found => rw [sound.certificateWithArn?_eq finds]
  | none =>
    have named := List.find?_eq_none.mp (Option.map_eq_none_iff.mp finds) _
      (Table.mem_entries_of_get? known)
    rw [sound.arn known] at named
    exact absurd (beq_self_eq_true _) named

/-! ### The invariant is kept -/

variable {registry after : Registry}

theorem IsSound.of_same (sound : registry.IsSound)
    (certificates : after.certificates = registry.certificates)
    (issued : after.issued = registry.issued) : after.IsSound where
  arn found := sound.arn (certificates ▸ found)
  numbered found := by
    rw [issued]
    exact sound.numbered (certificates ▸ found)

/-- A new certificate. -/
theorem IsSound.issue (sound : registry.IsSound)
    (certificates : after.certificates = registry.certificates.insert
      (certificateId (registry.issued + 1)) ⟨arnOf (certificateId (registry.issued + 1)), true, []⟩)
    (issued : after.issued = registry.issued + 1) : after.IsSound where
  arn {id certificate} found := by
    rw [certificates, Table.get?_insert] at found
    split at found
    · rename_i here
      cases found
      rw [here]
    · exact sound.arn found
  numbered {id certificate} found := by
    rw [certificates, Table.get?_insert] at found
    rw [issued]
    split at found
    · exact ⟨registry.issued + 1, Nat.le_refl _, ‹id = _›⟩
    · obtain ⟨n, small, same⟩ := sound.numbered found
      exact ⟨n, Nat.le_succ_of_le small, same⟩

/-- A certificate that is changed keeps its resource name. -/
theorem IsSound.change (sound : registry.IsSound) {id : String}
    {change : RegisteredCertificate → RegisteredCertificate}
    (keeps : ∀ certificate, (change certificate).arn = certificate.arn)
    (certificates : after.certificates = registry.certificates.update id change)
    (issued : after.issued = registry.issued) : after.IsSound := by
  have before : ∀ {other certificate}, after.certificates.get? other = some certificate →
      ∃ old, registry.certificates.get? other = some old ∧ certificate.arn = old.arn := by
    intro other certificate found
    rw [certificates, Table.get?_update] at found
    split at found
    · rename_i here
      obtain ⟨old, was, rfl⟩ := Option.map_eq_some_iff.mp found
      exact ⟨old, here ▸ was, keeps old⟩
    · exact ⟨certificate, found, rfl⟩
  refine ⟨fun found => ?_, fun found => ?_⟩
  · obtain ⟨old, was, same⟩ := before found
    rw [same]
    exact sound.arn was
  · obtain ⟨old, was, -⟩ := before found
    rw [issued]
    exact sound.numbered was

theorem IsSound.erase (sound : registry.IsSound) {id : String}
    (certificates : after.certificates = registry.certificates.erase id)
    (issued : after.issued = registry.issued) : after.IsSound := by
  have before : ∀ {other certificate}, after.certificates.get? other = some certificate →
      registry.certificates.get? other = some certificate := by
    intro other certificate found
    rw [certificates, Table.get?_erase] at found
    split at found
    · cases found
    · exact found
  refine ⟨fun found => sound.arn (before found), fun found => ?_⟩
  rw [issued]
  exact sound.numbered (before found)

/-- A call that succeeds keeps the invariant. -/
theorem IsSound.step (sound : registry.IsSound) {call : Call} {value : call.Answer}
    (done : registry.step call = .ok (value, after)) : after.IsSound := by
  cases step_eq_ok_iff.mp done with
  | certificateMade => exact sound.issue rfl rfl
  | policyAttached found =>
    refine sound.change (fun certificate => ?_) rfl rfl
    rfl
  | certificateDeactivated registered =>
    refine sound.change (fun certificate => ?_) rfl rfl
    rfl
  | certificateDeleted registered inactive => exact sound.erase rfl rfl
  | _ => exact sound.of_same rfl rfl

/-- Every call keeps the invariant, however it comes out. -/
theorem IsSound.answer (sound : registry.IsSound) (call : Call) :
    (answer call registry).2.IsSound := by
  have known : (registry.logged call).IsSound := sound.of_same rfl rfl
  have handles := handles_answer registry call
  generalize (Registry.answer call registry).1 = reply, (Registry.answer call registry).2 = after
    at handles ⊢
  cases handles with
  | done unbroken unfailing fulfils => exact known.step fulfils.step_eq
  | _ => exact known

/-- **Every registry that can come about is sound.** -/
theorem isSound_of_reachable (reachable : Reachable registry) : registry.IsSound := by
  induction reachable with
  | empty => exact ⟨nofun, nofun⟩
  | secret before name value sound => exact sound.of_same rfl rfl
  | thing before name sound => exact sound.of_same rfl rfl
  | job before job thing execution sound => exact sound.of_same rfl rfl
  | shadow before thing name payload sound => exact sound.of_same rfl rfl
  | failing before operation sound => exact sound.of_same rfl rfl
  | panicking before operation sound => exact sound.of_same rfl rfl
  | called before call sound => exact sound.answer call

end Registry

end DeviceTrial
