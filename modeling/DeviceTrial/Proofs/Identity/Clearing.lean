/-
**Taking an identity away when nothing comes in the way.**

The principals of a thing may be anything: certificates that are active or not, certificates that were
deleted before, certificates that other things have too, and texts that name no certificate. A removal
in whose way nothing comes takes all of that in its stride:

* `logs_run` — the registry logs exactly the calls of the removal;
* `Registry.cleared_dismantled` — the registry without the thing, place by place;
* `dismantle_clears` — **the thing goes with exactly the certificates that its principals name**, a
  thing that is not there leaves no trace but one call, and neither does a second removal.
-/

import DeviceTrial.Proofs.Identity.Retrying
import DeviceTrial.Proofs.Plane.Transitions
import DeviceTrial.Proofs.Trial.Credentials

namespace DeviceTrial

/-- What an errand leaves in the log of calls. -/
def Errand.entry? : Errand → Option (Operation × String)
  | .call request _ => some (request.operation, request.target)
  | _ => none

namespace Registry

variable {registry left right : Registry} {thing certificate : String}

/-- Registries are the same when their contents and their logs are. -/
theorem eq_of_contents (same : left.contents = right.contents) (calls : left.calls = right.calls) :
    left = right := by
  cases left
  cases right
  simp_all [contents]

/-- A certificate that no principal names is not forgotten with them. -/
theorem get?_foldl_forget_of_unnamed {principals : List String}
    (unnamed : ∀ principal ∈ principals, certificateOf? principal ≠ some certificate)
    (certificates : Table String RegisteredCertificate) :
    (principals.foldl forget certificates).get? certificate = certificates.get? certificate := by
  induction principals generalizing certificates with
  | nil => rfl
  | cons principal principals step =>
    obtain ⟨other, others⟩ := List.forall_mem_cons.mp unnamed
    rw [List.foldl_cons, step others, forget]
    cases names : certificateOf? principal with
    | none => rfl
    | some named =>
      refine (Table.get?_erase _ _ _).trans (if_neg ?_)
      rintro rfl
      exact other names

/-- That of a registry exactly one identity is gone: the thing, and every certificate that one of the
principals names. -/
structure Cleared (identity : String) (principals : List String) (before after : Registry) :
    Prop where
  /-- The thing is gone. -/
  thing : after.things.get? identity = none
  /-- Every other thing has the principals and groups that it had. -/
  things : ∀ other, other ≠ identity → after.things.get? other = before.things.get? other
  /-- The certificates that the principals name are gone. -/
  named : ∀ principal ∈ principals, ∀ certificate, certificateOf? principal = some certificate →
    after.certificates.get? certificate = none
  /-- Every other certificate is what it was. -/
  unnamed : ∀ certificate,
    (∀ principal ∈ principals, certificateOf? principal ≠ some certificate) →
    after.certificates.get? certificate = before.certificates.get? certificate
  /-- Apart from the log, nothing else is touched. -/
  rest : after = { before with
    things := after.things
    certificates := after.certificates
    calls := after.calls }

/-- **The registry without an identity**, place by place. -/
theorem cleared_dismantled (registry : Registry) (identity : String) :
    Cleared identity (registry.principalsOf identity) registry (registry.dismantled identity) where
  thing := Table.get?_erase_self _ _
  things _ different := (Table.get?_erase _ _ _).trans (if_neg different)
  named _ listed _ names := get?_foldl_forget listed names _
  unnamed _ unnamed := get?_foldl_forget_of_unnamed unnamed _
  rest := rfl

/-- What was cleared does not depend on the logs. -/
theorem Cleared.of_contents {identity : String} {principals : List String}
    (cleared : Cleared identity principals left.contents right.contents) :
    Cleared identity principals left right where
  thing := cleared.thing
  things := cleared.things
  named := cleared.named
  unnamed := cleared.unnamed
  rest := by
    refine eq_of_contents ?_ rfl
    exact cleared.rest

end Registry

namespace Interrupted

variable {interrupted : Interrupted Registry} {call : Call}

/-- Nothing comes in the way of a call that takes away. -/
theorem free_of_calm (calm : interrupted.meddling.IsCalm)
    (takes : call.operation.isTeardown = true) : interrupted.interruption? call.operation = none := by
  cases meets : interrupted.interruption? call.operation with
  | none => rfl
  | some interruption =>
    have spared := calm _ _ (meddling_of_interruption? meets)
    rw [takes] at spared
    cases spared

/-- A call that takes away reaches the registry, which logs it. -/
theorem calls_answer (calm : interrupted.meddling.IsCalm)
    (takes : call.operation.isTeardown = true) :
    ((plane Registry.plane).answer call interrupted).2.state.calls =
      interrupted.state.calls ++ [(call.operation, call.target)] := by
  rw [(answer_free Registry.plane (free_of_calm calm takes)).2]
  exact Registry.answer_calls interrupted.state call

end Interrupted

namespace World

/-- That the registry logs the errands between two worlds, if they take away and nothing comes in
their way. -/
def Logs (first : World (Interrupted Registry)) (seen : List Errand)
    (last : World (Interrupted Registry)) : Prop :=
  first.plane.meddling.IsCalm → (∀ errand ∈ seen, errand.IsTeardown) →
    last.plane.state.calls = first.plane.state.calls ++ seen.filterMap Errand.entry?

end World

section InMemory

variable {connect : String → Reply String}
  {launch : Launch → FileSystem → Except String Finish × FileSystem} {tag : Nat → RunTag}

theorem World.Logs.step (effect : Effect) (first : World (Interrupted Registry))
    (seen : List Errand) (last : World (Interrupted Registry))
    (rest : World.Logs ((Host.inMemory connect launch tag).handle effect first).2 seen last) :
    first.Logs ((Errand.view effect
      ((Host.inMemory connect launch tag).handle effect first).1).toList ++ seen) last := by
  intro calm takes
  have others : ∀ errand ∈ seen, errand.IsTeardown := fun errand inside =>
    takes errand (List.mem_append_right _ inside)
  cases effect with
  | call call =>
    have here := Errand.IsTeardown.of_call (takes _ List.mem_cons_self)
    have later := rest ((Interrupted.meddling_answer first.plane call).symm ▸ calm) others
    refine later.trans ?_
    rw [show ((Host.inMemory connect launch tag).handle (.call call) first).2.plane.state.calls = _
      from Interrupted.calls_answer calm here, List.append_assoc]
    rfl
  | connect region => exact rest calm others
  | file request => cases request <;> exact rest calm others
  | launch launch => exact rest calm others
  | _ => exact rest calm others

variable (connect launch tag) in
/-- **The log of a run** that takes away and in whose way nothing comes. -/
theorem logs_run {ε α : Type} (action : Action ε α) (world : World (Interrupted Registry)) :
    world.Logs (Errand.view.seen (action.historyIn (Host.inMemory connect launch tag) world))
      (action.runIn (Host.inMemory connect launch tag) world).2 :=
  Program.run_of_steps (fun _ _ _ => (List.append_nil _).symm) World.Logs.step action.program world

end InMemory

namespace Identity

open Registry

variable (connect : String → Reply String)
  (launch : Launch → FileSystem → Except String Finish × FileSystem) (tag : Nat → RunTag)

/-- The only errand of taking away a thing that is not there. -/
theorem Dismantles.of_missing {meddling : Meddling} {registry after : Registry} {identity : String}
    {seen : List Errand} {removal : Removal}
    (dismantles : Dismantles identity seen (.done removal))
    (serves : ServesAll meddling registry seen after) (calm : meddling.IsCalm)
    (missing : registry.things.get? identity = none) :
    seen = [.call (.listPrincipals identity) (.error (thingMissing identity))] ∧
      after = registry := by
  obtain ⟨reply, rest, rfl, -⟩ := dismantles.starts
  obtain ⟨middle, lists, others⟩ := servesAll_cons_call_iff.mp serves
  obtain ⟨value, rfl, -⟩ | ⟨rfl, fault, rfl, denies⟩ := lists.of_calm calm rfl
  · obtain ⟨-, -, known, found⟩ := Serves.listed lists
    cases missing.symm.trans found
  · obtain ⟨rfl, -⟩ := denies.unknownThing rfl (denies.isNotFound nofun nofun)
    generalize same : (Fate.done removal : Fate TrialError Removal) = fate at dismantles
    cases dismantles with
    | absent gone =>
      cases others
      exact ⟨rfl, rfl⟩
    | unlisted other => cases same
    | crashed crashes => exact absurd same.symm (crashes.not_done removal)

/-- **A thing that is not there**: one call says so, and nothing changes but the log. -/
theorem dismantle_missing (identity : String) (world : World (Interrupted Registry))
    (calm : world.plane.meddling.IsCalm)
    (missing : world.plane.state.things.get? identity = none) :
    ∃ last, (dismantle identity).runIn (.inMemory connect launch tag) world = (.done .absent, last) ∧
      Errand.view.seen ((dismantle identity).historyIn (.inMemory connect launch tag) world) =
        [.call (.listPrincipals identity) (.error (thingMissing identity))] ∧
      last.plane.state = world.plane.state.logged (.listPrincipals identity) ∧
      last.files = world.files := by
  obtain ⟨dismantles, serves⟩ := serves_dismantle connect launch tag identity world
  obtain ⟨removal, done⟩ := dismantles.undisturbed serves calm
  rw [done] at dismantles
  have absent := (dismantles.absent_iff serves calm.honest).mpr missing
  obtain ⟨seen, same⟩ := dismantles.of_missing serves calm missing
  have logged := logs_run connect launch tag (dismantle identity) world calm dismantles.teardown
  rw [seen] at logged
  refine ⟨_, Prod.ext (absent ▸ done) rfl, seen, eq_of_contents same logged, ?_⟩
  exact (within_dismantle ⟨fun _ _ _ => trivial, fun _ _ => trivial⟩ trivial _).files _ world

/-- **A thing that is there** goes, whatever its principals are. -/
theorem dismantle_known (identity : String) (world : World (Interrupted Registry))
    (calm : world.plane.meddling.IsCalm) {known : RegisteredThing}
    (found : world.plane.state.things.get? identity = some known) :
    ∃ last, (dismantle identity).runIn (.inMemory connect launch tag) world =
        (.done .removed, last) ∧
      Cleared identity known.principals world.plane.state last.plane.state ∧
      last.plane.state.calls = world.plane.state.calls ++ (Errand.view.seen ((dismantle
        identity).historyIn (.inMemory connect launch tag) world)).filterMap Errand.entry? ∧
      last.files = world.files := by
  obtain ⟨dismantles, serves⟩ := serves_dismantle connect launch tag identity world
  obtain ⟨removal, done⟩ := dismantles.undisturbed serves calm
  rw [done] at dismantles
  have removed : removal = .removed := by
    cases removal with
    | removed => rfl
    | absent =>
      cases found.symm.trans ((dismantles.absent_iff serves calm.honest).mp rfl)
  have principals : world.plane.state.contents.principalsOf identity = known.principals := by
    rw [principalsOf, show world.plane.state.contents.things.get? identity = some known from found]
    rfl
  refine ⟨_, Prod.ext (removed ▸ done) rfl, ?_,
    logs_run connect launch tag (dismantle identity) world calm dismantles.teardown, ?_⟩
  · refine Cleared.of_contents ?_
    rw [dismantles.serves serves calm.honest, ← principals]
    exact cleared_dismantled _ identity
  · exact (within_dismantle ⟨fun _ _ _ => trivial, fun _ _ => trivial⟩ trivial _).files _ world

/-- **Taking an identity away is complete, local and idempotent.** In whatever state the registry is,
a removal in whose way nothing comes tells whether there was such a thing. If there was none it makes
one call and leaves everything as it is. If there was, exactly the thing and the certificates that its
principals name are gone. A second removal finds nothing and changes nothing. -/
theorem dismantle_clears (identity : String) (world : World (Interrupted Registry))
    (calm : world.plane.meddling.IsCalm) :
    ∃ removal last again,
      (dismantle identity).runIn (.inMemory connect launch tag) world = (.done removal, last) ∧
      (world.plane.state.things.get? identity = none → removal = .absent ∧
        Errand.view.seen ((dismantle identity).historyIn (.inMemory connect launch tag) world) =
          [.call (.listPrincipals identity) (.error (thingMissing identity))] ∧
        last.plane.state = world.plane.state.logged (.listPrincipals identity)) ∧
      (∀ known, world.plane.state.things.get? identity = some known → removal = .removed ∧
        Cleared identity known.principals world.plane.state last.plane.state ∧
        last.plane.state.calls = world.plane.state.calls ++ (Errand.view.seen ((dismantle
          identity).historyIn (.inMemory connect launch tag) world)).filterMap Errand.entry?) ∧
      last.files = world.files ∧
      (dismantle identity).runIn (.inMemory connect launch tag) last = (.done .absent, again) ∧
      again.plane.state = last.plane.state.logged (.listPrincipals identity) ∧
      again.files = last.files := by
  -- the injections stay what they were, so nothing comes in the way of the second removal
  have later := (serves_run connect launch tag (dismantle identity) world).1
  cases found : world.plane.state.things.get? identity with
  | none =>
    obtain ⟨last, run, seen, state, files⟩ :=
      dismantle_missing connect launch tag identity world calm found
    rw [run] at later
    have gone : last.plane.state.things.get? identity = none := by
      rw [state]
      exact found
    obtain ⟨again, second, -, after, left⟩ :=
      dismantle_missing connect launch tag identity last (later ▸ calm) gone
    exact ⟨.absent, last, again, run, fun _ => ⟨rfl, seen, state⟩, nofun, files, second, after, left⟩
  | some known =>
    obtain ⟨last, run, cleared, calls, files⟩ :=
      dismantle_known connect launch tag identity world calm found
    rw [run] at later
    obtain ⟨again, second, -, after, left⟩ :=
      dismantle_missing connect launch tag identity last (later ▸ calm) cleared.thing
    refine ⟨.removed, last, again, run, nofun, fun _ same => ?_, files, second, after, left⟩
    cases same
    exact ⟨rfl, cleared, calls⟩

/-! ### A thing with principals of every kind -/

/-- A thing with a certificate that another thing has too, an inactive one, one that was deleted
before, and a principal that is no certificate. The other thing has a certificate of its own. -/
def sampleCrowd : Registry :=
  (seeded [.thing "device-a", .thing "device-b", .failing .createThing]).afterCalls
    [.createCertificate, .createCertificate, .createCertificate, .createCertificate,
      .attachPrincipal "device-a" (certificateNumber 1).arn,
      .attachPrincipal "device-a" (certificateNumber 2).arn,
      .attachPrincipal "device-a" (certificateNumber 3).arn,
      .attachPrincipal "device-a" "operator",
      .attachPrincipal "device-b" (certificateNumber 1).arn,
      .attachPrincipal "device-b" (certificateNumber 4).arn,
      .joinGroup "device-b" "fleet",
      .deactivateCertificate (certificateNumber 2).id,
      .deactivateCertificate (certificateNumber 3).id,
      .deleteCertificate (certificateNumber 3).id]

theorem reachable_sampleCrowd : Reachable sampleCrowd := (reachable_seeded _).afterCalls _

theorem calm_sampleCrowd : (attemptWorld sampleCrowd []).plane.meddling.IsCalm := by
  have sabotage : sampleCrowd.failing = [.createThing] ∧ sampleCrowd.panicking = [] := by
    decide +kernel
  rintro operation interruption (⟨injection, inside, -⟩ | ⟨fails, -⟩ | ⟨panics, -⟩)
  · cases inside
  · rw [show (attemptWorld sampleCrowd []).plane.state.failing = _ from sabotage.1] at fails
    cases List.mem_singleton.mp fails
    rfl
  · rw [show (attemptWorld sampleCrowd []).plane.state.panicking = _ from sabotage.2] at panics
    cases panics

/-- The other thing keeps its principals and its group, but not the certificate that both had. -/
theorem dismantle_clears_crowd :
    Reachable sampleCrowd ∧
      ∃ last again, sampleAttempt sampleCrowd [] = (.done .removed, last) ∧
        last.plane.state.things.get? "device-b" =
          some ⟨[(certificateNumber 1).arn, (certificateNumber 4).arn], ["fleet"]⟩ ∧
        last.plane.state.certificates.get? (certificateNumber 1).id = none ∧
        last.plane.state.certificates.get? (certificateNumber 2).id = none ∧
        last.plane.state.certificates.get? (certificateNumber 4).id =
          some ⟨(certificateNumber 4).arn, true, []⟩ ∧
        (dismantle "device-a").runIn attemptHost last = (.done .absent, again) ∧
        again.plane.state.contents = last.plane.state.contents := by
  obtain ⟨removal, last, again, run, -, known, -, second, after, -⟩ :=
    dismantle_clears .ok (fun _ files => (.error "", files)) (fun _ => ⟨"a", isTag_a⟩) "device-a"
      (attemptWorld sampleCrowd []) calm_sampleCrowd
  have registered : sampleCrowd.things.get? "device-a" = some ⟨[(certificateNumber 1).arn,
      (certificateNumber 2).arn, (certificateNumber 3).arn, "operator"], []⟩ := by
    decide +kernel
  have other : sampleCrowd.things.get? "device-b" =
      some ⟨[(certificateNumber 1).arn, (certificateNumber 4).arn], ["fleet"]⟩ := by
    decide +kernel
  have own : sampleCrowd.certificates.get? (certificateNumber 4).id =
      some ⟨(certificateNumber 4).arn, true, []⟩ := by
    decide +kernel
  have unnamed : ∀ principal ∈ [(certificateNumber 1).arn, (certificateNumber 2).arn,
      (certificateNumber 3).arn, "operator"],
      certificateOf? principal ≠ some (certificateNumber 4).id := by
    decide +kernel
  obtain ⟨rfl, cleared, -⟩ := known _ registered
  refine ⟨reachable_sampleCrowd, last, again, run, ?_, ?_, ?_, ?_, second, ?_⟩
  · exact (cleared.things "device-b" (by decide)).trans other
  · exact cleared.named _ List.mem_cons_self _ (certificateOf?_arnOf (isEmpty_certificateId 1))
  · exact cleared.named _ (List.mem_cons_of_mem _ List.mem_cons_self) _
      (certificateOf?_arnOf (isEmpty_certificateId 2))
  · exact (cleared.unnamed _ unnamed).trans own
  · rw [after]
    rfl

end Identity

end DeviceTrial
