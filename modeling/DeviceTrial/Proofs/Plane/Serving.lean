/-
**What errands do to the control plane in memory.**

A call does its work, is refused, or is meddled with: made to fail, to break down, or never to come
back. Only a call that does its work changes anything, apart from the log of calls. `ServesAll` says
this of a list of errands, and every run against a registry is one.

* `step_contents` — the log has no influence on what a call does;
* `serves_answer` — every answer of a registry with interruptions;
* `serves_run` — **every run**, from the world before to the world after it;
* `exists_moment_of_call` — every call of a run, with the registry that it meets;
* `ServesAll.of_breaks` — what breaks off a script leaves what a part of the script leaves.
-/

import DeviceTrial.Plane.Interruption
import DeviceTrial.Proofs.Plane.Steps
import DeviceTrial.Proofs.Run.Errand

namespace DeviceTrial

/-- What may come in the way of calls. -/
abbrev Meddling := Operation → Interruption → Prop

/-- That every call comes back. -/
def Meddling.NeverHangs (meddling : Meddling) : Prop := ∀ operation, ¬ meddling operation .hang

namespace Registry

/-- A registry without its log. -/
def contents (registry : Registry) : Registry := { registry with calls := [] }

/-- The log has no influence on what a call does. -/
theorem step_contents (registry : Registry) (call : Call) :
    registry.contents.step call =
      (registry.step call).map fun done => (done.1, done.2.contents) := by
  cases call with
  | createThing thing | describeThing thing =>
    by_cases known : registry.things.contains thing = true <;>
      simp [step, contents, known, Except.map]
  | _ =>
    simp only [step, changeThing, contents, certificateWithArn?]
    repeat' split
    all_goals rfl

theorem contents_logged (registry : Registry) (call : Call) :
    (registry.logged call).contents = registry.contents := rfl

/-- What becomes of one call: its reply, and the contents of the registry after it. -/
inductive Serves (meddling : Meddling) (registry : Registry) :
    (call : Call) → Reply call.Answer → Registry → Prop where
  /-- It does its work. -/
  | done {call : Call} {value : call.Answer} {after : Registry}
      (works : registry.step call = .ok (value, after)) :
    Serves meddling registry call (.ok value) after
  /-- It is refused. -/
  | refused {call : Call} {fault : PlaneError} (refuses : registry.step call = .error fault) :
    Serves meddling registry call (.error fault) registry
  /-- Something comes in its way. -/
  | meddled {call : Call} {interruption : Interruption}
      (meddles : meddling call.operation interruption) :
    Serves meddling registry call interruption.reply registry

/-- What becomes of errands, one after the other. -/
inductive ServesAll (meddling : Meddling) : Registry → List Errand → Registry → Prop where
  | nil (registry : Registry) : ServesAll meddling registry [] registry
  | call {first middle last : Registry} {call : Call} {reply : Reply call.Answer}
      {seen : List Errand} (serves : Serves meddling first call reply middle)
      (rest : ServesAll meddling middle seen last) :
    ServesAll meddling first (.call call reply :: seen) last
  | other {first last : Registry} {errand : Errand} {seen : List Errand}
      (silent : errand.operation? = none) (rest : ServesAll meddling first seen last) :
    ServesAll meddling first (errand :: seen) last

variable {meddling : Meddling} {first middle last : Registry} {seen script : List Errand}

theorem servesAll_append_iff {front rest : List Errand} :
    ServesAll meddling first (front ++ rest) last ↔
      ∃ middle, ServesAll meddling first front middle ∧ ServesAll meddling middle rest last := by
  constructor
  · intro serves
    induction front generalizing first with
    | nil => exact ⟨first, .nil first, serves⟩
    | cons errand front step =>
      cases serves with
      | call one others =>
        obtain ⟨middle, two, three⟩ := step others
        exact ⟨middle, .call one two, three⟩
      | other silent others =>
        obtain ⟨middle, two, three⟩ := step others
        exact ⟨middle, .other silent two, three⟩
  · rintro ⟨middle, one, two⟩
    induction one with
    | nil registry => exact two
    | call serves rest step => exact .call serves (step two)
    | other silent rest step => exact .other silent (step two)

theorem servesAll_cons_call_iff {call : Call} {reply : Reply call.Answer} :
    ServesAll meddling first (.call call reply :: seen) last ↔
      ∃ middle, Serves meddling first call reply middle ∧ ServesAll meddling middle seen last := by
  constructor
  · rintro (_ | ⟨serves, rest⟩ | ⟨silent, rest⟩)
    · exact ⟨_, serves, rest⟩
    · cases silent
  · rintro ⟨middle, serves, rest⟩
    exact .call serves rest

theorem Serves.works {call : Call} {value : call.Answer}
    (serves : Serves meddling first call (.ok value) last) :
    first.step call = .ok (value, last) := by
  generalize same : (Reply.ok value : Reply call.Answer) = reply at serves
  cases serves with
  | done works => cases same; exact works
  | refused refuses => cases same
  | @meddled interruption meddles => cases interruption <;> cases same

theorem Serves.fulfils {call : Call} {value : call.Answer}
    (serves : Serves meddling first call (.ok value) last) : first.Fulfils call value last :=
  step_eq_ok_iff.mp serves.works

/-! ### What changes nothing -/

theorem Serves.of_not_ok {call : Call} {reply : Reply call.Answer}
    (serves : Serves meddling first call reply last) (bad : ¬ reply.IsOk) : last = first := by
  cases serves with
  | done works => exact absurd ⟨_, rfl⟩ bad
  | refused refuses => rfl
  | meddled meddles => rfl

theorem step_of_reading {registry after : Registry} {call : Call} {value : call.Answer}
    (reads : call.operation.isReading = true) (works : registry.step call = .ok (value, after)) :
    after = registry := by
  cases step_eq_ok_iff.mp works <;> first | rfl | cases reads

theorem Serves.of_reading {call : Call} {reply : Reply call.Answer}
    (serves : Serves meddling first call reply last) (reads : call.operation.isReading = true) :
    last = first := by
  cases serves with
  | done works => exact step_of_reading reads works
  | refused refuses => rfl
  | meddled meddles => rfl

/-- Errands that only look at the control plane leave it as it is. -/
theorem ServesAll.of_reading (serves : ServesAll meddling first seen last)
    (reading : ∀ errand ∈ seen, errand.IsReading) : last = first := by
  induction serves with
  | nil registry => rfl
  | call serves rest step =>
    have here := reading _ List.mem_cons_self
    rw [step fun errand inside => reading errand (List.mem_cons_of_mem _ inside)]
    exact serves.of_reading ((Errand.isReading_call_iff _ _).mp here)
  | other silent rest step =>
    exact step fun errand inside => reading errand (List.mem_cons_of_mem _ inside)

/-- **What breaks off a script leaves what a part of the script leaves.** -/
theorem ServesAll.of_breaks (serves : ServesAll meddling first seen last)
    (breaks : Errand.Breaks seen script) :
    ∃ front failed meant rest, seen = front ++ [failed] ∧ script = front ++ meant :: rest ∧
      failed.effect = meant.effect ∧ ¬ failed.Succeeds ∧ ServesAll meddling first front last := by
  induction breaks generalizing first with
  | @here failed meant rest same fails =>
    refine ⟨[], failed, meant, rest, rfl, rfl, same, fails, ?_⟩
    cases serves with
    | call serves none =>
      cases none
      rw [serves.of_not_ok fails]
      exact .nil _
    | other silent none =>
      cases none
      exact .nil _
  | later errand breaks step =>
    cases serves with
    | call serves rest =>
      obtain ⟨front, failed, meant, more, rfl, rfl, same, fails, others⟩ := step rest
      exact ⟨_ :: front, failed, meant, more, rfl, rfl, same, fails, .call serves others⟩
    | other silent rest =>
      obtain ⟨front, failed, meant, more, rfl, rfl, same, fails, others⟩ := step rest
      exact ⟨_ :: front, failed, meant, more, rfl, rfl, same, fails, .other silent others⟩

/-! ### What is read -/

theorem Serves.described {thing : String} {known : Thing}
    (serves : Serves meddling first (.describeThing thing) (.ok known) last) :
    ∃ registered, first.things.get? thing = some registered := by
  cases serves.fulfils with
  | thingDescribed registered => exact ⟨_, registered⟩

theorem Serves.told {name value : String}
    (serves : Serves meddling first (.getSecret name) (.ok value) last) :
    first.secrets.get? name = some value := by
  cases serves.fulfils with
  | secretRead kept => exact kept

theorem Serves.executed {job thing : String} {execution : Option JobExecution}
    (serves : Serves meddling first (.describeJob job thing) (.ok execution) last) :
    first.jobs.get? (job, thing) = execution := by
  cases serves.fulfils with
  | jobDescribed => rfl

theorem Serves.fetched {thing : String} {shadow : Option String} {payload : ByteArray}
    (serves : Serves meddling first (.fetchShadow thing shadow) (.ok payload) last) :
    first.shadows.get? (thing, shadow) = some payload := by
  cases serves.fulfils with
  | shadowFetched kept => exact kept

/-! ### Certificates that are made -/

theorem step_issued {registry after : Registry} {call : Call} {value : call.Answer}
    (works : registry.step call = .ok (value, after)) : registry.issued ≤ after.issued := by
  cases step_eq_ok_iff.mp works with
  | certificateMade => exact Nat.le_succ _
  | _ => exact Nat.le_refl _

theorem Serves.issued {call : Call} {reply : Reply call.Answer}
    (serves : Serves meddling first call reply last) : first.issued ≤ last.issued := by
  cases serves with
  | done works => exact step_issued works
  | refused refuses => exact Nat.le_refl _
  | meddled meddles => exact Nat.le_refl _

theorem Serves.created {certificate : Certificate}
    (serves : Serves meddling first .createCertificate (.ok certificate) last) :
    certificate = certificateNumber (first.issued + 1) ∧ last.issued = first.issued + 1 := by
  cases serves.fulfils with
  | certificateMade => exact ⟨rfl, rfl⟩

theorem ServesAll.issued (serves : ServesAll meddling first seen last) :
    first.issued ≤ last.issued := by
  induction serves with
  | nil registry => exact Nat.le_refl _
  | call serves rest step => exact Nat.le_trans serves.issued step
  | other silent rest step => exact step

/-- The certificates of a run are numbered one after the other. -/
theorem ServesAll.created (serves : ServesAll meddling first seen last) {certificate : Certificate}
    (made : .call .createCertificate (.ok certificate) ∈ seen) :
    ∃ n, first.issued < n ∧ n ≤ last.issued ∧ certificate = certificateNumber n := by
  induction serves with
  | nil registry => nomatch made
  | call serves rest step =>
    rcases List.mem_cons.mp made with same | later
    · cases same
      obtain ⟨rfl, next⟩ := Serves.created serves
      have small := rest.issued
      rw [next] at small
      exact ⟨_, Nat.lt_succ_self _, small, rfl⟩
    · obtain ⟨n, large, small, same⟩ := step later
      exact ⟨n, Nat.lt_of_le_of_lt serves.issued large, small, same⟩
  | other silent rest step =>
    rcases List.mem_cons.mp made with rfl | later
    · cases silent
    · exact step later

/-- A call under which the control plane crashes was meddled with. -/
theorem ServesAll.meddled (serves : ServesAll meddling first seen last) {call : Call}
    {reply : Reply call.Answer} (crash : reply.IsCrash) (made : .call call reply ∈ seen) :
    ∃ interruption, meddling call.operation interruption ∧ reply = interruption.reply := by
  induction serves with
  | nil registry => nomatch made
  | call serves rest step =>
    rcases List.mem_cons.mp made with same | later
    · cases same
      cases serves with
      | done works => cases crash
      | refused refuses => cases crash
      | meddled meddles => exact ⟨_, meddles, rfl⟩
    · exact step later
  | other silent rest step =>
    rcases List.mem_cons.mp made with rfl | later
    · cases silent
    · exact step later

theorem ServesAll.comes_back (serves : ServesAll meddling first seen last)
    (returns : meddling.NeverHangs) (call : Call) : .call call .hang ∉ seen := by
  intro hangs
  obtain ⟨interruption, meddles, same⟩ := serves.meddled .hang hangs
  cases interruption with
  | hang => exact returns _ meddles
  | _ => cases same

end Registry

/-! ### Runs -/

/-- What becomes of one call to a registry without interruptions. -/
theorem Registry.serves_answer {registry : Registry} {meddling : Meddling}
    (own : ∀ operation interruption,
      (operation ∈ registry.failing ∧ ∃ reason, interruption = .fault (.refused "mock" reason)) ∨
        (operation ∈ registry.panicking ∧ ∃ message, interruption = .panic message) →
      meddling operation interruption) (call : Call) :
    Serves meddling registry.contents call (answer call registry).1
      (answer call registry).2.contents := by
  have step := step_contents (registry.logged call) call
  rw [contents_logged] at step
  have handles := handles_answer registry call
  generalize (answer call registry).1 = reply, (answer call registry).2 = after at handles ⊢
  cases handles with
  | broken breaks => exact .meddled (own _ (.panic _) (.inr ⟨breaks, _, rfl⟩))
  | failed unbroken fails => exact .meddled (own _ (.fault _) (.inl ⟨fails, _, rfl⟩))
  | done unbroken unfailing fulfils =>
    rw [fulfils.step_eq] at step
    exact .done step
  | denied unbroken unfailing denies =>
    rw [denies.step_eq] at step
    exact .refused step

/-- No call changes which operations fail and which break down. -/
theorem Registry.answer_sabotage (registry : Registry) (call : Call) :
    (answer call registry).2.failing = registry.failing ∧
      (answer call registry).2.panicking = registry.panicking := by
  have handles := handles_answer registry call
  generalize (answer call registry).1 = reply, (answer call registry).2 = after at handles ⊢
  cases handles with
  | done unbroken unfailing fulfils => cases fulfils <;> exact ⟨rfl, rfl⟩
  | _ => exact ⟨rfl, rfl⟩

namespace Interrupted

/-- What may come in the way of calls to a registry with interruptions. -/
def meddling (interrupted : Interrupted Registry) : Meddling := fun operation interruption =>
  (∃ injection ∈ interrupted.injections, injection.operation = operation ∧
    injection.interruption = interruption) ∨
  (operation ∈ interrupted.state.failing ∧
    ∃ reason, interruption = .fault (.refused "mock" reason)) ∨
  operation ∈ interrupted.state.panicking ∧ ∃ message, interruption = .panic message

/-- An interruption that a call meets was asked for. -/
theorem meddling_of_interruption? {interrupted : Interrupted Registry} {operation : Operation}
    {interruption : Interruption}
    (meets : interrupted.interruption? operation = some interruption) :
    interrupted.meddling operation interruption := by
  obtain ⟨injection, found, rfl⟩ := Option.map_eq_some_iff.mp meets
  have applies := List.find?_some found
  rw [Injection.appliesTo, Bool.and_eq_true, beq_iff_eq] at applies
  exact .inl ⟨injection, List.mem_of_find?_eq_some found, applies.1, rfl⟩

/-- **What becomes of one call.** -/
theorem serves_answer (interrupted : Interrupted Registry) (call : Call) :
    Registry.Serves interrupted.meddling interrupted.state.contents call
      ((plane Registry.plane).answer call interrupted).1
      ((plane Registry.plane).answer call interrupted).2.state.contents := by
  cases meets : interrupted.interruption? call.operation with
  | some interruption =>
    obtain ⟨reply, state⟩ := answer_interrupted Registry.plane meets
    rw [reply, state]
    exact .meddled (meddling_of_interruption? meets)
  | none =>
    obtain ⟨reply, state⟩ := answer_free Registry.plane meets
    rw [reply, state]
    exact Registry.serves_answer (fun _ _ => .inr) call

/-- What may come in the way of calls is always the same. -/
theorem meddling_answer (interrupted : Interrupted Registry) (call : Call) :
    ((plane Registry.plane).answer call interrupted).2.meddling = interrupted.meddling := by
  have injections : ((plane Registry.plane).answer call interrupted).2.injections =
      interrupted.injections := by
    cases meets : interrupted.interruption? call.operation <;> simp [plane, meets, counted]
  have sabotage : ((plane Registry.plane).answer call interrupted).2.state.failing =
        interrupted.state.failing ∧
      ((plane Registry.plane).answer call interrupted).2.state.panicking =
        interrupted.state.panicking := by
    cases meets : interrupted.interruption? call.operation with
    | some interruption =>
      rw [(answer_interrupted Registry.plane meets).2]
      exact ⟨rfl, rfl⟩
    | none =>
      rw [(answer_free Registry.plane meets).2]
      exact Registry.answer_sabotage interrupted.state call
  unfold meddling
  rw [injections, sabotage.1, sabotage.2]

end Interrupted

/-- A host with a control plane in memory. -/
def Host.inMemory (connect : String → Reply String)
    (launch : Launch → FileSystem → Except String Finish × FileSystem) (tag : Nat → RunTag) :
    Host (Interrupted Registry) where
  plane := Interrupted.plane Registry.plane
  connect region state := (connect region, state)
  launch := launch
  tag := tag

/-- That errands lead from one world to another. -/
def World.Serves (first : World (Interrupted Registry)) (seen : List Errand)
    (last : World (Interrupted Registry)) : Prop :=
  last.plane.meddling = first.plane.meddling ∧
    Registry.ServesAll first.plane.meddling first.plane.state.contents seen
      last.plane.state.contents

section InMemory

variable {connect : String → Reply String}
  {launch : Launch → FileSystem → Except String Finish × FileSystem} {tag : Nat → RunTag}

theorem World.Serves.step (effect : Effect) (first : World (Interrupted Registry))
    (seen : List Errand) (last : World (Interrupted Registry))
    (rest : World.Serves ((Host.inMemory connect launch tag).handle effect first).2 seen last) :
    first.Serves ((Errand.view effect
      ((Host.inMemory connect launch tag).handle effect first).1).toList ++ seen) last := by
  cases effect with
  | call call =>
    have kept := Interrupted.meddling_answer first.plane call
    refine ⟨rest.1.trans kept, .call (Interrupted.serves_answer first.plane call) ?_⟩
    rw [← kept]
    exact rest.2
  | connect region => exact ⟨rest.1, .other rfl rest.2⟩
  | file request =>
    cases request with
    | read path => exact ⟨rest.1, .other rfl rest.2⟩
    | _ => exact rest
  | launch launch => exact ⟨rest.1, .other rfl rest.2⟩
  | _ => exact rest

variable (connect launch tag) in
/-- **Every run against a registry.** -/
theorem serves_run {ε α : Type} (action : Action ε α) (world : World (Interrupted Registry)) :
    world.Serves (Errand.view.seen (action.historyIn (Host.inMemory connect launch tag) world))
      (action.runIn (Host.inMemory connect launch tag) world).2 :=
  Program.run_of_steps (fun _ => ⟨rfl, .nil _⟩) World.Serves.step action.program world

/-- **Every call of a run**: the registry that it meets, and what becomes of it. -/
theorem exists_moment_of_call {ε α : Type} {action : Action ε α}
    {world : World (Interrupted Registry)} {call : Call} {reply : Reply call.Answer}
    {first rest : List Errand}
    (split : Errand.view.seen (action.historyIn (Host.inMemory connect launch tag) world) =
      first ++ .call call reply :: rest) :
    ∃ moment ∈ action.historyIn (Host.inMemory connect launch tag) world,
      moment.effect = .call call ∧
      Registry.ServesAll world.plane.meddling world.plane.state.contents first
        moment.before.plane.state.contents ∧
      ∃ after, Registry.Serves world.plane.meddling moment.before.plane.state.contents call reply
        after := by
  obtain ⟨earlier, ⟨before, effect, answer⟩, later, moments, rfl, here⟩ :=
    Program.exists_moment_of_seen split
  have serves : world.Serves (Errand.view.seen earlier) before :=
    Program.moment_of_steps (fun _ => ⟨rfl, .nil _⟩) World.Serves.step action.program moments
  have inside : ⟨before, effect, answer⟩ ∈
      action.historyIn (Host.inMemory connect launch tag) world := by
    rw [moments]
    simp
  have answered := Program.answer_of_mem_history inside
  cases effect with
  | call other =>
    cases here
    have served := Interrupted.serves_answer before.plane call
    rw [serves.1] at served
    dsimp only at answered
    subst answered
    exact ⟨_, inside, rfl, serves.2, _, served⟩
  | file request => cases request <;> cases here
  | _ => cases here

end InMemory

end DeviceTrial
