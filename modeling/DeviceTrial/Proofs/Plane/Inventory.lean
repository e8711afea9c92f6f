/-
**What there is before and after an action.**

Calls and files can tell of a world what its registry holds, the log apart, and what its files hold.
`Leads` follows an action from one such inventory to another: one action after the other leads first
here and then there, what is only told leads nowhere, and a call that can be made to fail and cannot
break down does its work or is a failure that changes nothing.

* `Leads.bind`, `Leads.mapError`, `Leads.attempt` — actions put together from others;
* `Leads.call` — **one call**, with what it does to the registry.
-/

import DeviceTrial.Proofs.Plane.Serving
import DeviceTrial.Proofs.Run.Ending

namespace DeviceTrial

/-- What there is in a world as calls and files can tell. -/
structure Inventory where
  /-- What the registry holds, without its log. -/
  registry : Registry
  /-- The files. -/
  files : FileSystem

/-- What there is in a world. -/
def World.inventory (world : World (Interrupted Registry)) : Inventory :=
  ⟨world.plane.state.contents, world.files⟩

namespace Meddling

/-- That calls of an operation are made to fail, if anything comes in their way. -/
def FailsAt (meddling : Meddling) (operation : Operation) : Prop :=
  ∀ interruption, meddling operation interruption → ∃ fault, interruption = .fault fault

/-- That nothing comes in the way of the calls of an operation. -/
def Spares (meddling : Meddling) (operation : Operation) : Prop :=
  ∀ interruption, ¬ meddling operation interruption

theorem Spares.failsAt {meddling : Meddling} {operation : Operation}
    (spares : meddling.Spares operation) : meddling.FailsAt operation :=
  fun interruption meddles => absurd meddles (spares interruption)

end Meddling

namespace Registry

/-- That a call can fail: it is made to, or the registry refuses it. -/
def Rejects (meddling : Meddling) (registry : Registry) (call : Call) (fault : PlaneError) : Prop :=
  meddling call.operation (.fault fault) ∨ registry.step call = .error fault

variable {meddling : Meddling} {registry after : Registry} {call : Call}

/-- A call that cannot break down does its work or fails, and then nothing has changed. -/
theorem Serves.works_or_rejects {reply : Reply call.Answer}
    (serves : Serves meddling registry call reply after)
    (fails : meddling.FailsAt call.operation) :
    (∃ value, reply = .ok value ∧ registry.step call = .ok (value, after)) ∨
      ∃ fault, reply = .error fault ∧ registry.Rejects meddling call fault ∧ after = registry := by
  cases serves with
  | done works => exact .inl ⟨_, rfl, works⟩
  | refused refuses => exact .inr ⟨_, rfl, .inr refuses, rfl⟩
  | meddled meddles =>
    obtain ⟨fault, rfl⟩ := fails _ meddles
    exact .inr ⟨fault, rfl, .inl meddles, rfl⟩

end Registry

namespace Action

variable {ε δ α β : Type} {meddling : Meddling} {first last : Inventory}

/-- That an action leads from one inventory to another and comes out so, under what may come in the
way of its calls. -/
def Leads (meddling : Meddling) (action : Action ε α) (first : Inventory) (fate : Fate ε α)
    (last : Inventory) : Prop :=
  ∃ connect launch tag, ∃ world : World (Interrupted Registry),
    world.plane.meddling = meddling ∧ world.inventory = first ∧
      (action.runIn (.inMemory connect launch tag) world).1 = fate ∧
      (action.runIn (.inMemory connect launch tag) world).2.inventory = last

/-- Every run leads somewhere. -/
theorem leads_runIn (connect : String → Reply String)
    (launch : Launch → FileSystem → Except String Finish × FileSystem) (tag : Nat → RunTag)
    (action : Action ε α) (world : World (Interrupted Registry)) :
    action.Leads world.plane.meddling world.inventory
      (action.runIn (.inMemory connect launch tag) world).1
      (action.runIn (.inMemory connect launch tag) world).2.inventory :=
  ⟨connect, launch, tag, world, rfl, rfl, rfl, rfl⟩

namespace Leads

theorem pure {value : α} {fate : Fate ε α}
    (leads : (Pure.pure value : Action ε α).Leads meddling first fate last) :
    fate = .done value ∧ last = first := by
  obtain ⟨connect, launch, tag, world, rfl, rfl, rfl, rfl⟩ := leads
  exact ⟨rfl, rfl⟩

theorem fail {fault : ε} {fate : Fate ε α}
    (leads : (Action.fail fault : Action ε α).Leads meddling first fate last) :
    fate = .failed fault ∧ last = first := by
  obtain ⟨connect, launch, tag, world, rfl, rfl, rfl, rfl⟩ := leads
  exact ⟨rfl, rfl⟩

/-- **One action after the other** leads first here and then there. -/
theorem bind {action : Action ε α} {next : α → Action ε β} {fate : Fate ε β}
    (leads : (action >>= next).Leads meddling first fate last) :
    ∃ stop middle, action.Leads meddling first stop middle ∧
      (stop.onward next).Leads meddling middle fate last := by
  obtain ⟨connect, launch, tag, world, rfl, rfl, rfl, rfl⟩ := leads
  refine ⟨_, _, leads_runIn connect launch tag action world, connect, launch, tag, _,
    (serves_run connect launch tag action world).1, rfl, ?_, ?_⟩
  · rw [runIn_bind]
  · rw [runIn_bind]

theorem mapError {action : Action ε α} {change : ε → δ} {fate : Fate δ α}
    (leads : (action.mapError change).Leads meddling first fate last) :
    ∃ inner, action.Leads meddling first inner last ∧ fate = inner.mapError change := by
  obtain ⟨connect, launch, tag, world, rfl, rfl, rfl, rfl⟩ := leads
  rw [runIn_mapError]
  exact ⟨_, leads_runIn connect launch tag action world, rfl⟩

theorem attempt {action : Action ε α} {fate : Fate δ (Except ε α)}
    (leads : (action.attempt : Action δ (Except ε α)).Leads meddling first fate last) :
    ∃ inner, action.Leads meddling first inner last ∧ fate = inner.attempted := by
  obtain ⟨connect, launch, tag, world, rfl, rfl, rfl, rfl⟩ := leads
  rw [runIn_attempt]
  exact ⟨_, leads_runIn connect launch tag action world, rfl⟩

/-- What is logged leads nowhere. -/
theorem log {level : Level} {source : Source} {message : String} {fields : List (String × String)}
    {fate : Fate ε Unit}
    (leads : (Action.log level source message fields).Leads meddling first fate last) :
    fate = .done () ∧ last = first := by
  obtain ⟨connect, launch, tag, world, rfl, rfl, rfl, rfl⟩ := leads
  exact ⟨rfl, rfl⟩

/-- What is recorded leads nowhere. -/
theorem record {sample : Sample} {fate : Fate ε Unit}
    (leads : (Action.record sample).Leads meddling first fate last) :
    fate = .done () ∧ last = first := by
  obtain ⟨connect, launch, tag, world, rfl, rfl, rfl, rfl⟩ := leads
  exact ⟨rfl, rfl⟩

theorem log_bind {level : Level} {source : Source} {message : String}
    {fields : List (String × String)} {next : Unit → Action ε β} {fate : Fate ε β}
    (leads : (Action.log level source message fields >>= next).Leads meddling first fate last) :
    (next ()).Leads meddling first fate last := by
  obtain ⟨stop, middle, told, onward⟩ := leads.bind
  obtain ⟨rfl, rfl⟩ := told.log
  exact onward

theorem record_bind {sample : Sample} {next : Unit → Action ε β} {fate : Fate ε β}
    (leads : (Action.record sample >>= next).Leads meddling first fate last) :
    (next ()).Leads meddling first fate last := by
  obtain ⟨stop, middle, told, onward⟩ := leads.bind
  obtain ⟨rfl, rfl⟩ := told.record
  exact onward

/-- **One call** that cannot break down. -/
theorem call {call : Call} {fate : Fate PlaneError call.Answer}
    (leads : (Action.call call).Leads meddling first fate last)
    (fails : meddling.FailsAt call.operation) :
    (∃ value, fate = .done value ∧ first.registry.step call = .ok (value, last.registry) ∧
        last.files = first.files) ∨
      ∃ fault, fate = .failed fault ∧ first.registry.Rejects meddling call fault ∧
        last = first := by
  obtain ⟨connect, launch, tag, world, rfl, rfl, rfl, rfl⟩ := leads
  have serves := Interrupted.serves_answer world.plane call
  rw [runIn_call]
  dsimp only [Host.handle, Host.inMemory]
  obtain ⟨value, reply, works⟩ | ⟨fault, reply, rejects, same⟩ := serves.works_or_rejects fails
  · rw [reply]
    exact .inl ⟨value, rfl, works, rfl⟩
  · rw [reply]
    refine .inr ⟨fault, rfl, rejects, ?_⟩
    rw [World.inventory, World.inventory, same]

/-- A call that does its work unless it is made to fail. -/
theorem call_of_works {call : Call} {fate : Fate PlaneError call.Answer} {value : call.Answer}
    {after : Registry} (leads : (Action.call call).Leads meddling first fate last)
    (fails : meddling.FailsAt call.operation)
    (works : first.registry.step call = .ok (value, after)) :
    (fate = .done value ∧ last = ⟨after, first.files⟩) ∨
      ∃ fault, meddling call.operation (.fault fault) ∧ fate = .failed fault ∧ last = first := by
  obtain ⟨other, rfl, worked, files⟩ | ⟨fault, rfl, meddles | refuses, same⟩ := leads.call fails
  · obtain ⟨rfl, same⟩ := Prod.mk.inj (Except.ok.inj (works.symm.trans worked))
    rw [same, ← files]
    exact .inl ⟨rfl, rfl⟩
  · exact .inr ⟨fault, meddles, rfl, same⟩
  · cases works.symm.trans refuses

/-- A call that does its work, as nothing comes in its way. -/
theorem call_of_spared {call : Call} {fate : Fate PlaneError call.Answer} {value : call.Answer}
    {after : Registry} (leads : (Action.call call).Leads meddling first fate last)
    (spares : meddling.Spares call.operation)
    (works : first.registry.step call = .ok (value, after)) :
    fate = .done value ∧ last = ⟨after, first.files⟩ := by
  obtain done | ⟨fault, meddles, -⟩ := leads.call_of_works spares.failsAt works
  · exact done
  · exact absurd meddles (spares _)

end Leads

end Action

end DeviceTrial
