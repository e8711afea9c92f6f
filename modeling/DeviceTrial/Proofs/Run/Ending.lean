/-
**When a run ends with a value.**

An action that goes on after another one ends with a value when both do, and changing what an action
fails with does not change its value. So a preparation in many steps comes to its end when each of the
steps does.

* `runIn_bind_eq_done_iff`, `runIn_bind_eq_failed_iff` — one action after the other;
* `runIn_mapError` — an action that fails with something else;
* `runIn_bind_pure` — an action of whose value something is made;
* `runIn_ofExcept` — an outcome that is known already;
* `Silent.runIn` — an action that only tells;
* `Steady.runIn` — an action that asks for effects of a kind and comes back, whatever it is answered.
-/

import DeviceTrial.Proofs.Run.Confinement
import DeviceTrial.Proofs.Run.Silence

namespace DeviceTrial

/-- How an action comes out whose outcome is known. -/
def Fate.ofExcept {ε α : Type} : Except ε α → Fate ε α
  | .ok value => .done value
  | .error fault => .failed fault

namespace Fate

variable {ε δ α : Type}

@[simp] theorem ofExcept_eq_done_iff (outcome : Except ε α) (value : α) :
    ofExcept outcome = .done value ↔ outcome = .ok value := by
  cases outcome <;> simp [ofExcept]

@[simp] theorem mapError_eq_done_iff (fate : Fate ε α) (change : ε → δ) (value : α) :
    fate.mapError change = .done value ↔ fate = .done value := by
  cases fate <;> simp [mapError]

@[simp] theorem ofExcept_eq_failed_iff (outcome : Except ε α) (fault : ε) :
    ofExcept outcome = .failed fault ↔ outcome = .error fault := by
  cases outcome <;> simp [ofExcept]

@[simp] theorem mapError_eq_failed_iff (fate : Fate ε α) (change : ε → δ) (fault : δ) :
    fate.mapError change = .failed fault ↔ ∃ inner, fate = .failed inner ∧ fault = change inner := by
  cases fate <;> simp [mapError, eq_comm]

/-- Whether an action gave a value. -/
def isDone : Fate ε α → Bool
  | .done _ => true
  | _ => false

theorem isDone_iff (fate : Fate ε α) : fate.isDone = true ↔ ∃ value, fate = .done value := by
  cases fate <;> simp [isDone]

end Fate

namespace Action

variable {ε δ α β σ : Type}

/-- **One action after the other** ends with a value when both do. -/
theorem runIn_bind_eq_done_iff (host : Host σ) (action : Action ε α) (next : α → Action ε β)
    (world : World σ) (last : β) :
    ((action >>= next).runIn host world).1 = .done last ↔
      ∃ value, (action.runIn host world).1 = .done value ∧
        ((next value).runIn host (action.runIn host world).2).1 = .done last := by
  constructor
  · intro ends
    obtain ⟨value, first, same, -⟩ := runIn_bind_done ends
    exact ⟨value, first, same ▸ ends⟩
  · rintro ⟨value, first, second⟩
    rw [runIn_bind, first]
    exact second

/-- **One action after the other** fails when the first does, or else the second. -/
theorem runIn_bind_eq_failed_iff (host : Host σ) (action : Action ε α) (next : α → Action ε β)
    (world : World σ) (fault : ε) :
    ((action >>= next).runIn host world).1 = .failed fault ↔
      (action.runIn host world).1 = .failed fault ∨
        ∃ value, (action.runIn host world).1 = .done value ∧
          ((next value).runIn host (action.runIn host world).2).1 = .failed fault := by
  rw [runIn_bind]
  cases (action.runIn host world).1 with
  | done value => simp [Fate.onward]
  | failed other =>
    show Fate.failed other = .failed fault ↔ _
    simp
  | panicked message => exact iff_of_false nofun (by simp)
  | hung => exact iff_of_false nofun (by simp)

/-- What comes after an action that gave a value. -/
theorem runIn_bind_of_done {host : Host σ} {action : Action ε α} {world : World σ} {value : α}
    (first : (action.runIn host world).1 = .done value) (next : α → Action ε β) :
    (action >>= next).runIn host world = (next value).runIn host (action.runIn host world).2 := by
  rw [runIn_bind, first]
  rfl

/-- Nothing comes after an action that failed. -/
theorem runIn_bind_of_failed {host : Host σ} {action : Action ε α} {world : World σ} {fault : ε}
    (first : (action.runIn host world).1 = .failed fault) (next : α → Action ε β) :
    (action >>= next).runIn host world = (.failed fault, (action.runIn host world).2) := by
  rw [runIn_bind, first]
  rfl

theorem runIn_pure (host : Host σ) (value : α) (world : World σ) :
    (pure value : Action ε α).runIn host world = (.done value, world) := rfl

theorem runIn_mapError (host : Host σ) (change : ε → δ) (action : Action ε α) (world : World σ) :
    (action.mapError change).runIn host world =
      ((action.runIn host world).1.mapError change, (action.runIn host world).2) :=
  runIn_of_eq_bind (mapError_eq_bind change action) host world

theorem runIn_ofExcept (host : Host σ) (outcome : Except ε α) (world : World σ) :
    (ofExcept outcome).runIn host world = (Fate.ofExcept outcome, world) := by
  cases outcome <;> rfl

theorem bind_pure_eq (action : Action ε α) (change : α → β) :
    (action >>= fun value => pure (change value)) =
      Program.bind action fun fate => .done (fate.map change) :=
  congrArg (Program.bind action) (funext fun fate => by cases fate <;> rfl)

theorem runIn_bind_pure (host : Host σ) (action : Action ε α) (change : α → β) (world : World σ) :
    (action >>= fun value => pure (change value)).runIn host world =
      ((action.runIn host world).1.map change, (action.runIn host world).2) :=
  runIn_of_eq_bind (bind_pure_eq action change) host world

theorem historyIn_bind_pure (host : Host σ) (action : Action ε α) (change : α → β)
    (world : World σ) :
    (action >>= fun value => pure (change value)).historyIn host world =
      action.historyIn host world :=
  historyIn_of_eq_bind (bind_pure_eq action change) host world

/-- What comes after an outcome that is known, when the whole gives a value. -/
theorem runIn_ofExcept_bind_eq_done_iff (host : Host σ) (outcome : Except ε α) (change : ε → δ)
    (next : α → Action δ β) (world : World σ) (last : β) :
    (((ofExcept outcome).mapError change >>= next).runIn host world).1 = .done last ↔
      ∃ value, outcome = .ok value ∧ ((next value).runIn host world).1 = .done last := by
  simp only [runIn_bind_eq_done_iff, runIn_mapError, runIn_ofExcept, Fate.mapError_eq_done_iff,
    Fate.ofExcept_eq_done_iff]

/-- A silent action gives its value in every world. -/
theorem Silent.runIn {removing : Bool} {action : Action ε α} {value : α}
    (silent : action.Silent removing value) (host : Host σ) (world : World σ) :
    (action.runIn host world).1 = .done value :=
  (silent.gives _ _ (shows_historyIn Errand.view host action world)).2

end Action

/-! ### Actions that come back -/

/-- That a program asks for effects of a kind alone and comes back with a value or a failure, whatever
it is answered. -/
inductive Program.Steady {ε α : Type} (kind : Effect → Prop) : Program (Fate ε α) → Prop where
  | done (outcome : Except ε α) : Steady kind (done (Fate.ofExcept outcome))
  | perform {effect : Effect} {next : effect.Answer → Program (Fate ε α)} (here : kind effect)
      (rest : ∀ answer, Steady kind (next answer)) : Steady kind (perform effect next)

namespace Program.Steady

variable {ε δ α β σ : Type} {kind : Effect → Prop} {program : Program (Fate ε α)}

theorem bind {next : Fate ε α → Program (Fate δ β)} (first : program.Steady kind)
    (rest : ∀ outcome, (next (Fate.ofExcept outcome)).Steady kind) :
    (program.bind next).Steady kind := by
  induction first with
  | done outcome => exact rest outcome
  | perform here _ step => exact .perform here step

theorem within (steady : program.Steady kind) : program.Within kind := by
  induction steady with
  | done outcome => exact .done _
  | perform here _ step => exact .perform here step

theorem run (steady : program.Steady kind) (handler : Handler σ) (state : σ) :
    ∃ outcome, (program.run handler state).1 = Fate.ofExcept outcome := by
  induction steady generalizing state with
  | done outcome => exact ⟨outcome, rfl⟩
  | perform _ _ step => exact step _ _

end Program.Steady

namespace Action

variable {ε δ α β σ : Type} {kind : Effect → Prop} {action : Action ε α}

/-- That an action asks for effects of a kind alone and comes back. -/
def Steady (kind : Effect → Prop) (action : Action ε α) : Prop := action.program.Steady kind

namespace Steady

theorem of_ofExcept (outcome : Except ε α) : (ofExcept outcome).Steady kind := by
  cases outcome with
  | ok value => exact Program.Steady.done (.ok value)
  | error fault => exact Program.Steady.done (.error fault)

theorem of_pure (value : α) : (pure value : Action ε α).Steady kind := of_ofExcept (.ok value)

theorem of_fail (fault : ε) : (fail fault : Action ε α).Steady kind := of_ofExcept (.error fault)

theorem of_ask {effect : Effect} (here : kind effect) :
    (ask effect : Action ε effect.Answer).Steady kind :=
  Program.Steady.perform here fun answer => .done (.ok answer)

/-- **One action after the other** comes back when both do. -/
theorem bind {next : α → Action ε β} (first : action.Steady kind)
    (rest : ∀ value, (next value).Steady kind) : (action >>= next).Steady kind := by
  refine Program.Steady.bind first fun outcome => ?_
  cases outcome with
  | ok value => exact rest value
  | error fault => exact of_fail fault

theorem mapError (first : action.Steady kind) (change : ε → δ) :
    (action.mapError change).Steady kind := by
  refine Program.Steady.bind first fun outcome => ?_
  cases outcome with
  | ok value => exact of_pure value
  | error fault => exact of_fail (change fault)

/-- A change of files comes back. -/
theorem fileStep {operation : Action FileFault (Except FileFault Unit)}
    (first : operation.Steady kind) : (Action.fileStep operation).Steady kind := by
  refine first.bind fun outcome => ?_
  cases outcome with
  | ok value => exact of_pure ()
  | error fault => exact of_fail fault

/-- Making the directory of a file comes back. -/
theorem makeParent (here : ∀ path, kind (.file (.makeDirectories path))) (path : Path) :
    (Action.makeParent path).Steady kind := by
  unfold Action.makeParent
  split
  · split
    · exact of_pure ()
    · exact .fileStep (.of_ask (here _))
  · exact of_pure ()

theorem within (steady : action.Steady kind) : action.Within kind :=
  Program.Steady.within steady

/-- **What comes back does so in every world.** -/
theorem runIn (steady : action.Steady kind) (host : Host σ) (world : World σ) :
    ∃ outcome, (action.runIn host world).1 = Fate.ofExcept outcome :=
  Program.Steady.run steady host.handle world

end Steady

/-- The run of an attempt at an action that came back. -/
theorem runIn_attempt_of_ofExcept (δ : Type) {host : Host σ} {world : World σ}
    {outcome : Except ε α} (came : (action.runIn host world).1 = Fate.ofExcept outcome) :
    (action.attempt : Action δ (Except ε α)).runIn host world =
      (.done outcome, (action.runIn host world).2) := by
  rw [runIn_attempt, came]
  cases outcome <;> rfl

end Action

end DeviceTrial
