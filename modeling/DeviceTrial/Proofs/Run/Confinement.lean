/-
**What a program confines itself to.**

A program may be known to ask for effects of one kind alone, whatever it is answered. Then every
moment of every run of it is of that kind, and what no effect of the kind changes is after the run
what it was before.

* `Program.run_of_moments` — what no moment of a run changes, the run does not change;
* `Program.Within.history` — the moments of a run;
* `Program.Within.run` — what a run leaves alone;
* `Action.Within.bind` and its like — programs put together from parts that keep to the kind.
-/

import DeviceTrial.Proofs.Run.History

namespace DeviceTrial

/-- That a program asks for effects of a kind alone, whatever it is answered. -/
inductive Program.Within {α : Type} (kind : Effect → Prop) : Program α → Prop where
  | done (value : α) : Within kind (done value)
  | perform {effect : Effect} {next : effect.Answer → Program α} (here : kind effect)
      (rest : ∀ answer, Within kind (next answer)) : Within kind (perform effect next)

/-- **What no moment of a run changes, the run does not change.** -/
theorem Program.run_of_moments {α σ τ : Type} {handler : Handler σ} (part : σ → τ)
    (program : Program α) (state : σ)
    (keeps : ∀ moment ∈ program.history handler state,
      part (handler moment.effect moment.before).2 = part moment.before) :
    part (program.run handler state).2 = part state := by
  induction program generalizing state with
  | done value => rfl
  | perform effect next step =>
    obtain ⟨here, later⟩ := List.forall_mem_cons.mp keeps
    exact (step _ _ later).trans here

namespace Program.Within

variable {α β σ τ : Type} {kind wider : Effect → Prop} {program : Program α}

theorem mono (within : program.Within kind) (includes : ∀ effect, kind effect → wider effect) :
    program.Within wider := by
  induction within with
  | done value => exact .done value
  | perform here _ step => exact .perform (includes _ here) step

/-- What a program of the kind asks for next, and what it goes on with. -/
theorem of_perform {effect : Effect} {next : effect.Answer → Program α}
    (within : program.Within kind) (performs : program = .perform effect next) :
    kind effect ∧ ∀ answer, (next answer).Within kind := by
  subst performs
  cases within with
  | perform here rest => exact ⟨here, rest⟩

theorem bind {next : α → Program β} (first : program.Within kind)
    (rest : ∀ value, (next value).Within kind) : (program.bind next).Within kind := by
  induction first with
  | done value => exact rest value
  | perform here _ step => exact .perform here step

/-- **Every moment of a run is of the kind.** -/
theorem history (within : program.Within kind) (handler : Handler σ) (state : σ) :
    ∀ moment ∈ program.history handler state, kind moment.effect := by
  induction within generalizing state with
  | done value => nofun
  | perform here _ step =>
    intro moment inside
    rcases List.mem_cons.mp inside with rfl | later
    · exact here
    · exact step _ _ moment later

/-- **What no effect of the kind changes, a run does not change.** -/
theorem run (within : program.Within kind) {handler : Handler σ} (part : σ → τ)
    (keeps : ∀ effect state, kind effect → part (handler effect state).2 = part state) (state : σ) :
    part (program.run handler state).2 = part state :=
  run_of_moments part program state fun moment inside =>
    keeps _ _ (within.history handler state moment inside)

end Program.Within

namespace Action

variable {ε δ α β : Type} {kind wider : Effect → Prop}

theorem runIn_of_moments {σ τ : Type} {host : Host σ} (part : World σ → τ) (action : Action ε α)
    (world : World σ) (keeps : ∀ moment ∈ action.historyIn host world,
      part (host.handle moment.effect moment.before).2 = part moment.before) :
    part (action.runIn host world).2 = part world :=
  Program.run_of_moments part action.program world keeps

/-- That an action asks for effects of a kind alone, whatever it is answered. -/
def Within (kind : Effect → Prop) (action : Action ε α) : Prop := action.program.Within kind

namespace Within

variable {action : Action ε α}

theorem mono (within : action.Within kind) (includes : ∀ effect, kind effect → wider effect) :
    action.Within wider :=
  Program.Within.mono within includes

theorem of_pure (value : α) : (pure value : Action ε α).Within kind := Program.Within.done _

theorem of_fail (fault : ε) : (fail fault : Action ε α).Within kind := Program.Within.done _

theorem of_ofExcept (outcome : Except ε α) : (ofExcept outcome).Within kind := by
  cases outcome with
  | ok value => exact of_pure value
  | error fault => exact of_fail fault

theorem of_ask {effect : Effect} (here : kind effect) :
    (ask effect : Action ε effect.Answer).Within kind :=
  Program.Within.perform here fun _ => .done _

theorem of_call {request : Call} (here : kind (.call request)) : (call request).Within kind := by
  refine Program.Within.perform here fun reply => ?_
  cases reply <;> exact .done _

theorem bind {next : α → Action ε β} (first : action.Within kind)
    (rest : ∀ value, (next value).Within kind) : (action >>= next).Within kind := by
  refine Program.Within.bind first fun fate => ?_
  cases fate with
  | done value => exact rest value
  | _ => exact .done _

theorem attempt (within : action.Within kind) :
    (action.attempt : Action δ (Except ε α)).Within kind :=
  Program.Within.bind within fun fate => by cases fate <;> exact .done _

theorem contain (within : action.Within kind) :
    (action.contain : Action δ (Except (Mishap ε) α)).Within kind :=
  Program.Within.bind within fun fate => by cases fate <;> exact .done _

theorem limited (within : action.Within kind) :
    (action.limited : Action δ (Option (Except (Mishap ε) α))).Within kind :=
  Program.Within.bind within fun fate => by cases fate <;> exact .done _

theorem mapError (within : action.Within kind) (change : ε → δ) :
    (action.mapError change).Within kind :=
  Program.Within.bind within fun fate => by cases fate <;> exact .done _

theorem fileStep {operation : Action FileFault (Except FileFault Unit)}
    (within : operation.Within kind) : (Action.fileStep operation).Within kind := by
  refine within.bind fun outcome => ?_
  cases outcome with
  | ok value => exact of_pure ()
  | error fault => exact Program.Within.done _

theorem makeParent {path : Path}
    (here : ∀ parent, path.parent? = some parent → kind (.file (.makeDirectories parent))) :
    (Action.makeParent path).Within kind := by
  unfold Action.makeParent
  split
  · rename_i parent known
    split
    · exact of_pure ()
    · exact .fileStep (.of_ask (here parent known))
  · exact of_pure ()

variable {σ τ : Type} {host : Host σ}

theorem historyIn (within : action.Within kind) (world : World σ) :
    ∀ moment ∈ action.historyIn host world, kind moment.effect :=
  Program.Within.history within host.handle world

theorem runIn (within : action.Within kind) (part : World σ → τ)
    (keeps : ∀ effect world, kind effect → part (host.handle effect world).2 = part world)
    (world : World σ) : part (action.runIn host world).2 = part world :=
  Program.Within.run within part keeps world

end Within

end Action

end DeviceTrial
