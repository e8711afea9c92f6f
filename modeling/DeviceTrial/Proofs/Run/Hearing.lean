/-
**What is told makes no difference.**

Nobody answers to what is logged or printed, so two worlds that only differ in it answer everything
in the same way. A program comes to the same end whichever of its events are left out of the log, and
whatever was logged and printed before.

* `Program.runIn_agrees` — worlds that differ in what was told alone see the same ends;
* `Program.runIn_heard` — **leaving events out changes no end**;
* `Action.Within.agrees` — what only tells something changes nothing else.
-/

import DeviceTrial.Proofs.Run.Confinement

namespace DeviceTrial

/-- That an effect only tells something: it logs or prints. -/
def Effect.IsTold : Effect → Prop
  | .log _ | .print _ _ => True
  | _ => False

/-- That two worlds differ at most in what was logged and printed. -/
structure World.Agrees {σ : Type} (left right : World σ) : Prop where
  /-- The control plane is in the same state. -/
  plane : left.plane = right.plane
  /-- The files are the same. -/
  files : left.files = right.files
  /-- The same metrics were recorded. -/
  samples : left.samples = right.samples
  /-- The same number of tags was drawn. -/
  drawn : left.drawn = right.drawn

namespace World.Agrees

variable {σ : Type} {left middle right : World σ}

theorem refl (world : World σ) : world.Agrees world := ⟨rfl, rfl, rfl, rfl⟩

theorem trans (first : left.Agrees middle) (second : middle.Agrees right) : left.Agrees right :=
  ⟨first.plane.trans second.plane, first.files.trans second.files,
    first.samples.trans second.samples, first.drawn.trans second.drawn⟩

/-- **Worlds that agree answer alike**, and still agree afterwards. -/
theorem handle (agrees : left.Agrees right) (host : Host σ) (effect : Effect) :
    (host.handle effect left).1 = (host.handle effect right).1 ∧
      (host.handle effect left).2.Agrees (host.handle effect right).2 := by
  obtain ⟨plane, files, events, samples, printed, drawn⟩ := left
  obtain ⟨plane', files', events', samples', printed', drawn'⟩ := right
  obtain ⟨rfl, rfl, rfl, rfl⟩ := agrees
  cases effect <;> exact ⟨rfl, rfl, rfl, rfl, rfl⟩

/-- An event more makes no difference. -/
theorem log (agrees : left.Agrees right) (event : Event) :
    left.Agrees { right with events := right.events ++ [event] } :=
  ⟨agrees.plane, agrees.files, agrees.samples, agrees.drawn⟩

end World.Agrees

namespace Program

variable {α σ : Type} {left right : World σ}

/-- **Leaving events out changes no end.** -/
theorem runIn_heard (host : Host σ) (isWorth : Event → Bool) (program : Program α)
    (agrees : left.Agrees right) :
    ((program.heard isWorth).runIn host left).1 = (program.runIn host right).1 ∧
      ((program.heard isWorth).runIn host left).2.Agrees (program.runIn host right).2 := by
  induction program generalizing left right with
  | done value => exact ⟨rfl, agrees⟩
  | perform effect next step =>
    have kept : (perform effect next).heard isWorth =
          (perform effect fun answer => (next answer).heard isWorth) →
        (((perform effect next).heard isWorth).runIn host left).1 =
            ((perform effect next).runIn host right).1 ∧
          (((perform effect next).heard isWorth).runIn host left).2.Agrees
            ((perform effect next).runIn host right).2 := by
      intro same
      obtain ⟨answered, after⟩ := agrees.handle host effect
      have rest := step (host.handle effect left).1 after
      rw [same, show (perform effect next).runIn host right =
        (next (host.handle effect left).1).runIn host (host.handle effect right).2 by
          rw [answered]; rfl]
      exact rest
    cases effect with
    | log event =>
      by_cases worth : isWorth event = true
      · exact kept (if_pos worth)
      · rw [heard, if_neg worth]
        exact step () (agrees.log event)
    | _ => exact kept rfl

/-- **Worlds that differ in what was told alone** see a program come to the same end. -/
theorem runIn_agrees (host : Host σ) (program : Program α) (agrees : left.Agrees right) :
    (program.runIn host left).1 = (program.runIn host right).1 ∧
      (program.runIn host left).2.Agrees (program.runIn host right).2 := by
  have same := runIn_heard host (fun _ => true) program agrees
  rwa [heard_all] at same

/-- Leaving events out adds no effects. -/
theorem Within.heard {kind : Effect → Prop} {program : Program α} (within : program.Within kind)
    (isWorth : Event → Bool) : (program.heard isWorth).Within kind := by
  induction within with
  | done value => exact .done value
  | @perform effect next here rest step =>
    cases effect with
    | log event =>
      rw [Program.heard]
      split
      · exact .perform here step
      · exact step ()
    | _ => exact .perform here step

end Program

namespace Action

variable {ε α σ : Type}

/-- Leaving events out changes no end. -/
theorem runIn_heard (host : Host σ) (isWorth : Event → Bool) (action : Action ε α)
    {left right : World σ} (agrees : left.Agrees right) :
    ((action.heard isWorth).runIn host left).1 = (action.runIn host right).1 ∧
      ((action.heard isWorth).runIn host left).2.Agrees (action.runIn host right).2 :=
  Program.runIn_heard host isWorth action.program agrees

theorem runIn_agrees (host : Host σ) (action : Action ε α) {left right : World σ}
    (agrees : left.Agrees right) :
    (action.runIn host left).1 = (action.runIn host right).1 ∧
      (action.runIn host left).2.Agrees (action.runIn host right).2 :=
  Program.runIn_agrees host action.program agrees

theorem Within.heard {kind : Effect → Prop} {action : Action ε α} (within : action.Within kind)
    (isWorth : Event → Bool) : (action.heard isWorth).Within kind :=
  Program.Within.heard within isWorth

/-- An action that only logs and prints leaves a world that agrees with the one before. -/
theorem Within.agrees {action : Action ε α} (within : action.Within Effect.IsTold) (host : Host σ)
    (world : World σ) : (action.runIn host world).2.Agrees world := by
  have keeps : ∀ (effect : Effect) (world : World σ), effect.IsTold →
      (host.handle effect world).2.Agrees world := by
    intro effect world told
    cases effect with
    | log event => exact ⟨rfl, rfl, rfl, rfl⟩
    | print channel line => exact ⟨rfl, rfl, rfl, rfl⟩
    | _ => cases told
  exact ⟨within.runIn World.plane (fun effect world told => (keeps effect world told).plane) world,
    within.runIn World.files (fun effect world told => (keeps effect world told).files) world,
    within.runIn World.samples (fun effect world told => (keeps effect world told).samples) world,
    within.runIn World.drawn (fun effect world told => (keeps effect world told).drawn) world⟩

end Action

end DeviceTrial
