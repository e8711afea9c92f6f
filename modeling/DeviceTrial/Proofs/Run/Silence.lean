/-
**Programs that only tell.**

What a program logs and records tells others what it does and asks nothing of them. A `Silent` action
does nothing else, whatever it is answered, and gives its value in any case. Some of them also take
files away; the answer to that makes no difference, either.

* `Action.Silent.bind` — silent actions one after the other;
* `Action.Silent.gives` — a silent action shows no errand.
-/

import DeviceTrial.Proofs.Run.Errand

namespace DeviceTrial

/-- That an effect only tells something, or removes a file if that is allowed. -/
def Effect.IsSilent (removing : Bool) : Effect → Prop
  | .log _ | .record _ => True
  | .file (.remove _) => removing = true
  | _ => False

/-- That a program asks for silent effects alone and gives the value, whatever it is answered. -/
inductive Program.Silent {α : Type} (removing : Bool) : Program α → α → Prop where
  | done (value : α) : Silent removing (done value) value
  | perform {effect : Effect} {next : effect.Answer → Program α} {value : α}
      (silent : effect.IsSilent removing) (rest : ∀ answer, Silent removing (next answer) value) :
    Silent removing (perform effect next) value

theorem Effect.IsSilent.weaken {effect : Effect} {removing : Bool}
    (silent : effect.IsSilent false) : effect.IsSilent removing := by
  cases effect with
  | log event => trivial
  | record sample => trivial
  | file request =>
    cases request with
    | remove path => cases silent
    | _ => exact silent
  | _ => exact silent

namespace Program.Silent

variable {α β : Type} {removing : Bool} {program : Program α} {value : α}

/-- What removes no file is silent also where that is allowed. -/
theorem weaken (silent : program.Silent false value) : program.Silent removing value := by
  induction silent with
  | done value => exact .done value
  | perform silent _ step => exact .perform silent.weaken step

/-- Silent programs one after the other. -/
theorem bind {next : α → Program β} {last : β} (first : program.Silent removing value)
    (rest : (next value).Silent removing last) : (program.bind next).Silent removing last := by
  induction first with
  | done value => exact rest
  | perform silent _ step => exact .perform silent fun answer => step answer rest

/-- A silent program shows no errand. -/
theorem shows {seen : List Errand} {last : α} (silent : program.Silent removing value)
    (shown : Program.Shows Errand.view program seen last) : seen = [] ∧ last = value := by
  induction silent generalizing seen with
  | done value => exact (Program.shows_done_iff _ _ _ _).mp shown
  | @perform effect next value silent _ step =>
    obtain ⟨answer, rest, rfl, after⟩ := (Program.shows_perform_iff _ _ _ _ _).mp shown
    have unseen : Errand.view effect answer = none := by
      cases effect with
      | file request =>
        cases request with
        | read path => cases silent
        | _ => rfl
      | log event => rfl
      | record sample => rfl
      | _ => cases silent
    rw [unseen]
    exact step answer after

end Program.Silent

namespace Action

variable {ε α β : Type} {removing : Bool}

/-- That an action is silent and gives the value. -/
def Silent (removing : Bool) (action : Action ε α) (value : α) : Prop :=
  Program.Silent removing action.program (.done value)

namespace Silent

theorem of_pure (value : α) : (pure value : Action ε α).Silent removing value :=
  Program.Silent.done _

theorem of_log (level : Level) (source : Source) (message : String)
    (fields : List (String × String)) :
    (log level source message fields : Action ε Unit).Silent removing () :=
  Program.Silent.perform trivial fun _ => .done _

theorem of_record (sample : Sample) : (record sample : Action ε Unit).Silent removing () :=
  Program.Silent.perform trivial fun _ => .done _

/-- Silent actions one after the other. -/
theorem bind {action : Action ε α} {next : α → Action ε β} {value : α} {last : β}
    (first : action.Silent removing value) (rest : (next value).Silent removing last) :
    (action >>= next).Silent removing last :=
  Program.Silent.bind first rest

theorem weaken {action : Action ε α} {value : α} (silent : action.Silent false value) :
    action.Silent removing value :=
  Program.Silent.weaken silent

/-- An action that removes a file and goes on silently. -/
theorem remove_bind {path : Path} {next : Except FileFault Unit → Action ε α} {value : α}
    (rest : ∀ answer, (next answer).Silent true value) :
    (Action.file (.remove path) >>= next).Silent true value :=
  Program.Silent.perform rfl rest

/-- A silent action shows no errand. -/
theorem gives {action : Action ε α} {value : α} (silent : action.Silent removing value) :
    action.Gives value :=
  fun _ _ shown => Program.Silent.shows silent shown

end Silent

end Action

end DeviceTrial
