/-
**Programs and what they ask of their surroundings.**

A `Program` either is done or asks for one effect and goes on with the answer. Calls to the control
plane, operations on files, started processes, log events, metrics and printed lines are all effects,
so one tree describes every run of a program; a *handler* picks the run.

* `run_bind` — running one program after the other is running their composition;
* `heard_all` — a program may be run with some of its events left out of the log;
* `Action` — programs that can fail, break down or never come back;
* `contain` — the one place at which a failure turns into a value.
-/

import DeviceTrial.Event
import DeviceTrial.FileSystem
import DeviceTrial.Metric
import DeviceTrial.Plane.Call
import DeviceTrial.Process.Launch
import DeviceTrial.RunTag

namespace DeviceTrial

/-- An operation on files. -/
inductive FileRequest where
  /-- Reads a text. -/
  | read (path : Path)
  /-- Writes a text. -/
  | write (path : Path) (content : String)
  /-- Makes a directory and all that lead to it. -/
  | makeDirectories (path : Path)
  /-- Leaves a file to its owner alone. -/
  | restrict (path : Path)
  /-- Removes a file. -/
  | remove (path : Path)
  /-- Moves a file. -/
  | rename (source target : Path)
deriving DecidableEq

/-- What an operation on files gives back. -/
abbrev FileRequest.Answer : FileRequest → Type
  | .read _ => Except FileFault String
  | .write _ _ | .makeDirectories _ | .restrict _ | .remove _ | .rename _ _ =>
    Except FileFault Unit

/-- Something that a program asks of its surroundings. -/
inductive Effect where
  /-- Calls the control plane. -/
  | call (call : Call)
  /-- Connects to the control plane of a region and finds its data endpoint. -/
  | connect (region : String)
  /-- Works on files. -/
  | file (request : FileRequest)
  /-- Starts a process and waits for its end. -/
  | launch (launch : Launch)
  /-- Logs an event. -/
  | log (event : Event)
  /-- Records a metric. -/
  | record (sample : Sample)
  /-- Asks for the metrics that were recorded so far. -/
  | recorded
  /-- Prints a line. -/
  | print (channel : Channel) (line : String)
  /-- Draws a random tag. -/
  | drawTag

/-- The answer to an effect. A process that cannot be started is answered by the reason. -/
abbrev Effect.Answer : Effect → Type
  | .call request => Reply request.Answer
  | .connect _ => Reply String
  | .file request => request.Answer
  | .launch _ => Except String Finish
  | .log _ | .record _ | .print _ _ => Unit
  | .recorded => List Sample
  | .drawTag => RunTag

/-- A program that gives an `α`. -/
inductive Program (α : Type) where
  /-- The program is done. -/
  | done (value : α)
  /-- The program asks for an effect and goes on with the answer. -/
  | perform (effect : Effect) (next : effect.Answer → Program α)

namespace Program

variable {α β γ σ : Type}

/-- One program after the other. -/
def bind : Program α → (α → Program β) → Program β
  | done value, next => next value
  | perform effect first, next => perform effect fun answer => (first answer).bind next

instance : Monad Program where
  pure := done
  bind := bind

/-- Asks for an effect. -/
def ask (effect : Effect) : Program effect.Answer := perform effect done

theorem bind_done (program : Program α) : program.bind done = program := by
  induction program with
  | done value => rfl
  | perform effect next step =>
    simp only [bind]
    congr 1
    funext answer
    exact step answer

theorem bind_assoc (program : Program α) (first : α → Program β) (second : β → Program γ) :
    (program.bind first).bind second = program.bind fun value => (first value).bind second := by
  induction program with
  | done value => rfl
  | perform effect next step =>
    simp only [bind]
    congr 1
    funext answer
    exact step answer

instance : LawfulMonad Program := LawfulMonad.mk' Program bind_done (fun _ _ => rfl) bind_assoc

/-! ### Running a program -/

/-- The answer to every effect, with the state of the surroundings after it. -/
abbrev Handler (σ : Type) := (effect : Effect) → σ → effect.Answer × σ

/-- Runs a program against a handler. -/
def run (handler : Handler σ) : Program α → σ → α × σ
  | done value, state => (value, state)
  | perform effect next, state =>
    let answered := handler effect state
    (next answered.1).run handler answered.2

@[simp] theorem run_pure (handler : Handler σ) (value : α) (state : σ) :
    (pure value : Program α).run handler state = (value, state) := rfl

theorem run_bind (handler : Handler σ) (program : Program α) (next : α → Program β) (state : σ) :
    (program >>= next).run handler state =
      (next (program.run handler state).1).run handler (program.run handler state).2 := by
  show (program.bind next).run handler state = _
  induction program generalizing state with
  | done value => rfl
  | perform effect first step => exact step _ _

@[simp] theorem run_ask (handler : Handler σ) (effect : Effect) (state : σ) :
    (ask effect).run handler state = handler effect state := rfl

/-! ### Leaving events out -/

/-- The program with only those events in the log that are worth it. -/
def heard (isWorth : Event → Bool) : Program α → Program α
  | done value => done value
  | perform (.log event) next =>
    if isWorth event then perform (.log event) fun answer => (next answer).heard isWorth
    else (next ()).heard isWorth
  | perform (.call request) next => perform (.call request) fun answer => (next answer).heard isWorth
  | perform (.connect region) next =>
    perform (.connect region) fun answer => (next answer).heard isWorth
  | perform (.file request) next => perform (.file request) fun answer => (next answer).heard isWorth
  | perform (.launch request) next =>
    perform (.launch request) fun answer => (next answer).heard isWorth
  | perform (.record sample) next =>
    perform (.record sample) fun answer => (next answer).heard isWorth
  | perform .recorded next => perform .recorded fun answer => (next answer).heard isWorth
  | perform (.print channel line) next =>
    perform (.print channel line) fun answer => (next answer).heard isWorth
  | perform .drawTag next => perform .drawTag fun answer => (next answer).heard isWorth

/-- Leaving no event out changes nothing. -/
theorem heard_all (program : Program α) : program.heard (fun _ => true) = program := by
  induction program with
  | done value => rfl
  | perform effect next step =>
    cases effect <;> simp only [heard, if_true] <;> congr 1 <;> funext answer <;> exact step answer

end Program

/-! ### Actions -/

/-- How an action comes out. -/
inductive Fate (ε α : Type) where
  /-- It gives a value. -/
  | done (value : α)
  /-- It fails. -/
  | failed (fault : ε)
  /-- The control plane broke down under it. -/
  | panicked (message : String)
  /-- It never comes back. -/
  | hung
deriving DecidableEq

/-- Why an action that came back gave no value. -/
inductive Mishap (ε : Type) where
  /-- It failed. -/
  | failure (fault : ε)
  /-- The control plane broke down under it. -/
  | breakdown (message : String)
deriving DecidableEq

/-- A program that may fail, break down or never come back. -/
def Action (ε α : Type) := Program (Fate ε α)

namespace Action

variable {ε δ α β : Type}

/-- The program behind an action. -/
def program (action : Action ε α) : Program (Fate ε α) := action

/-- Goes on with a value, and stops at everything else. -/
def bind (action : Action ε α) (next : α → Action ε β) : Action ε β :=
  Program.bind action fun
    | .done value => next value
    | .failed fault => .done (.failed fault)
    | .panicked message => .done (.panicked message)
    | .hung => .done .hung

instance : Monad (Action ε) where
  pure value := Program.done (.done value)
  bind := bind

/-- Fails. -/
def fail (fault : ε) : Action ε α := Program.done (.failed fault)

/-- Asks for an effect whose answer is a value. -/
def ask (effect : Effect) : Action ε effect.Answer :=
  Program.perform effect fun answer => .done (.done answer)

/-- What a reply of the control plane does to an action. -/
def ofReply : Reply α → Action PlaneError α
  | .ok value => Program.done (.done value)
  | .error fault => Program.done (.failed fault)
  | .panic message => Program.done (.panicked message)
  | .hang => Program.done .hung

/-- Calls the control plane. -/
def call (call : Call) : Action PlaneError call.Answer :=
  Program.perform (.call call) ofReply

/-- Connects to the control plane of a region. -/
def connect (region : String) : Action PlaneError String :=
  Program.perform (.connect region) ofReply

/-- The action with only those events in the log that are worth it. -/
def heard (isWorth : Event → Bool) (action : Action ε α) : Action ε α :=
  Program.heard isWorth action.program

/-- Works on files. -/
def file (request : FileRequest) : Action ε request.Answer := ask (.file request)

/-- Logs an event. -/
def log (level : Level) (source : Source) (message : String) (fields : List (String × String)) :
    Action ε Unit :=
  ask (.log ⟨level, source, message, fields⟩)

/-- Records a metric. -/
def record (sample : Sample) : Action ε Unit := ask (.record sample)

/-- Changes files; a fault is a failure. -/
def fileStep (operation : Action FileFault (Except FileFault Unit)) : Action FileFault Unit := do
  match ← operation with
  | .ok () => return ()
  | .error fault => Program.done (.failed fault)

/-- Makes the directory that a file is to stand in. -/
def makeParent (path : Path) : Action FileFault Unit :=
  match path.parent? with
  | some parent =>
    if parent.isEmpty then pure () else fileStep (file (.makeDirectories parent))
  | none => pure ()

/-- Prints a line on standard output. -/
def printLine (line : String) : Action ε Unit := ask (.print .out line)

/-- Gives a value or fails. -/
def ofExcept : Except ε α → Action ε α
  | .ok value => pure value
  | .error fault => fail fault

/-- Turns failures into values; breaking down and never coming back stay what they are. -/
def attempt (action : Action ε α) : Action δ (Except ε α) :=
  Program.bind action fun
    | .done value => .done (.done (.ok value))
    | .failed fault => .done (.done (.error fault))
    | .panicked message => .done (.panicked message)
    | .hung => .done .hung

/-- Changes what an action fails with. -/
def mapError (change : ε → δ) (action : Action ε α) : Action δ α :=
  Program.bind action fun
    | .done value => .done (.done value)
    | .failed fault => .done (.failed (change fault))
    | .panicked message => .done (.panicked message)
    | .hung => .done .hung

/-- Turns failures and breakdowns into values; only never coming back stays what it is. -/
def contain (action : Action ε α) : Action δ (Except (Mishap ε) α) :=
  Program.bind action fun
    | .done value => .done (.done (.ok value))
    | .failed fault => .done (.done (.error (.failure fault)))
    | .panicked message => .done (.done (.error (.breakdown message)))
    | .hung => .done .hung

/-- Waits for an action for a limited time: one that never comes back gives nothing. -/
def limited (action : Action ε α) : Action δ (Option (Except (Mishap ε) α)) :=
  Program.bind action fun
    | .done value => .done (.done (some (.ok value)))
    | .failed fault => .done (.done (some (.error (.failure fault))))
    | .panicked message => .done (.done (some (.error (.breakdown message))))
    | .hung => .done (.done none)

end Action

end DeviceTrial
