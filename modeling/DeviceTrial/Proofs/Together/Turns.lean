/-
**Two runs that take turns.**

Two runs share a control plane and the files of a machine. Each logs and records for itself. In its
turn a run has one effect answered, so that every call to the control plane is answered as a whole, and
so is every operation on the files; the order of the turns is any list. After the turns the first run is
brought to its end, and then the second.

* `Together.ended_of_done` — runs that are at their end stay as they are, so that every order in which
  two runs can come to their ends is one of turns;
* `Together.ended_of_turns` — **what every turn preserves, two runs preserve** up to their ends.
-/

import DeviceTrial.Proofs.Run.History

namespace DeviceTrial

variable {σ α : Type}

/-- One of two runs. -/
inductive Side where
  | first
  | second
deriving DecidableEq, Repr

namespace Side

/-- The other run. -/
def other : Side → Side
  | first => second
  | second => first

@[simp] theorem other_other (side : Side) : side.other.other = side := by
  cases side <;> rfl

theorem other_ne (side : Side) : side.other ≠ side := by
  cases side <;> nofun

theorem eq_or_eq_other (side known : Side) : side = known ∨ side = known.other := by
  cases side <;> cases known <;> first | exact .inl rfl | exact .inr rfl

end Side

/-- A run that is under way. -/
structure Running (σ α : Type) where
  /-- What is still to be done. -/
  left : Program α
  /-- What the run works on. -/
  world : World σ
  /-- What was done, in order. -/
  past : List (Moment (World σ))

namespace Running

def start (program : Program α) (world : World σ) : Running σ α := ⟨program, world, []⟩

/-- The run after its next effect, if there is one. -/
def advance (host : Host σ) (running : Running σ α) : Running σ α :=
  match running.left with
  | .done _ => running
  | .perform effect next =>
    ⟨next (host.handle effect running.world).1, (host.handle effect running.world).2,
      running.past ++ [⟨running.world, effect, (host.handle effect running.world).1⟩]⟩

def finish (host : Host σ) (running : Running σ α) : Running σ α :=
  ⟨.done (running.left.runIn host running.world).1, (running.left.runIn host running.world).2,
    running.past ++ running.left.history host.handle running.world⟩

/-- The run with the control plane and the files as the other run left them. -/
def meet (plane : σ) (files : FileSystem) (running : Running σ α) : Running σ α :=
  { running with world := { running.world with plane := plane, files := files } }

variable {host : Host σ} {running : Running σ α} {value : α}

theorem advance_of_done (done : running.left = .done value) : running.advance host = running := by
  unfold advance
  rw [done]

theorem advance_of_perform {effect : Effect} {next : effect.Answer → Program α}
    (performs : running.left = .perform effect next) :
    running.advance host =
      ⟨next (host.handle effect running.world).1, (host.handle effect running.world).2,
        running.past ++ [⟨running.world, effect, (host.handle effect running.world).1⟩]⟩ := by
  unfold advance
  rw [performs]

theorem finish_of_done (done : running.left = .done value) : running.finish host = running := by
  obtain ⟨left, world, past⟩ := running
  obtain rfl : left = .done value := done
  unfold finish
  dsimp only
  rw [Program.history, List.append_nil]
  rfl

/-- One effect earlier or later, the run comes to the same end. -/
theorem finish_advance (host : Host σ) (running : Running σ α) :
    (running.advance host).finish host = running.finish host := by
  obtain ⟨left, world, past⟩ := running
  cases left with
  | done value => rfl
  | perform effect next =>
    unfold finish advance
    dsimp only
    rw [List.append_assoc]
    rfl

end Running

/-- Two runs that share a control plane and files. -/
structure Together (σ α : Type) where
  /-- The control plane. -/
  plane : σ
  /-- The files. -/
  files : FileSystem
  /-- The runs; the control plane and the files in the world of a run are those that it left. -/
  runs : Side → Running σ α

namespace Together

/-- A run with the control plane and the files that both share. -/
def running (together : Together σ α) (side : Side) : Running σ α :=
  (together.runs side).meet together.plane together.files

/-- A run does some work with what both share. -/
def work (change : Running σ α → Running σ α) (side : Side) (together : Together σ α) :
    Together σ α :=
  let running := change (together.running side)
  ⟨running.world.plane, running.world.files,
    fun other => if other = side then running else together.runs other⟩

variable (hosts : Side → Host σ)

/-- One effect of one of the runs. -/
def turn (together : Together σ α) (side : Side) : Together σ α :=
  together.work (Running.advance (hosts side)) side

def after (turns : List Side) (together : Together σ α) : Together σ α :=
  turns.foldl (turn hosts) together

def finish (side : Side) (together : Together σ α) : Together σ α :=
  together.work (Running.finish (hosts side)) side

/-- Both runs at their ends, after turns. -/
def ended (turns : List Side) (together : Together σ α) : Together σ α :=
  ((together.after hosts turns).finish hosts .first).finish hosts .second

variable {hosts} {together : Together σ α} {side : Side}

theorem runs_work_self (change : Running σ α → Running σ α) (side : Side)
    (together : Together σ α) :
    (together.work change side).runs side = change (together.running side) :=
  if_pos rfl

theorem runs_work_of_ne (change : Running σ α → Running σ α) {known side : Side}
    (different : known ≠ side) (together : Together σ α) :
    (together.work change side).runs known = together.runs known :=
  if_neg different

/-- What a run works on after its turn is what both share. -/
theorem running_work (change : Running σ α → Running σ α) (side : Side) (together : Together σ α) :
    (together.work change side).running side = change (together.running side) := by
  unfold running
  rw [runs_work_self]
  rfl

/-- Of two works of one run the second goes on where the first stopped. -/
theorem work_work (first second : Running σ α → Running σ α) (side : Side)
    (together : Together σ α) :
    (together.work first side).work second side = together.work (second ∘ first) side := by
  unfold work running
  dsimp only
  rw [if_pos rfl]
  refine congrArg _ (funext fun other => ?_)
  by_cases here : other = side
  · rw [if_pos here, if_pos here]
    rfl
  · rw [if_neg here, if_neg here, if_neg here]

theorem work_congr {change other : Running σ α → Running σ α}
    (same : change (together.running side) =
      other (together.running side)) :
    together.work change side = together.work other side := by
  unfold work
  rw [same]

/-! ### To the end -/

/-- What every turn preserves is true after all of them. -/
theorem after_of_turns (invariant : Together σ α → Prop)
    (step : ∀ together side, invariant together → invariant (together.turn hosts side))
    (holds : invariant together) (turns : List Side) : invariant (together.after hosts turns) := by
  induction turns generalizing together with
  | nil => exact holds
  | cons side turns deeper => exact deeper (step _ side holds)

/-- What every turn preserves is true when a run is at its end. -/
theorem finish_of_turns (invariant : Together σ α → Prop)
    (step : ∀ together side, invariant together → invariant (together.turn hosts side))
    (holds : invariant together) (side : Side) : invariant (together.finish hosts side) := by
  -- the run comes to its end effect by effect
  generalize known : (together.runs side).left = left
  induction left generalizing together with
  | done value =>
    have same : together.finish hosts side = together.turn hosts side := by
      have met : (together.running side).left = .done value := known
      refine work_congr ?_
      rw [Running.finish_of_done met, Running.advance_of_done met]
    rw [same]
    exact step _ side holds
  | perform effect next deeper =>
    have same : (together.turn hosts side).finish hosts side = together.finish hosts side := by
      refine (work_work _ _ side together).trans (work_congr ?_)
      exact Running.finish_advance _ _
    have performs : (together.running side).left = .perform effect next := known
    rw [← same]
    have left : ((together.turn hosts side).runs side).left =
        next ((hosts side).handle effect (together.running side).world).1 := by
      rw [turn, runs_work_self, Running.advance_of_perform performs]
    exact deeper _ (step _ side holds) left

/-- **What every turn preserves, two runs preserve** up to their ends. -/
theorem ended_of_turns (invariant : Together σ α → Prop)
    (step : ∀ together side, invariant together → invariant (together.turn hosts side))
    (holds : invariant together) (turns : List Side) : invariant (together.ended hosts turns) :=
  finish_of_turns invariant step
    (finish_of_turns invariant step (after_of_turns invariant step holds turns) .first) .second

/-- Both runs are at their ends then. -/
theorem exists_done_of_ended (turns : List Side) (together : Together σ α) (side : Side) :
    ∃ value, ((together.ended hosts turns).runs side).left = .done value := by
  cases side with
  | first => exact ⟨_, rfl⟩
  | second => exact ⟨_, rfl⟩

variable (hosts) in
/-- A run that is at its end stays as it is, and so does the other one. -/
theorem finish_of_done {value : α} (done : (together.runs side).left = .done value) :
    (together.finish hosts side).plane = together.plane ∧
      (together.finish hosts side).files = together.files ∧
      ∀ known, ((together.finish hosts side).runs known).left = (together.runs known).left ∧
        ((together.finish hosts side).runs known).past = (together.runs known).past := by
  have met : (together.running side).left = .done value := done
  have same : together.finish hosts side = together.work id side :=
    work_congr (Running.finish_of_done met)
  rw [same]
  refine ⟨rfl, rfl, fun known => ?_⟩
  by_cases here : known = side
  · rw [here, runs_work_self]
    exact ⟨rfl, rfl⟩
  · rw [runs_work_of_ne id here]
    exact ⟨rfl, rfl⟩

/-- **Runs that come to their ends in their turns stay as they are**, so that every order in which
two runs can come to their ends is one of turns. -/
theorem ended_of_done {turns : List Side}
    (done : ∀ side, ∃ value, ((together.after hosts turns).runs side).left = .done value) :
    (together.ended hosts turns).plane = (together.after hosts turns).plane ∧
      (together.ended hosts turns).files = (together.after hosts turns).files ∧
      ∀ side, ((together.ended hosts turns).runs side).left =
          ((together.after hosts turns).runs side).left ∧
        ((together.ended hosts turns).runs side).past =
          ((together.after hosts turns).runs side).past := by
  obtain ⟨value, first⟩ := done .first
  obtain ⟨result, second⟩ := done .second
  obtain ⟨plane, files, runs⟩ := finish_of_done hosts first
  obtain ⟨planes, filesAfter, runsAfter⟩ := finish_of_done hosts ((runs .second).1.trans second)
  exact ⟨planes.trans plane, filesAfter.trans files, fun side =>
    ⟨(runsAfter side).1.trans (runs side).1, (runsAfter side).2.trans (runs side).2⟩⟩

end Together

end DeviceTrial
