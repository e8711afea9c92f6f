/-
**What the runs of a program have in common, whatever the surroundings answer.**

A run is a list of moments: an effect, the state in which it was asked for, and the answer to it. A
`View` picks out of them what one wants to look at. `Shows view program seen value` says that the
program can end with `value` after showing `seen`, for *some* answers; a fact about `Shows`
therefore holds for every control plane, every file system and every process.

* `shows_history` — every run shows what its history shows;
* `Action.shows_bind_iff` — an action that goes on after another one shows the two one after the
  other, unless the first stops;
* `run_of_steps`, `moment_of_steps` — what every effect does to the state, a run does, up to its end
  and up to each of its moments.
-/

import DeviceTrial.World
import Mathlib.Data.List.Basic

namespace DeviceTrial

/-- One effect of a run: the state in which it was asked for, and the answer to it. -/
structure Moment (σ : Type) where
  /-- The state in which the effect was asked for. -/
  before : σ
  /-- The effect. -/
  effect : Effect
  /-- The answer to the effect. -/
  answer : effect.Answer

/-- What is looked at of an effect and its answer. -/
abbrev View (ω : Type) := (effect : Effect) → effect.Answer → Option ω

/-- What a view picks out of moments. -/
def View.seen {σ ω : Type} (view : View ω) (moments : List (Moment σ)) : List ω :=
  moments.filterMap fun moment => view moment.effect moment.answer

theorem View.seen_cons {σ ω : Type} (view : View ω) (moment : Moment σ)
    (moments : List (Moment σ)) :
    view.seen (moment :: moments) =
      (view moment.effect moment.answer).toList ++ view.seen moments := by
  unfold View.seen
  rw [List.filterMap_cons]
  cases view moment.effect moment.answer <;> rfl

theorem View.seen_append {σ ω : Type} (view : View ω) (first rest : List (Moment σ)) :
    view.seen (first ++ rest) = view.seen first ++ view.seen rest :=
  List.filterMap_append

namespace Program

variable {α β σ ω : Type}

/-- The moments of a run, in order. -/
def history (handler : Handler σ) : Program α → σ → List (Moment σ)
  | done _, _ => []
  | perform effect next, state =>
    ⟨state, effect, (handler effect state).1⟩ ::
      (next (handler effect state).1).history handler (handler effect state).2

/-- The moments of one program after the other. -/
theorem history_bind (handler : Handler σ) (program : Program α) (next : α → Program β)
    (state : σ) :
    (program.bind next).history handler state = program.history handler state ++
      (next (program.run handler state).1).history handler (program.run handler state).2 := by
  induction program generalizing state with
  | done value => rfl
  | perform effect first step =>
    rw [bind, history, history, run, step, List.cons_append]

theorem answer_of_mem_history {handler : Handler σ} {program : Program α} {state : σ}
    {moment : Moment σ} (inside : moment ∈ program.history handler state) :
    moment.answer = (handler moment.effect moment.before).1 := by
  induction program generalizing state with
  | done value => nomatch inside
  | perform effect next step =>
    rcases List.mem_cons.mp inside with rfl | later
    · rfl
    · exact step _ later

/-! ### What a program can show -/

/-- What a program can show and what it can end with, over all answers to its effects. -/
inductive Shows (view : View ω) : Program α → List ω → α → Prop where
  | done (value : α) : Shows view (done value) [] value
  | perform {effect : Effect} {next : effect.Answer → Program α} (answer : effect.Answer)
      {seen : List ω} {value : α} (rest : Shows view (next answer) seen value) :
      Shows view (perform effect next) ((view effect answer).toList ++ seen) value

variable (view : View ω)

theorem shows_done_iff (value other : α) (seen : List ω) :
    Shows view (done value) seen other ↔ seen = [] ∧ other = value := by
  constructor
  · intro shown
    cases shown
    exact ⟨rfl, rfl⟩
  · rintro ⟨rfl, rfl⟩
    exact .done _

theorem shows_perform_iff (effect : Effect) (next : effect.Answer → Program α) (seen : List ω)
    (value : α) :
    Shows view (perform effect next) seen value ↔
      ∃ answer rest, seen = (view effect answer).toList ++ rest ∧
        Shows view (next answer) rest value := by
  constructor
  · intro shown
    cases shown with
    | perform answer rest => exact ⟨answer, _, rfl, rest⟩
  · rintro ⟨answer, rest, rfl, shown⟩
    exact .perform answer shown

theorem shows_bind_iff (program : Program α) (next : α → Program β) (seen : List ω) (value : β) :
    Shows view (program.bind next) seen value ↔
      ∃ middle first rest, Shows view program first middle ∧ Shows view (next middle) rest value ∧
        seen = first ++ rest := by
  induction program generalizing seen with
  | done middle =>
    constructor
    · intro shown
      exact ⟨middle, [], seen, .done middle, shown, rfl⟩
    · rintro ⟨_, _, _, first, second, rfl⟩
      cases first
      exact second
  | perform effect after step =>
    simp only [bind, shows_perform_iff, step]
    constructor
    · rintro ⟨answer, _, rfl, middle, first, rest, one, two, rfl⟩
      exact ⟨middle, _, rest, ⟨answer, first, rfl, one⟩, two, (List.append_assoc _ _ _).symm⟩
    · rintro ⟨middle, _, rest, ⟨answer, first, rfl, one⟩, two, rfl⟩
      exact ⟨answer, _, List.append_assoc _ _ _, middle, first, rest, one, two, rfl⟩

/-- What is shown does not change when only the value does. -/
theorem shows_map_iff (program : Program α) (change : α → β) (seen : List ω) (value : β) :
    Shows view (program.bind fun middle => .done (change middle)) seen value ↔
      ∃ middle, Shows view program seen middle ∧ value = change middle := by
  rw [shows_bind_iff]
  constructor
  · rintro ⟨middle, first, rest, shown, ending, rfl⟩
    obtain ⟨rfl, rfl⟩ := (shows_done_iff view _ _ _).mp ending
    exact ⟨middle, by rwa [List.append_nil], rfl⟩
  · rintro ⟨middle, shown, rfl⟩
    exact ⟨middle, seen, [], shown, .done _, (List.append_nil _).symm⟩

/-! ### Runs -/

/-- **Every run shows what its history shows.** -/
theorem shows_history (handler : Handler σ) (program : Program α) (state : σ) :
    Shows view program (view.seen (program.history handler state))
      (program.run handler state).1 := by
  induction program generalizing state with
  | done value => exact .done value
  | perform effect next step =>
    rw [history, View.seen_cons]
    exact .perform _ (step _ _)

section Steps

variable {view} {handler : Handler σ} {Leads : σ → List ω → σ → Prop}
  (stays : ∀ state, Leads state [] state)
  (step : ∀ effect state seen last, Leads (handler effect state).2 seen last →
    Leads state ((view effect (handler effect state).1).toList ++ seen) last)

include stays step

/-- What every effect does to the state, a run does up to its end. -/
theorem run_of_steps (program : Program α) (state : σ) :
    Leads state (view.seen (program.history handler state)) (program.run handler state).2 := by
  induction program generalizing state with
  | done value => exact stays state
  | perform effect next deeper =>
    rw [history, View.seen_cons]
    exact step _ _ _ _ (deeper _ _)

/-- What every effect does to the state, a run does up to each of its moments. -/
theorem moment_of_steps (program : Program α) {state : σ} {earlier later : List (Moment σ)}
    {moment : Moment σ} (split : program.history handler state = earlier ++ moment :: later) :
    Leads state (view.seen earlier) moment.before := by
  induction program generalizing state earlier with
  | done value => simp [history] at split
  | perform effect next deeper =>
    rw [history] at split
    cases earlier with
    | nil =>
      obtain ⟨rfl, -⟩ := List.cons_eq_cons.mp split
      exact stays state
    | cons first rest =>
      obtain ⟨rfl, others⟩ := List.cons_eq_cons.mp split
      rw [View.seen_cons]
      exact step _ _ _ _ (deeper _ others)

end Steps

/-- What was seen belongs to a moment of the run. -/
theorem exists_moment_of_seen {view : View ω} {moments : List (Moment σ)} {first rest : List ω}
    {item : ω} (split : view.seen moments = first ++ item :: rest) :
    ∃ earlier moment later, moments = earlier ++ moment :: later ∧ view.seen earlier = first ∧
      view moment.effect moment.answer = some item := by
  obtain ⟨earlier, others, rfl, before, after⟩ := List.filterMap_eq_append_iff.mp split
  obtain ⟨silent, moment, later, rfl, none', here, -⟩ := List.filterMap_eq_cons_iff.mp after
  refine ⟨earlier ++ silent, moment, later, by simp, ?_, here⟩
  have quiet : silent.filterMap (fun moment => view moment.effect moment.answer) = [] :=
    List.filterMap_eq_nil_iff.mpr none'
  rw [View.seen, List.filterMap_append, before, quiet, List.append_nil]

end Program

/-! ### Actions -/

instance {ε : Type} : LawfulMonad (Action ε) := by
  refine LawfulMonad.mk' (Action ε) (fun {α} action => ?_) (fun _ _ => rfl)
    fun action first second => ?_
  · have same : (fun fate : Fate ε α => match fate with
        | .done value => (pure (id value) : Action ε α)
        | .failed fault => Program.done (.failed fault)
        | .panicked message => Program.done (.panicked message)
        | .hung => Program.done .hung) = Program.done := by
      funext fate
      cases fate <;> rfl
    exact (congrArg (Program.bind action) same).trans (Program.bind_done action)
  · refine (Program.bind_assoc action _ _).trans (congrArg (Program.bind action) ?_)
    funext fate
    cases fate <;> rfl

/-- That an action which does not end with a value ends what comes after it in the same way. -/
inductive Fate.Stops {ε α β : Type} : Fate ε α → Fate ε β → Prop where
  | failed (fault : ε) : Stops (.failed fault) (.failed fault)
  | panicked (message : String) : Stops (.panicked message) (.panicked message)
  | hung : Stops .hung .hung

theorem Fate.Stops.eq {ε α : Type} {stop fate : Fate ε α} (stops : stop.Stops fate) :
    fate = stop := by
  cases stops <;> rfl

/-- What comes after an action that ended so. -/
def Fate.onward {ε α β : Type} (next : α → Action ε β) : Fate ε α → Action ε β
  | .done value => next value
  | .failed fault => Action.fail fault
  | .panicked message => Program.done (.panicked message)
  | .hung => Program.done .hung

namespace Action

variable {ε δ α β σ ω : Type}

/-- What an action can show and how it can end. -/
def Shows (view : View ω) (action : Action ε α) (seen : List ω) (fate : Fate ε α) : Prop :=
  Program.Shows view action.program seen fate

/-- The moments of an action that is run in a world. -/
def historyIn (host : Host σ) (action : Action ε α) (world : World σ) : List (Moment (World σ)) :=
  action.program.history host.handle world

theorem shows_historyIn (view : View ω) (host : Host σ) (action : Action ε α) (world : World σ) :
    action.Shows view (view.seen (action.historyIn host world)) (action.runIn host world).1 :=
  Program.shows_history view host.handle action.program world

/-- The run of one action after the other. -/
theorem runIn_bind (host : Host σ) (action : Action ε α) (next : α → Action ε β)
    (world : World σ) :
    (action >>= next).runIn host world =
      ((action.runIn host world).1.onward next).runIn host (action.runIn host world).2 :=
  Program.runIn_bind host action.program (Fate.onward next) world

theorem historyIn_bind (host : Host σ) (action : Action ε α) (next : α → Action ε β)
    (world : World σ) :
    (action >>= next).historyIn host world = action.historyIn host world ++
      ((action.runIn host world).1.onward next).historyIn host (action.runIn host world).2 :=
  Program.history_bind host.handle action.program (Fate.onward next) world

/-- What comes after an effect runs with its answer. -/
theorem runIn_ask_bind (host : Host σ) (effect : Effect) (next : effect.Answer → Action ε β)
    (world : World σ) :
    (Action.ask effect >>= next).runIn host world =
      (next (host.handle effect world).1).runIn host (host.handle effect world).2 := rfl

theorem historyIn_ask_bind (host : Host σ) (effect : Effect) (next : effect.Answer → Action ε β)
    (world : World σ) :
    (Action.ask effect >>= next).historyIn host world =
      ⟨world, effect, (host.handle effect world).1⟩ ::
        (next (host.handle effect world).1).historyIn host (host.handle effect world).2 := rfl

/-- What comes after an action, when the whole gives a value. -/
theorem runIn_bind_done {host : Host σ} {action : Action ε α} {next : α → Action ε β}
    {world : World σ} {last : β} (ends : ((action >>= next).runIn host world).1 = .done last) :
    ∃ value, (action.runIn host world).1 = .done value ∧
      (action >>= next).runIn host world =
        (next value).runIn host (action.runIn host world).2 ∧
      (action >>= next).historyIn host world = action.historyIn host world ++
        (next value).historyIn host (action.runIn host world).2 := by
  rw [runIn_bind] at ends ⊢
  rw [historyIn_bind]
  cases fate : (action.runIn host world).1 with
  | done value => exact ⟨value, rfl, rfl, rfl⟩
  | failed fault =>
    rw [fate] at ends
    cases ends
  | panicked message =>
    rw [fate] at ends
    cases ends
  | hung =>
    rw [fate] at ends
    cases ends

/-- The run of an action of which only the fate is changed. -/
theorem runIn_of_eq_bind {action : Action ε α} {changed : Action δ β}
    {change : Fate ε α → Fate δ β}
    (same : changed = Program.bind action fun middle => .done (change middle)) (host : Host σ)
    (world : World σ) :
    changed.runIn host world =
      (change (action.runIn host world).1, (action.runIn host world).2) := by
  rw [same]
  exact Program.runIn_bind host action.program _ world

theorem historyIn_of_eq_bind {action : Action ε α} {changed : Action δ β}
    {change : Fate ε α → Fate δ β}
    (same : changed = Program.bind action fun middle => .done (change middle)) (host : Host σ)
    (world : World σ) : changed.historyIn host world = action.historyIn host world := by
  rw [same]
  exact (Program.history_bind host.handle action.program _ world).trans (List.append_nil _)

variable (view : View ω)

theorem shows_pure_iff (value : α) (seen : List ω) (fate : Fate ε α) :
    Shows view (pure value : Action ε α) seen fate ↔ seen = [] ∧ fate = .done value :=
  Program.shows_done_iff view _ _ _

theorem shows_fail_iff (fault : ε) (seen : List ω) (fate : Fate ε α) :
    Shows view (fail fault : Action ε α) seen fate ↔ seen = [] ∧ fate = .failed fault :=
  Program.shows_done_iff view _ _ _

theorem shows_fail_bind_iff (fault : ε) (next : α → Action ε β) (seen : List ω) (fate : Fate ε β) :
    Shows view (fail fault >>= next) seen fate ↔ seen = [] ∧ fate = .failed fault :=
  Program.shows_done_iff view _ _ _

/-- **One action after the other.** -/
theorem shows_bind_iff (action : Action ε α) (next : α → Action ε β) (seen : List ω)
    (fate : Fate ε β) :
    Shows view (action >>= next) seen fate ↔
      (∃ value first rest, Shows view action first (.done value) ∧
        Shows view (next value) rest fate ∧ seen = first ++ rest) ∨
      ∃ stop, Shows view action seen stop ∧ stop.Stops fate := by
  refine (Program.shows_bind_iff view action.program _ seen fate).trans ?_
  constructor
  · rintro ⟨middle, first, rest, shown, after, rfl⟩
    cases middle with
    | done value => exact .inl ⟨value, first, rest, shown, after, rfl⟩
    | failed fault =>
      obtain ⟨rfl, rfl⟩ := (Program.shows_done_iff view _ _ _).mp after
      exact .inr ⟨_, by rwa [List.append_nil], .failed fault⟩
    | panicked message =>
      obtain ⟨rfl, rfl⟩ := (Program.shows_done_iff view _ _ _).mp after
      exact .inr ⟨_, by rwa [List.append_nil], .panicked message⟩
    | hung =>
      obtain ⟨rfl, rfl⟩ := (Program.shows_done_iff view _ _ _).mp after
      exact .inr ⟨_, by rwa [List.append_nil], .hung⟩
  · rintro (⟨value, first, rest, shown, after, rfl⟩ | ⟨stop, shown, stops⟩)
    · exact ⟨_, first, rest, shown, after, rfl⟩
    · cases stops with
      | failed fault => exact ⟨_, seen, [], shown, .done _, (List.append_nil _).symm⟩
      | panicked message => exact ⟨_, seen, [], shown, .done _, (List.append_nil _).symm⟩
      | hung => exact ⟨_, seen, [], shown, .done _, (List.append_nil _).symm⟩

theorem shows_ask_bind_iff (effect : Effect) (next : effect.Answer → Action ε β) (seen : List ω)
    (fate : Fate ε β) :
    Shows view (ask effect >>= next) seen fate ↔
      ∃ answer rest, seen = (view effect answer).toList ++ rest ∧
        Shows view (next answer) rest fate :=
  Program.shows_perform_iff view effect next seen fate

/-- An action of which only the fate is changed. -/
theorem shows_of_eq_bind {action : Action ε α} {changed : Action δ β}
    {change : Fate ε α → Fate δ β}
    (same : changed = Program.bind action fun middle => .done (change middle)) (seen : List ω)
    (fate : Fate δ β) :
    Shows view changed seen fate ↔
      ∃ middle, Shows view action seen middle ∧ fate = change middle := by
  rw [same]
  exact Program.shows_map_iff view action.program change seen fate

end Action

end DeviceTrial
