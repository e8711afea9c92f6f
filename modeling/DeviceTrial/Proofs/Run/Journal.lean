/-
**What a run writes down.**

Events and metrics only ever come at the end of what a world has of them, and an effect adds the event
that it logs or the metric that it records. So what a run adds can be read off its moments.

* `Action.events_runIn`, `Action.samples_runIn` — the events and the metrics after a run;
* `View.filter_seen` — what a filter leaves of them is what the effects that meet a test add;
* `Action.Within.unseen`, `Action.Within.shows_nil` — what asks for hidden effects alone shows
  nothing.
-/

import DeviceTrial.Proofs.Run.Confinement

namespace DeviceTrial

/-- The event that an effect logs. -/
def Effect.event? : Effect → Option Event
  | .log event => some event
  | _ => none

/-- The metric that an effect records. -/
def Effect.sample? : Effect → Option Sample
  | .record sample => some sample
  | _ => none

namespace View

variable {σ ω τ : Type}

/-- Looking at what effects add, whatever they are answered. -/
def ofAdded (adds : Effect → Option τ) : View τ := fun effect _ => adds effect

/-- Looking at the effects that meet a test. -/
def ofTest (test : Effect → Bool) : View Effect :=
  ofAdded fun effect => if test effect then some effect else none

/-- That an effect is never seen. -/
def Hides (view : View ω) (effect : Effect) : Prop := ∀ answer, view effect answer = none

theorem hides_ofTest {test : Effect → Bool} {effect : Effect} (fails : test effect = false) :
    (ofTest test).Hides effect := by
  intro answer
  rw [ofTest, ofAdded, fails]
  rfl

/-- **A filter of what effects add** leaves what the effects that meet a test add. -/
theorem filter_seen {adds : Effect → Option τ} {worth : τ → Bool} {test : Effect → Bool}
    (judges : ∀ effect item, adds effect = some item → test effect = worth item)
    (moments : List (Moment σ)) :
    ((ofAdded adds).seen moments).filter worth =
      ((ofTest test).seen moments).filterMap adds := by
  rw [seen, seen, List.filter_filterMap, List.filterMap_filterMap]
  congr 1
  funext moment
  show (adds moment.effect).filter worth =
    (if test moment.effect then some moment.effect else none).bind adds
  cases added : adds moment.effect with
  | none =>
    split
    · exact added.symm
    · rfl
  | some item =>
    rw [judges _ _ added, Option.filter_some]
    split
    · exact added.symm
    · rfl

end View

namespace Action

variable {σ τ ω ε α : Type}

/-- What a part of the world keeps of every effect, it keeps of a run. -/
theorem runIn_adds {host : Host σ} (part : World σ → List τ) {adds : Effect → Option τ}
    (step : ∀ effect world, part (host.handle effect world).2 = part world ++ (adds effect).toList)
    (action : Action ε α) (world : World σ) :
    part (action.runIn host world).2 =
      part world ++ (View.ofAdded adds).seen (action.historyIn host world) := by
  refine @Program.run_of_steps _ _ _ (View.ofAdded adds) host.handle
    (fun world seen last => part last = part world ++ seen) (fun world => (List.append_nil _).symm)
    (fun effect world seen last leads => ?_) action.program world
  rw [leads, step, List.append_assoc]
  rfl

/-- **The events after a run.** -/
theorem events_runIn (host : Host σ) (action : Action ε α) (world : World σ) :
    (action.runIn host world).2.events =
      world.events ++ (View.ofAdded Effect.event?).seen (action.historyIn host world) := by
  refine runIn_adds World.events (fun effect world => ?_) action world
  cases effect with
  | log event => rfl
  | _ => exact (List.append_nil _).symm

/-- **The metrics after a run.** -/
theorem samples_runIn (host : Host σ) (action : Action ε α) (world : World σ) :
    (action.runIn host world).2.samples =
      world.samples ++ (View.ofAdded Effect.sample?).seen (action.historyIn host world) := by
  refine runIn_adds World.samples (fun effect world => ?_) action world
  cases effect with
  | record sample => rfl
  | _ => exact (List.append_nil _).symm

variable {view : View ω}

theorem Within.unseen {action : Action ε α} (within : action.Within view.Hides) (host : Host σ)
    (world : World σ) : view.seen (action.historyIn host world) = [] :=
  List.filterMap_eq_nil_iff.mpr fun moment inside =>
    within.historyIn world moment inside moment.answer

/-- What asks for hidden effects alone shows nothing. -/
theorem Within.shows_nil {action : Action ε α} (within : action.Within view.Hides)
    {seen : List ω} {fate : Fate ε α} (shown : action.Shows view seen fate) : seen = [] := by
  have program : ∀ {program : Program (Fate ε α)}, program.Within view.Hides →
      ∀ {seen}, program.Shows view seen fate → seen = [] := by
    intro program within
    induction within with
    | done value => exact fun shown => ((Program.shows_done_iff _ _ _ _).mp shown).1
    | perform here _ step =>
      intro seen shown
      obtain ⟨answer, rest, rfl, after⟩ := (Program.shows_perform_iff _ _ _ _ _).mp shown
      rw [here answer, step answer after]
      rfl
  exact program within shown

variable {β : Type} {action : Action ε α} {next : α → Action ε β} {seen : List ω}

/-- What comes after hidden effects is all that is seen, if anything comes. -/
theorem Within.shows_bind_or (within : action.Within view.Hides) {fate : Fate ε β}
    (shown : (action >>= next).Shows view seen fate) :
    (∃ value, (next value).Shows view seen fate) ∨ seen = [] ∧ ∀ value, fate ≠ .done value := by
  rcases (shows_bind_iff _ _ _ _ _).mp shown with
    ⟨value, first, rest, one, two, rfl⟩ | ⟨stop, one, stops⟩
  · rw [within.shows_nil one]
    exact .inl ⟨value, two⟩
  · refine .inr ⟨within.shows_nil one, ?_⟩
    cases stops <;> nofun

theorem Within.shows_bind (within : action.Within view.Hides) {last : β}
    (shown : (action >>= next).Shows view seen (.done last)) :
    ∃ value, (next value).Shows view seen (.done last) :=
  (within.shows_bind_or shown).resolve_right fun stops => stops.2 last rfl

end Action

end DeviceTrial
