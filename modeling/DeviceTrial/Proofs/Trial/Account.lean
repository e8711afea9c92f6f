/-
**The accounts of a trial.**

How the phases of a trial ended is written down in three places: in the slots of its report, in its
metrics and in its log. Each phase goes into all of them with one `Note`, and how much is written for
it depends on the note alone: a phase that was skipped or broke down under the trial has no duration,
and a phase that was not reached has nothing.

* `accounts_of_phase` — a phase writes the note of its work, and what comes after it the rest;
* `accounts_of_protected`, `accounts_of_conduct` — so the effects that belong to the accounts are
  those of the notes in the order of the phases, and then those of the verdict;
* `Accounts` — what that says about slots, metrics and log.
-/

import DeviceTrial.Proofs.Run.Journal
import DeviceTrial.Proofs.Trial.Confinement
import DeviceTrial.Proofs.Trial.Settling

namespace DeviceTrial

/-! ### What belongs to the accounts -/

/-- Whether a metric is about phases or trials. -/
def Metric.isAccount : Metric → Bool
  | .phases | .phaseDurations | .trials => true
  | .identitiesMade | .identitiesRemoved => false

/-- The messages about the ends of phases and of trials. -/
def Event.accountMessages : List String :=
  [Event.phaseEnd, "phase failed", "phase skipped", "protected region crashed", "scenario passed",
    "scenario failed"]

/-- Whether an event is about the end of a phase or of a trial. -/
def Event.isAccount (event : Event) : Bool :=
  event.source == .trial && Event.accountMessages.contains event.message

/-- Of the events of the trial those with the messages belong to the accounts. -/
theorem Event.isAccount_trial (level : Level) (message : String)
    (fields : List (String × String)) :
    isAccount ⟨level, .trial, message, fields⟩ = accountMessages.contains message := rfl

/-- Whether an effect belongs to the accounts. -/
def Effect.isAccount : Effect → Bool
  | .log event => event.isAccount
  | .record sample => sample.metric.isAccount
  | _ => false

/-- The effects of a run that belong to the accounts. -/
def accounts {σ : Type} (moments : List (Moment σ)) : List Effect :=
  (View.ofTest Effect.isAccount).seen moments

theorem accounts_append {σ : Type} (first rest : List (Moment σ)) :
    accounts (first ++ rest) = accounts first ++ accounts rest :=
  View.seen_append _ _ _

/-- Moments whose effects all belong to the accounts. -/
theorem accounts_of_effects {σ : Type} {moments : List (Moment σ)} {effects : List Effect}
    (same : moments.map Moment.effect = effects)
    (all : ∀ effect ∈ effects, effect.isAccount = true) : accounts moments = effects := by
  subst same
  induction moments with
  | nil => rfl
  | cons moment rest step =>
    obtain ⟨here, others⟩ := List.forall_mem_cons.mp all
    have first : View.ofTest Effect.isAccount moment.effect moment.answer = some moment.effect :=
      if_pos here
    rw [accounts, View.seen_cons, first]
    exact congrArg (List.cons _) (step others)

/-! ### Entries -/

/-- How a phase goes into the accounts. -/
inductive Note where
  /-- It came to its end, and that was noted as its end. -/
  | finished (slot : Slot)
  /-- The scenario has no such phase. -/
  | skipped
  /-- The control plane broke down under it, and with it under the trial. -/
  | crashed (message : String)
  /-- It was not reached. -/
  | unreached

namespace Note

/-- The slot of a phase. -/
def slot : Note → Slot
  | finished slot => slot
  | skipped => .skipped
  | crashed message => .failed (Trial.panicReason message)
  | unreached => .notAttempted

/-- The notes of a trial by phase. -/
def ofPhases (made driven verified cleaned : Note) : Phase → Note
  | .provision => made
  | .drive => driven
  | .verify => verified
  | .cleanup => cleaned

/-- Whether a phase was noted to have come to its end. -/
def isFinished : Note → Bool
  | finished _ => true
  | _ => false

/-- Whether a phase was reached or skipped. -/
def isRecorded : Note → Bool
  | unreached => false
  | _ => true

/-- The event about a phase that came to its end. -/
def endEvent (plan : Plan) (phase : Phase) (slot : Slot) : Event :=
  match slot.reason? with
  | some reason => ⟨.error, .trial, "phase failed",
      [("scenario", plan.family.name), ("identity", plan.identity), ("phase", phase.name),
        ("reason", reason)]⟩
  | none => ⟨.info, .trial, Event.phaseEnd,
      [("scenario", plan.family.name), ("identity", plan.identity), ("phase", phase.name)]⟩

/-- The event about a phase, unless it was not reached. -/
def event? (plan : Plan) (phase : Phase) : Note → Option Event
  | finished slot => some (endEvent plan phase slot)
  | skipped => some ⟨.info, .trial, "phase skipped",
      [("scenario", plan.family.name), ("phase", phase.name)]⟩
  | crashed message => some ⟨.error, .trial, "protected region crashed",
      [("scenario", plan.family.name), ("identity", plan.identity), ("phase", phase.name),
        ("reason", Trial.panicReason message)]⟩
  | unreached => none

/-- What is written about a phase: its duration, an event, and its result. -/
def effects (plan : Plan) (phase : Phase) (note : Note) : List Effect :=
  (if note.isFinished then [.record (.phaseDuration plan.family phase)] else []) ++
    match note.event? plan phase with
    | some event => [.log event, .record (.phase plan.family phase note.slot)]
    | none => []

theorem isAccount_event {plan : Plan} {phase : Phase} {note : Note} {event : Event}
    (noted : note.event? plan phase = some event) : event.isAccount = true := by
  cases note with
  | finished slot =>
    cases noted
    unfold endEvent
    cases slot.reason? with
    | none => exact (Event.isAccount_trial _ _ _).trans (by decide +kernel)
    | some reason => exact (Event.isAccount_trial _ _ _).trans (by decide +kernel)
  | skipped =>
    cases noted
    exact (Event.isAccount_trial _ _ _).trans (by decide +kernel)
  | crashed message =>
    cases noted
    exact (Event.isAccount_trial _ _ _).trans (by decide +kernel)
  | unreached => cases noted

theorem isAccount_effects (plan : Plan) (phase : Phase) (note : Note) :
    ∀ effect ∈ note.effects plan phase, effect.isAccount = true := by
  refine List.forall_mem_append.mpr ⟨fun effect inside => ?_, ?_⟩
  · split at inside
    · obtain rfl := List.mem_singleton.mp inside
      rfl
    · cases inside
  · split
    · rename_i event noted
      exact List.forall_mem_cons.mpr ⟨isAccount_event noted, List.forall_mem_singleton.mpr rfl⟩
    · nofun

end Note

namespace Trial

variable {σ : Type} {plan : Plan} {limits : Limits} {host : Host σ} {world : World σ}
  {whole : List (Moment (World σ))}

/-- The note of a phase whose work ended so. -/
def noteOf : Fate TrialError Unit → Note
  | .done () => .finished .passed
  | .failed fault => .finished (.failed fault.message)
  | .panicked message => .crashed message
  | .hung => .unreached

/-- That the note of a phase is that of a run of its work, which was a part of the whole run. -/
inductive Accounted (host : Host σ) (plan : Plan) (limits : Limits)
    (whole : List (Moment (World σ))) : Phase → Note → Prop where
  /-- The phase was not reached. -/
  | unreached {phase : Phase} (early : phase ≠ .cleanup) :
    Accounted host plan limits whole phase .unreached
  /-- The identity is not to be made by the trial. -/
  | skipped (unwanted : plan.provisioning = none) :
    Accounted host plan limits whole .provision .skipped
  /-- The phase came to its end, or is the cleanup, which always does. -/
  | finished {phase : Phase} {start : World σ} {slot : Slot}
      (within : (work plan limits phase).historyIn host start <:+: whole)
      (tells : Tells plan limits phase ((work plan limits phase).runIn host start).1 slot)
      (sane : phase ≠ .cleanup → ∀ message,
        ((work plan limits phase).runIn host start).1 ≠ .panicked message) :
    Accounted host plan limits whole phase (.finished slot)
  /-- The control plane broke down under the phase. -/
  | crashed {phase : Phase} {start : World σ} {message : String} (early : phase ≠ .cleanup)
      (within : (work plan limits phase).historyIn host start <:+: whole)
      (panics : ((work plan limits phase).runIn host start).1 = .panicked message) :
    Accounted host plan limits whole phase (.crashed message)

theorem accounted_of_work {phase : Phase} (early : phase ≠ .cleanup)
    (within : (work plan limits phase).historyIn host world <:+: whole) :
    Accounted host plan limits whole phase
      (noteOf ((work plan limits phase).runIn host world).1) := by
  cases fate : ((work plan limits phase).runIn host world).1 with
  | done value =>
    refine .finished within ?_ fun _ message same => ?_
    · rw [fate]
      exact .passed phase
    · cases fate.symm.trans same
  | failed fault =>
    refine .finished within ?_ fun _ message same => ?_
    · rw [fate]
      exact .failed phase fault
    · cases fate.symm.trans same
  | panicked message => exact .crashed early within fate
  | hung => exact .unreached early

/-! ### What writes the notes -/

theorem accounts_finishPhase (plan : Plan) (phase : Phase) (slot : Slot) (progress : Progress)
    (host : Host σ) (world : World σ) :
    accounts ((finishPhase plan phase slot progress).historyIn host world) =
      (Note.finished slot).effects plan phase := by
  refine accounts_of_effects ?_ (Note.isAccount_effects _ _ _)
  cases slot <;> rfl

theorem accounts_skipPhase (plan : Plan) (phase : Phase) (progress : Progress) (host : Host σ)
    (world : World σ) :
    accounts ((skipPhase plan phase progress).historyIn host world) =
      Note.skipped.effects plan phase :=
  accounts_of_effects rfl (Note.isAccount_effects _ _ _)

theorem accounts_crash {phase : Phase} {progress : Progress}
    (running : progress.card.pending? = some phase) (message : String) (host : Host σ)
    (world : World σ) :
    accounts ((crash plan message progress).historyIn host world) =
      (Note.crashed message).effects plan phase := by
  refine accounts_of_effects ?_ (Note.isAccount_effects _ _ _)
  unfold crash
  rw [running]
  rfl

/-- What an action writes that does not write any accounts. -/
theorem accounts_of_within {ε α : Type} {action : Action ε α}
    (within : action.Within (View.ofTest Effect.isAccount).Hides) (host : Host σ)
    (world : World σ) : accounts (action.historyIn host world) = [] :=
  within.unseen host world

/-- The work of a phase writes no accounts. -/
theorem allowsWork_unaccounted : Effect.AllowsWork (View.ofTest Effect.isAccount).Hides where
  calls _ _ _ := View.hides_ofTest rfl
  secrets _ := View.hides_ofTest rfl
  reads _ := View.hides_ofTest rfl
  launches _ := View.hides_ofTest rfl
  events event other := by
    refine View.hides_ofTest ?_
    rw [Effect.isAccount, Event.isAccount, beq_false_of_ne other]
    rfl

/-- **An end that was settled** is in the slot and in the accounts. -/
theorem accounts_settle {α : Type} {phase : Phase} {progress last : Progress}
    (running : progress.card.pending? = some phase) (stop : Fate TrialError α)
    (ends : ((settle plan phase progress stop).runIn host world).1 = .done last) :
    last.card = progress.card.set phase (noteOf (stop.map fun _ => ())).slot ∧
      accounts ((settle plan phase progress stop).historyIn host world) =
        (noteOf (stop.map fun _ => ())).effects plan phase := by
  have ended := (runIn_settle host world running stop).symm.trans ends
  cases stop with
  | done value =>
    cases ended
    exact ⟨rfl, accounts_finishPhase plan phase .passed progress host world⟩
  | failed fault =>
    cases ended
    exact ⟨rfl, accounts_finishPhase plan phase (.failed fault.message) progress host world⟩
  | panicked message =>
    cases ended
    exact ⟨rfl, accounts_crash running message host world⟩
  | hung => cases ended

/-- **A phase writes the note of its work**, and what comes after it the rest. -/
theorem accounts_of_phase {α : Type} {phase : Phase} {action : Action TrialError α}
    {progress last : Progress} {next : Progress → TrialAction Progress}
    (running : progress.card.pending? = some phase)
    (works : work plan limits phase = action >>= fun _ => pure ())
    (unaccounted : action.Within (View.ofTest Effect.isAccount).Hides)
    (ends : ((Trial.phase plan phase action progress next).runIn host world).1 = .done last) :
    (work plan limits phase).historyIn host world <+:
        (Trial.phase plan phase action progress next).historyIn host world ∧
      ((∃ middle, ((work plan limits phase).runIn host world).1 = .done () ∧
          (next (progress.write phase .passed)).historyIn host middle <:+
            (Trial.phase plan phase action progress next).historyIn host world ∧
          ((next (progress.write phase .passed)).runIn host middle).1 = .done last ∧
          accounts ((Trial.phase plan phase action progress next).historyIn host world) =
            (Note.finished .passed).effects plan phase ++
              accounts ((next (progress.write phase .passed)).historyIn host middle)) ∨
        last.card = progress.card.set phase
            (noteOf ((work plan limits phase).runIn host world).1).slot ∧
          accounts ((Trial.phase plan phase action progress next).historyIn host world) =
            (noteOf ((work plan limits phase).runIn host world).1).effects plan phase) := by
  have silent := accounts_of_within unaccounted host world
  have fate := runIn_void host action world
  have part := historyIn_void host action world
  rw [← works] at fate part
  rw [phase_eq] at ends ⊢
  have run := Action.runIn_onward host action (afterPhase plan phase progress next) world
  have moments := Action.historyIn_onward host action (afterPhase plan phase progress next) world
  rw [run] at ends
  rw [moments, part, accounts_append, silent, List.nil_append, fate]
  refine ⟨List.prefix_append _ _, ?_⟩
  cases stop : (action.runIn host world).1 with
  | done value =>
    rw [stop, afterPhase] at ends
    obtain ⟨finished, wrote, onward, rest⟩ := Action.runIn_bind_done ends
    rw [(gives_finishPhase plan phase .passed progress).runIn] at wrote
    cases wrote
    rw [onward] at ends
    refine .inl ⟨_, rfl, ?_, ends, ?_⟩
    · rw [afterPhase, rest, ← List.append_assoc]
      exact List.suffix_append _ _
    · rw [afterPhase, rest, accounts_append, accounts_finishPhase]
  | failed fault =>
    rw [stop] at ends
    exact .inr (accounts_settle running (.failed fault) ends)
  | panicked message =>
    rw [stop] at ends
    exact .inr (accounts_settle running (.panicked message) ends)
  | hung =>
    rw [stop] at ends
    exact .inr (accounts_settle running .hung ends)

theorem accounts_of_verify {progress last : Progress}
    (running : progress.card.pending? = some .verify)
    (within : (verifyPhase plan progress).historyIn host world <:+: whole)
    (ends : ((verifyPhase plan progress).runIn host world).1 = .done last) :
    ∃ verified, Accounted host plan limits whole .verify verified ∧
      last.card = progress.card.set .verify verified.slot ∧
      accounts ((verifyPhase plan progress).historyIn host world) =
        verified.effects plan .verify := by
  have works : work plan limits .verify =
      Verification.verify plan.expectation plan.identity >>= fun _ => pure () :=
    (bind_pure _).symm
  obtain ⟨first, ⟨middle, fate, -, rest, written⟩ | ⟨card, written⟩⟩ := accounts_of_phase running
    works (Verification.within_verify allowsWork_unaccounted _ _) ends
  · cases rest
    refine ⟨_, accounted_of_work nofun (first.isInfix.trans within), ?_, ?_⟩
    · rw [fate]
      rfl
    · rw [fate]
      exact written.trans (List.append_nil _)
  · exact ⟨_, accounted_of_work nofun (first.isInfix.trans within), card, written⟩

/-- After a drive that did not pass there is no verification. -/
theorem accounts_of_undriven {progress last : Progress}
    (same : progress.card = (readied plan).card) (stop : Fate TrialError Unit)
    (accounted : Accounted host plan limits whole .drive (noteOf stop))
    (ends : ((settle plan .drive progress stop).runIn host world).1 = .done last) :
    ∃ driven verified, Accounted host plan limits whole .drive driven ∧
      Accounted host plan limits whole .verify verified ∧
      last.card =
        ⟨(readied plan).card.provision, driven.slot, verified.slot, .notAttempted⟩ ∧
      accounts ((settle plan .drive progress stop).historyIn host world) =
        driven.effects plan .drive ++ verified.effects plan .verify := by
  have running : progress.card.pending? = some .drive := by rw [same, running_readied]
  obtain ⟨card, written⟩ := accounts_settle running stop ends
  have void : stop.map (fun _ => ()) = stop := by cases stop <;> rfl
  rw [void] at card written
  refine ⟨_, .unreached, accounted, .unreached nofun, ?_, ?_⟩
  · rw [card, same]
    rfl
  · rw [written]
    exact (List.append_nil _).symm

/-- The drive writes its note, and then the verification does. -/
theorem accounts_of_drive {last : Progress}
    (within : (drivePhase plan limits (readied plan)).historyIn host world <:+: whole)
    (ends : ((drivePhase plan limits (readied plan)).runIn host world).1 = .done last) :
    ∃ driven verified, Accounted host plan limits whole .drive driven ∧
      Accounted host plan limits whole .verify verified ∧
      last.card =
        ⟨(readied plan).card.provision, driven.slot, verified.slot, .notAttempted⟩ ∧
      accounts ((drivePhase plan limits (readied plan)).historyIn host world) =
        driven.effects plan .drive ++ verified.effects plan .verify := by
  obtain ⟨fate, part⟩ := runIn_work_drive plan limits host world
  have silent : accounts ((drive plan limits).historyIn host world) = [] :=
    accounts_of_within (Drive.within_run allowsWork_unaccounted _ _ _ _) host world
  rw [drivePhase_eq] at ends within ⊢
  have run := Action.runIn_onward host (drive plan limits) (afterDrive plan (readied plan)) world
  have moments := Action.historyIn_onward host (drive plan limits) (afterDrive plan (readied plan))
    world
  rw [run] at ends
  rw [moments] at within ⊢
  rw [accounts_append, silent, List.nil_append]
  have accounted : Accounted host plan limits whole .drive
      (noteOf ((work plan limits .drive).runIn host world).1) :=
    accounted_of_work nofun (part ▸ (List.prefix_append _ _).isInfix.trans within)
  rw [fate] at accounted
  unfold afterDrive at ends within ⊢
  have ready := card_leaving (readied plan) ((drive plan limits).runIn host world).1
  cases stop : judged ((drive plan limits).runIn host world).1 with
  | done value =>
    rw [stop] at ends within accounted
    obtain ⟨finished, wrote, onward, rest⟩ := Action.runIn_bind_done ends
    rw [(gives_finishPhase plan .drive .passed (readied plan)).runIn] at wrote
    cases wrote
    rw [onward] at ends
    dsimp only at within ⊢
    rw [rest] at within ⊢
    rw [← List.append_assoc] at within
    obtain ⟨verified, verifies, card, written⟩ := accounts_of_verify (running_driven plan)
      ((List.suffix_append _ _).isInfix.trans within) ends
    refine ⟨_, verified, accounted, verifies, card, ?_⟩
    rw [accounts_append, accounts_finishPhase, written]
    rfl
  | failed fault =>
    rw [stop] at ends accounted
    exact accounts_of_undriven ready (.failed fault) accounted ends
  | panicked message =>
    rw [stop] at ends accounted
    exact accounts_of_undriven ready (.panicked message) accounted ends
  | hung =>
    rw [stop] at ends accounted
    exact accounts_of_undriven ready .hung accounted ends

/-- **The phases before the cleanup write their notes one after the other.** -/
theorem accounts_of_protected {last : Progress}
    (within : (protectedPhases plan limits).historyIn host world <:+: whole)
    (ends : ((protectedPhases plan limits).runIn host world).1 = .done last) :
    ∃ made driven verified, Accounted host plan limits whole .provision made ∧
      Accounted host plan limits whole .drive driven ∧
      Accounted host plan limits whole .verify verified ∧
      last.card = ⟨made.slot, driven.slot, verified.slot, .notAttempted⟩ ∧
      accounts ((protectedPhases plan limits).historyIn host world) =
        made.effects plan .provision ++
          (driven.effects plan .drive ++ verified.effects plan .verify) := by
  unfold protectedPhases at within ends ⊢
  cases wanted : plan.provisioning with
  | none =>
    have ready : blank.write .provision .skipped = readied plan := by
      rw [readied, wanted]
      rfl
    simp only [wanted] at within ends ⊢
    obtain ⟨skipped, wrote, onward, rest⟩ := Action.runIn_bind_done ends
    rw [(gives_skipPhase plan .provision blank).runIn] at wrote
    cases wrote
    rw [onward, ready] at ends
    rw [rest, ready] at within ⊢
    obtain ⟨driven, verified, drives, verifies, card, written⟩ :=
      accounts_of_drive ((List.suffix_append _ _).isInfix.trans within) ends
    refine ⟨.skipped, driven, verified, .skipped wanted, drives, verifies, ?_, ?_⟩
    · rw [card, ← ready]
      rfl
    · rw [accounts_append, accounts_skipPhase, written]
  | some provisioning =>
    have ready : blank.write .provision .passed = readied plan := by
      rw [readied, wanted]
      rfl
    have works : work plan limits .provision =
        provision plan provisioning >>= fun _ => pure () := by
      rw [work, wanted]
    simp only [wanted] at within ends ⊢
    have early : Phase.provision ≠ .cleanup := by decide
    have unaccounted := Identity.within_establish allowsWork_unaccounted.toAllowsUpkeep
      (.of_all (fun _ => View.hides_ofTest rfl) provisioning.paths) allowsWork_unaccounted.secrets
      (fun _ => View.hides_ofTest rfl) (View.hides_ofTest rfl) plan.identity provisioning.policy
      provisioning.group
    obtain ⟨first, ⟨middle, fate, part, rest, written⟩ | ⟨card, written⟩⟩ :=
      accounts_of_phase rfl works unaccounted ends
    · have accounted := accounted_of_work early (first.isInfix.trans within)
      rw [fate] at accounted
      rw [ready] at part rest written
      obtain ⟨driven, verified, drives, verifies, card, wrote⟩ :=
        accounts_of_drive (part.isInfix.trans within) rest
      refine ⟨_, driven, verified, accounted, drives, verifies, ?_, ?_⟩
      · rw [card, ← ready]
        rfl
      · rw [written, wrote]
        rfl
    · refine ⟨_, .unreached, .unreached, accounted_of_work early (first.isInfix.trans within),
        .unreached (by decide), .unreached (by decide), card, ?_⟩
      rw [written]
      exact (List.append_nil _).symm

/-! ### The verdict -/

/-- The event about the verdict on a trial. -/
def verdictEvent (plan : Plan) (report : Report) : Event :=
  match report.verdict with
  | .passed => ⟨.info, .trial, "scenario passed",
      [("scenario", plan.family.name), ("run_id", plan.tag.text)]⟩
  | .failed => ⟨.error, .trial, "scenario failed",
      [("scenario", plan.family.name), ("run_id", plan.tag.text), ("failures", toString
        (Phase.all.filter fun phase => (report.card.get phase).isFailed).length)]⟩

/-- There is a failure for every slot that failed. -/
theorem length_failures (card : Scorecard) :
    card.failures.length = (Phase.all.filter fun phase => (card.get phase).isFailed).length := by
  rw [Scorecard.failures, List.length_filterMap_eq_countP, List.countP_eq_length_filter]
  congr 2
  funext phase
  cases card.get phase <;> rfl

theorem accounts_conclude (plan : Plan) (progress : Progress) (host : Host σ) (world : World σ) :
    accounts ((conclude plan progress).historyIn host world) =
      [.record (.trial plan.family progress.card.verdict),
        .log (verdictEvent plan (reportOn plan progress))] := by
  have verdict : (reportOn plan progress).verdict = progress.card.verdict := rfl
  have known : (verdictEvent plan (reportOn plan progress)).isAccount = true := by
    unfold verdictEvent
    cases (reportOn plan progress).verdict with
    | passed => exact (Event.isAccount_trial _ _ _).trans (by decide +kernel)
    | failed => exact (Event.isAccount_trial _ _ _).trans (by decide +kernel)
  refine accounts_of_effects ?_
    (List.forall_mem_cons.mpr ⟨rfl, List.forall_mem_singleton.mpr known⟩)
  unfold conclude verdictEvent
  rw [← length_failures]
  cases same : progress.card.verdict with
  | passed =>
    simp only [Report.verdict, same, reportOn]
    rfl
  | failed =>
    simp only [Report.verdict, same, reportOn]
    rfl

/-- **The accounts of a trial are the notes on its phases**, in order, and then its verdict. -/
theorem accounts_of_conduct {report : Report} {last : World σ}
    (run : (conduct plan limits).runIn host world = (.done report, last)) :
    ∃ notes : Phase → Note, (∀ phase, report.card.get phase = (notes phase).slot) ∧
      (∀ phase, Accounted host plan limits ((conduct plan limits).historyIn host world) phase
        (notes phase)) ∧
      accounts ((conduct plan limits).historyIn host world) =
        (Phase.all.flatMap fun phase => (notes phase).effects plan phase) ++
          [.record (.trial plan.family report.verdict), .log (verdictEvent plan report)] := by
  obtain ⟨progress, middle, phases, closing, history⟩ := conduct_run run
  obtain ⟨slot, cleaned, noted, known, rfl, closes⟩ := closing_run closing
  have phasesWithin : (protectedPhases plan limits).historyIn host (begun plan world) <:+:
      (conduct plan limits).historyIn host world := by
    rw [history]
    exact (List.prefix_append _ _).isInfix.trans (List.suffix_cons _ _).isInfix
  have cleanupWithin : (work plan limits .cleanup).historyIn host middle <:+:
      (conduct plan limits).historyIn host world := by
    rw [work, historyIn_void, history, closes]
    refine .trans ?_ (List.suffix_cons _ _).isInfix
    exact (List.prefix_append _ _).isInfix.trans (List.suffix_append _ _).isInfix
  obtain ⟨made, driven, verified, makes, drives, verifies, card, written⟩ :=
    accounts_of_protected phasesWithin (congrArg Prod.fst phases)
  have removes : Accounted host plan limits ((conduct plan limits).historyIn host world) .cleanup
      (.finished slot) := by
    refine .finished cleanupWithin ?_ fun early => absurd rfl early
    rw [work, runIn_void, known]
    exact tells_cleanup plan limits _
  have absent : (absentEvent plan).isAccount = false :=
    (Event.isAccount_trial _ _ _).trans (by decide +kernel)
  have silent : accounts ((cleanup plan).historyIn host middle) = [] :=
    accounts_of_within (within_cleanup allowsWork_unaccounted.toAllowsUpkeep
      (fun provisioning _ => .of_all (fun _ => View.hides_ofTest rfl) provisioning.paths)
      (View.hides_ofTest rfl) (View.hides_ofTest absent)) host middle
  refine ⟨Note.ofPhases made driven verified (.finished slot), ?_, ?_, ?_⟩
  · intro phase
    rw [reportOn, Progress.write, card]
    cases phase <;> rfl
  · intro phase
    cases phase with
    | provision => exact makes
    | drive => exact drives
    | verify => exact verifies
    | cleanup => exact removes
  · have unaccounted : (firstEvent plan).isAccount = false :=
      (Event.isAccount_trial _ _ _).trans (by decide +kernel)
    have opening : accounts [(⟨world, .log (firstEvent plan), ()⟩ : Moment (World σ))] = [] := by
      rw [accounts, View.seen_cons, View.hides_ofTest unaccounted]
      rfl
    rw [history, ← List.singleton_append, accounts_append, opening, accounts_append, written,
      closes, accounts_append, accounts_append, silent, accounts_finishPhase, accounts_conclude]
    simp only [Phase.all, List.flatMap_cons, List.flatMap_nil, List.append_nil, List.nil_append,
      List.append_assoc]
    rfl

/-! ### Slots, metrics and log -/

/-- **The accounts of a trial**: what the slots of its report, the metrics that it recorded and the
events that it logged say about its phases, as they were noted. -/
structure Accounts (host : Host σ) (plan : Plan) (limits : Limits)
    (whole : List (Moment (World σ))) (report : Report) (notes : Phase → Note)
    (samples : List Sample) (events : List Event) : Prop where
  /-- Each phase was noted as its work ended. -/
  accounted : ∀ phase, Accounted host plan limits whole phase (notes phase)
  /-- The slots are those of the notes. -/
  slots : ∀ phase, report.card.get phase = (notes phase).slot
  /-- Every slot that was written is counted once, under its label. -/
  phases : samples.filter (·.metric = .phases) =
    (Phase.all.filter fun phase => report.card.get phase ≠ .notAttempted).map fun phase =>
      .phase plan.family phase (report.card.get phase)
  /-- There is one duration for every phase that was noted to have come to its end. -/
  durations : samples.filter (·.metric = .phaseDurations) =
    (Phase.all.filter fun phase => (notes phase).isFinished).map (.phaseDuration plan.family)
  /-- The cleanup always is one of them. -/
  cleanup : (notes .cleanup).isFinished = true
  /-- The trial is counted once, under its verdict. -/
  trials : samples.filter (·.metric = .trials) = [.trial plan.family report.verdict]
  /-- There is one event for every slot that was written, and then one for the verdict. -/
  events : events.filter Event.isAccount =
    (Phase.all.filterMap fun phase => (notes phase).event? plan phase) ++
      [verdictEvent plan report]

theorem Accounted.recorded_iff {phase : Phase} {note : Note}
    (accounted : Accounted host plan limits whole phase note) :
    note.isRecorded = true ↔ note.slot ≠ .notAttempted := by
  cases accounted with
  | @finished _ start slot within tells sane =>
    have written : ∀ fate, ¬ Tells plan limits phase fate .notAttempted := nofun
    refine iff_of_true rfl fun unreached => ?_
    have same : slot = .notAttempted := unreached
    exact written _ (same ▸ tells)
  | unreached early => exact iff_of_false nofun fun reached => reached rfl
  | skipped unwanted => exact iff_of_true rfl nofun
  | crashed early within panics => exact iff_of_true rfl nofun

theorem Accounted.cleanup {note : Note}
    (accounted : Accounted host plan limits whole .cleanup note) : note.isFinished = true := by
  cases accounted with
  | finished within tells sane => rfl
  | unreached early => exact absurd rfl early
  | crashed early within panics => exact absurd rfl early

/-- What a filter leaves of the metrics of a trial, if it leaves only metrics of the accounts. -/
theorem filter_samples {moments : List (Moment (World σ))} {effects : List Effect}
    (written : accounts moments = effects) {metric : Metric} (counted : metric.isAccount = true) :
    ((View.ofAdded Effect.sample?).seen moments).filter (·.metric = metric) =
      (effects.filterMap Effect.sample?).filter (·.metric = metric) := by
  have judged : ∀ effect sample, Effect.sample? effect = some sample →
      effect.isAccount = sample.metric.isAccount := by
    intro effect sample recorded
    cases effect <;> cases recorded
    rfl
  have narrower : ∀ sample : Sample,
      (sample.metric.isAccount && decide (sample.metric = metric)) =
        decide (sample.metric = metric) := by
    intro sample
    by_cases same : sample.metric = metric
    · simp [same, counted]
    · simp [same]
  rw [← written, accounts, ← View.filter_seen judged, List.filter_filter]
  congr 1
  funext sample
  rw [Bool.and_comm, narrower]

/-- What is written about a phase leaves a result, unless the phase was not reached. -/
theorem results_effects (plan : Plan) (phase : Phase) (note : Note) :
    ((note.effects plan phase).filterMap Effect.sample?).filter (·.metric = .phases) =
      if note.isRecorded then [.phase plan.family phase note.slot] else [] := by
  cases note <;> rfl

theorem durations_effects (plan : Plan) (phase : Phase) (note : Note) :
    ((note.effects plan phase).filterMap Effect.sample?).filter (·.metric = .phaseDurations) =
      if note.isFinished then [.phaseDuration plan.family phase] else [] := by
  cases note <;> rfl

theorem trials_effects (plan : Plan) (phase : Phase) (note : Note) :
    ((note.effects plan phase).filterMap Effect.sample?).filter (·.metric = .trials) = [] := by
  cases note <;> rfl

theorem events_effects (plan : Plan) (phase : Phase) (note : Note) :
    (note.effects plan phase).filterMap Effect.event? = (note.event? plan phase).toList := by
  cases note <;> rfl

/-- One item for each phase that meets a test. -/
theorem flatMap_phases {α : Type} (test : Phase → Bool) (make : Phase → α) :
    (Phase.all.flatMap fun phase => if test phase then [make phase] else []) =
      (Phase.all.filter test).map make := by
  generalize Phase.all = phases
  induction phases with
  | nil => rfl
  | cons phase rest step =>
    rw [List.flatMap_cons, step, List.filter_cons]
    split <;> rfl

/-- **The metrics and the log of a trial agree with its slots.** -/
theorem accounts_agree {report : Report} {last : World σ}
    (run : (conduct plan limits).runIn host world = (.done report, last)) :
    ∃ notes samples events, last.samples = world.samples ++ samples ∧
      last.events = world.events ++ events ∧
      Accounts host plan limits ((conduct plan limits).historyIn host world) report notes samples
        events := by
  obtain ⟨notes, slots, accounted, written⟩ := accounts_of_conduct run
  have samples := Action.samples_runIn host (conduct plan limits) world
  have events := Action.events_runIn host (conduct plan limits) world
  rw [run] at samples events
  refine ⟨notes, _, _, samples, events, accounted, slots, ?phases, ?durations,
    (accounted .cleanup).cleanup, ?trials, ?events⟩
  case phases =>
    rw [filter_samples written rfl, List.filterMap_append, List.filter_append,
      List.filterMap_flatMap, List.filter_flatMap, ← flatMap_phases]
    refine (List.append_nil _).trans (List.flatMap_congr fun phase _ => ?_)
    have recorded : (notes phase).isRecorded = decide ((notes phase).slot ≠ .notAttempted) :=
      Bool.eq_iff_iff.mpr ((accounted phase).recorded_iff.trans decide_eq_true_iff.symm)
    rw [results_effects, slots phase, recorded]
  case durations =>
    rw [filter_samples written rfl, List.filterMap_append, List.filter_append,
      List.filterMap_flatMap, List.filter_flatMap, ← flatMap_phases]
    exact (List.append_nil _).trans
      (List.flatMap_congr fun phase _ => durations_effects plan phase (notes phase))
  case trials =>
    rw [filter_samples written rfl, List.filterMap_append, List.filter_append,
      List.filterMap_flatMap, List.filter_flatMap]
    have none : (Phase.all.flatMap fun phase => (((notes phase).effects plan phase).filterMap
        Effect.sample?).filter (·.metric = .trials)) = [] :=
      List.flatMap_eq_nil_iff.mpr fun phase _ => trials_effects plan phase (notes phase)
    rw [none]
    rfl
  case events =>
    have judged : ∀ effect event, Effect.event? effect = some event →
        effect.isAccount = event.isAccount := by
      intro effect event logged
      cases effect <;> cases logged
      rfl
    rw [View.filter_seen judged, ← accounts, written, List.filterMap_append,
      List.filterMap_flatMap]
    congr 1
    rw [List.filterMap_eq_flatMap_toList]
    exact List.flatMap_congr fun phase _ => events_effects plan phase (notes phase)

end Trial

end DeviceTrial
