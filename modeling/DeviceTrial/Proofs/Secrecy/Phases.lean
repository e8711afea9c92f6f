/-
**The phases of a trial, done twice with other secrets.**

A slot says how a phase ended, and two phases with the same slot ended in ways that look the same. So two
trials whose slots are the same go the same way at every turn, and what their phases keep quiet the
trials keep quiet too.

* `likeEnds_of_endSlot` — the same slot means ends that look the same;
* `paired_verifyPhase`, `paired_drivePhase` — the phases from the verification on, and from the drive on;
* `paired_protectedPhases` — **all phases before the cleanup**;
* `paired_closing` — the cleanup and the verdict.
-/

import DeviceTrial.Proofs.Secrecy.Driving
import DeviceTrial.Proofs.Trial.Settling

namespace DeviceTrial

open DeviceTrial.Action

variable {standing : Standing}

/-! ### Slots -/

/-- That two scorecards have the same slots before the cleanup. -/
structure Scorecard.Agrees (card other : Scorecard) : Prop where
  provision : card.provision = other.provision
  drive : card.drive = other.drive
  verify : card.verify = other.verify

theorem Scorecard.Agrees.set_cleanup {card other : Scorecard} (agrees : card.Agrees other)
    (slot : Slot) : card.set .cleanup slot = other.set .cleanup slot := by
  obtain ⟨provision, drive, verify⟩ := agrees
  simp only [Scorecard.set, provision, drive, verify]

theorem Scorecard.agrees_of_set_cleanup {card other : Scorecard} {slot also : Slot}
    (same : card.set .cleanup slot = other.set .cleanup also) : card.Agrees other := by
  obtain ⟨provision, drive, verify, -⟩ := Scorecard.mk.inj same
  exact ⟨provision, drive, verify⟩

namespace Trial

variable {α β : Type} {plan : Plan} {limits : Limits}

/-- No failure reads like a breakdown. -/
theorem message_ne_panicReason (fault : TrialError) (message : String) :
    fault.message ≠ panicReason message := by
  intro same
  obtain ⟨rest, opens⟩ := fault.exists_opening
  have letters : ∀ n : Nat, (fault.opening ++ rest).toList[n]? =
      ("panicked: " ++ message).toList[n]? := by
    intro n
    rw [← opens, same]
    rfl
  have first := letters 0
  have second := letters 1
  cases fault <;> simp [TrialError.opening] at first second

/-- The slot of a phase that ended so, if it ended at all. -/
def endSlot : Fate TrialError α → Option Slot
  | .done _ => some .passed
  | .failed fault => some (.failed fault.message)
  | .panicked message => some (.failed (panicReason message))
  | .hung => none

theorem endSlot_of_ended {fate : Fate TrialError α} {phase : Phase} {progress last : Progress}
    (ends : ended progress phase fate = .done last) : endSlot fate = some (last.card.get phase) := by
  have slot : ∀ slot, (progress.write phase slot).card.get phase = slot :=
    Scorecard.get_set_self progress.card phase
  cases fate with
  | hung => cases ends
  | _ => cases ends; rw [slot]; rfl

/-- **The same slot means ends that look the same.** -/
theorem likeEnds_of_endSlot {fate : Fate TrialError α} {other : Fate TrialError β}
    (same : endSlot fate = endSlot other) : LikeEnds fate other := by
  cases fate with
  | done value =>
    cases other with
    | done also => exact .done value also
    | _ => cases same
  | failed fault =>
    cases other with
    | failed also => exact .failed (Slot.failed.inj (Option.some.inj same))
    | panicked message =>
      exact absurd (Slot.failed.inj (Option.some.inj same)) (message_ne_panicReason fault message)
    | _ => cases same
  | panicked message =>
    cases other with
    | failed fault =>
      exact absurd (Slot.failed.inj (Option.some.inj same)).symm
        (message_ne_panicReason fault message)
    | panicked also =>
      have reasons : panicReason message = panicReason also := Slot.failed.inj (Option.some.inj same)
      obtain rfl := (String.append_right_inj "panicked: ").mp reasons
      exact .panicked message
    | _ => cases same
  | hung =>
    cases other with
    | hung => exact .hung
    | _ => cases same

/-! ### The end of a phase -/

/-- The same slot is written down in the same way, whatever else is known. -/
theorem paired_finishPhase (phase : Phase) (slot : Slot) (progress also : Progress) :
    Paired (World.Twins standing) (finishPhase plan phase slot progress)
      (finishPhase plan phase slot also) fun fate one other two =>
        (fate = .done (progress.write phase slot) ∧ other = .done (also.write phase slot)) ∧
          World.Twins standing one two := by
  intro connect launch process tag one two twins
  unfold finishPhase
  cases slot.reason? with
  | none => exact ⟨⟨rfl, rfl⟩, { twins with logs := twins.logs.append _ }⟩
  | some reason => exact ⟨⟨rfl, rfl⟩, { twins with logs := twins.logs.append _ }⟩

theorem paired_crash {phase : Phase} {progress also : Progress}
    (running : progress.card.pending? = some phase) (too : also.card.pending? = some phase)
    (message : String) :
    Paired (World.Twins standing) (crash plan message progress) (crash plan message also)
      fun _ one _ two => World.Twins standing one two := by
  intro connect launch process tag one two twins
  unfold crash
  rw [running, too]
  exact { twins with logs := twins.logs.append _ }

/-- **Ends that look the same are written down in the same way.** -/
theorem paired_settle {phase : Phase} {progress also : Progress}
    (running : progress.card.pending? = some phase) (too : also.card.pending? = some phase)
    {fate : Fate TrialError α} {other : Fate TrialError β} (like : LikeEnds fate other) :
    Paired (World.Twins standing) (settle plan phase progress fate) (settle plan phase also other)
      fun _ one _ two => World.Twins standing one two := by
  cases like with
  | done value other => exact (paired_finishPhase phase .passed progress also).mono id And.right
  | @failed fault other same =>
    show Paired _ (finishPhase plan phase (.failed fault.message) progress)
      (finishPhase plan phase (.failed other.message) also) _
    rw [same]
    exact (paired_finishPhase phase _ progress also).mono id And.right
  | panicked message => exact paired_crash running too message
  | hung => exact fun _ _ _ _ _ _ twins => twins

/-! ### Verification -/

/-- That two runs which come to the same slots are in worlds that differ in their secrets alone. -/
def Discreet (standing : Standing) (fate : Fate Empty Progress)
    (one : World (Interrupted Registry)) (other : Fate Empty Progress)
    (two : World (Interrupted Registry)) : Prop :=
  ∀ last final, fate = .done last → other = .done final → last.card.Agrees final.card →
    World.Twins standing one two

theorem runIn_verifyPhase {σ : Type} (host : Host σ) (world : World σ) {progress : Progress}
    (running : progress.card.pending? = some .verify) :
    ((verifyPhase plan progress).runIn host world).1 = ended progress .verify
      ((Verification.verify plan.expectation plan.identity).runIn host world).1 := by
  rw [verifyPhase_eq]
  have run := runIn_onward host (Verification.verify plan.expectation plan.identity)
    (settle plan .verify progress) world
  rw [run]
  exact runIn_settle host _ running _

theorem paired_verifyPhase {progress : Progress} (running : progress.card.pending? = some .verify) :
    Paired (World.Twins standing) (verifyPhase plan progress) (verifyPhase plan progress)
      (Discreet standing) := by
  rw [verifyPhase_eq]
  refine (Verification.paired_verify plan.expectation plan.identity).onward fun fate other => ?_
  intro connect launch process tag one two quiet last final ends endsToo same
  have slot := endSlot_of_ended ((runIn_settle _ _ running fate).symm.trans ends)
  have slotToo := endSlot_of_ended ((runIn_settle _ _ running other).symm.trans endsToo)
  have like : LikeEnds fate other :=
    likeEnds_of_endSlot (slot.trans ((congrArg some same.verify).trans slotToo.symm))
  exact paired_settle running running like connect launch process tag one two (quiet like)

/-! ### Drive -/

/-- **The slots after the drive** say how it ended, and leave the slot of the provision as it is. -/
theorem runIn_afterDrive {σ : Type} (host : Host σ) (world : World σ) {progress last : Progress}
    (running : progress.card.pending? = some .drive)
    (onwards : (progress.write .drive .passed).card.pending? = some .verify)
    {fate : Fate TrialError DriveReport}
    (ends : ((afterDrive plan progress fate).runIn host world).1 = .done last) :
    endSlot (judged fate) = some last.card.drive ∧
      last.card.provision = progress.card.provision := by
  have left := card_leaving progress fate
  have settles : ∀ stop : Fate TrialError Unit,
      ((settle plan .drive (leaving progress fate) stop).runIn host world).1 = .done last →
      endSlot stop = some last.card.drive ∧ last.card.provision = progress.card.provision := by
    intro stop settled
    rw [← left] at running ⊢
    have ended := (runIn_settle host world running stop).symm.trans settled
    refine ⟨endSlot_of_ended ended, ?_⟩
    cases stop with
    | hung => cases ended
    | _ => cases ended; rfl
  unfold afterDrive at ends
  split at ends
  · next value judged =>
    obtain ⟨middle, wrote, verified, -⟩ := runIn_bind_done ends
    rw [(gives_finishPhase plan .drive .passed progress).runIn] at wrote
    cases wrote
    rw [verified, runIn_verifyPhase _ _ onwards] at ends
    rw [judged]
    cases stop : ((Verification.verify plan.expectation plan.identity).runIn host _).1 with
    | hung => rw [stop] at ends; cases ends
    | _ => rw [stop] at ends; cases ends; exact ⟨rfl, rfl⟩
  · exact settles _ ends

theorem paired_afterDrive {progress : Progress} (running : progress.card.pending? = some .drive)
    (onwards : (progress.write .drive .passed).card.pending? = some .verify)
    {fate other : Fate TrialError DriveReport}
    (like : LikeEnds (judged fate) (judged other)) :
    Paired (World.Twins standing) (afterDrive plan progress fate) (afterDrive plan progress other)
      (Discreet standing) := by
  have here : (leaving progress fate).card.pending? = some .drive := by rwa [card_leaving]
  have there : (leaving progress other).card.pending? = some .drive := by rwa [card_leaving]
  have settles : ∀ {stop halt : Fate TrialError Unit}, LikeEnds stop halt →
      Paired (World.Twins standing) (settle plan .drive (leaving progress fate) stop)
        (settle plan .drive (leaving progress other) halt) (Discreet standing) :=
    fun like => (paired_settle here there like).mono id fun twins _ _ _ _ _ => twins
  unfold afterDrive
  generalize judged fate = stop at like
  generalize judged other = halt at like
  cases like with
  | done value also =>
    refine (paired_finishPhase .drive .passed progress progress).onward fun fate other =>
      .assume fun ⟨wrote, wroteToo⟩ => ?_
    subst wrote wroteToo
    exact paired_verifyPhase onwards
  | failed same => exact settles (.failed same)
  | panicked message => exact settles (.panicked message)
  | hung => exact settles .hung

/-- **The phases from the drive on.** -/
theorem paired_drivePhase {progress : Progress} (running : progress.card.pending? = some .drive)
    (onwards : (progress.write .drive .passed).card.pending? = some .verify)
    (together : standing.parted = false) (clean : .garbled ∉ standing.strayed) :
    Paired (World.Twins standing) (drivePhase plan limits progress) (drivePhase plan limits progress)
      fun fate one other two => Discreet (standing.astray .garbled) fate one other two ∧
        ∀ last, fate = .done last → last.card.provision = progress.card.provision := by
  rw [drivePhase_eq]
  refine (Drive.paired_run _ _ _ _ together clean).onward fun fate other => ?_
  intro connect launch process tag one two quiet
  refine ⟨fun last final ends endsToo same => ?_, fun last ends =>
    (runIn_afterDrive _ _ running onwards ends).2⟩
  have slot := (runIn_afterDrive _ _ running onwards ends).1
  have slotToo := (runIn_afterDrive _ _ running onwards endsToo).1
  have like : LikeEnds (judged fate) (judged other) :=
    likeEnds_of_endSlot (slot.trans ((congrArg some same.drive).trans slotToo.symm))
  exact paired_afterDrive running onwards like connect launch process tag one two (quiet like) last
    final ends endsToo same

/-! ### All phases before the cleanup -/

/-- That both trials make their identity with the same policy, if they make it. -/
def SamePolicies (standing : Standing) (plan : Plan) : Prop :=
  ∀ provisioning, plan.provisioning = some provisioning → standing.SamePolicy provisioning.policy

theorem paired_skipPhase (phase : Phase) (progress also : Progress) :
    Paired (World.Twins standing) (skipPhase plan phase progress) (skipPhase plan phase also)
      fun fate one other two => (fate = .done (progress.write phase .skipped) ∧
        other = .done (also.write phase .skipped)) ∧ World.Twins standing one two :=
  fun _ _ _ _ _ _ twins => ⟨⟨rfl, rfl⟩, { twins with logs := twins.logs.append _ }⟩

/-- Trials that did not make their identity have told no policy. -/
theorem paired_unmade {stop : Fate TrialError Identity} (stops : stop.Stops stop)
    (next : Progress → TrialAction Progress) :
    Paired (World.Twins standing) (afterPhase plan .provision blank next stop)
      (afterPhase plan .provision blank next stop) fun fate one _ two =>
        (∀ last, fate = .done last → last.card.provision ≠ .passed) ∧
          World.Twins standing one two := by
  have settles : afterPhase plan .provision blank next stop = settle plan .provision blank stop := by
    cases stops <;> rfl
  have running : blank.card.pending? = some .provision := rfl
  rw [settles]
  intro connect launch process tag one two twins
  refine ⟨fun last ends => ?_, paired_settle running running (.of_stops stops) connect launch process
    tag one two twins⟩
  have ended := (runIn_settle _ one running stop).symm.trans ends
  cases stops with
  | hung => cases ended
  | _ => cases ended; nofun

/-- **The phases before the cleanup.** The policy is told by trials that made their identity. -/
theorem paired_protectedPhases (together : standing.parted = false)
    (clean : .garbled ∉ standing.strayed) :
    Paired (World.Twins standing) (protectedPhases plan limits) (protectedPhases plan limits)
      fun fate one other two => ∀ last final, fate = .done last → other = .done final →
        last.card.Agrees final.card →
        World.Twins ((standing.only (last.card.provision = .passed →
          SamePolicies standing plan)).astray .garbled) one two := by
  unfold protectedPhases
  cases wanted : plan.provisioning with
  | none =>
    dsimp only
    refine (paired_skipPhase .provision blank blank).onward fun fate other => .assume
      fun ⟨wrote, wroteToo⟩ => ?_
    subst wrote wroteToo
    refine (paired_drivePhase rfl rfl together clean).mono id
      fun ⟨discreet, _⟩ last final ends endsToo same => ?_
    refine (discreet last final ends endsToo same).congr (iff_self_and.mpr fun _ _ => ?_)
    intro provisioning found
    cases wanted.symm.trans found
  | some provisioning =>
    dsimp only
    rw [phase_eq]
    refine (Identity.paired_establish plan.identity provisioning.paths provisioning.group
      provisioning.policy together).onward_both (fun _ _ => ?_) fun {stop halt} stops => ?_
    · have still : (standing.only (standing.SamePolicy provisioning.policy)).parted = false :=
        together
      have unstrayed : .garbled ∉ (standing.only (standing.SamePolicy provisioning.policy)).strayed :=
        clean
      refine (paired_finishPhase .provision .passed blank blank).onward fun fate other => .assume
        fun ⟨wrote, wroteToo⟩ => ?_
      subst wrote wroteToo
      refine (paired_drivePhase rfl rfl still unstrayed).mono id
        fun ⟨discreet, provisioned⟩ last final ends endsToo same => ?_
      refine (discreet last final ends endsToo same).congr (and_congr_right fun _ => ?_)
      have passed : last.card.provision = .passed := provisioned last ends
      rw [SamePolicies, wanted]
      exact ⟨fun policies _ _ found => Option.some.inj found ▸ policies,
        fun policies => policies passed provisioning rfl⟩
    · obtain rfl := stops.eq
      refine (paired_unmade stops _).mono id fun ⟨unmade, twins⟩ last final ends endsToo same => ?_
      exact (twins.astray .garbled).congr
        (iff_self_and.mpr fun _ passed => absurd passed (unmade last ends))

/-! ### Cleanup and verdict -/

/-- The verdict is told from the slots alone. -/
theorem paired_conclude {progress also : Progress} (same : progress.card = also.card) :
    Paired (World.Twins standing) (conclude plan progress) (conclude plan also)
      fun _ one _ two => World.Twins standing one two := by
  intro connect launch process tag one two twins
  obtain ⟨card, output⟩ := progress
  obtain ⟨_, others⟩ := also
  cases same
  unfold conclude
  cases verdict : card.verdict with
  | passed =>
    simp only [Report.verdict, verdict]
    exact { twins with logs := twins.logs.append _ }
  | failed =>
    simp only [Report.verdict, verdict]
    exact { twins with logs := twins.logs.append _ }

/-- **The cleanup and the verdict**, after phases with the same slots. -/
theorem paired_closing {progress also : Progress} (agrees : progress.card.Agrees also.card)
    (clean : .clearing ∉ standing.strayed) :
    Paired (World.Twins standing) (cleanupPhase plan limits progress >>= conclude plan)
      (cleanupPhase plan limits also >>= conclude plan)
      fun _ one _ two => World.Twins (standing.astray .clearing) one two := by
  unfold cleanupPhase
  rw [bind_assoc, bind_assoc, limited_bind_eq, limited_bind_eq]
  refine ((paired_cleanup plan clean).mono id Standing.same_iff.mp).onward fun fate other => .assume
    fun same => ?_
  subst same
  refine (paired_finishPhase .cleanup (cleanupSlot plan limits fate.limited) progress also).onward
    fun _ _ => .assume fun ⟨wrote, wroteToo⟩ => ?_
  subst wrote wroteToo
  exact paired_conclude (agrees.set_cleanup _)

end Trial

end DeviceTrial
