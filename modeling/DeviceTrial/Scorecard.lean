/-
**The scorecard of a trial and its verdict.**

A scorecard has one slot per phase. A trial passes when no slot is failed and none was left out: a
phase that was not reached never counts as success.

* `get_set` — setting a slot changes that slot alone;
* `verdict_eq_passed_iff` — the verdict is `passed` when every slot is passed or skipped;
* `summary_eq_success_iff` — the summary is the one line of success when the verdict is `passed`.
-/

import DeviceTrial.Error.Trial

namespace DeviceTrial

/-- The phases of a trial. -/
inductive Phase where
  /-- Making the identity. -/
  | provision
  /-- Running the process under test. -/
  | drive
  /-- Looking at what the process has done. -/
  | verify
  /-- Taking the identity away. -/
  | cleanup
deriving DecidableEq, Repr

/-- The phases in the order in which they run. -/
def Phase.all : List Phase := [.provision, .drive, .verify, .cleanup]

/-- The name of a phase. -/
def Phase.name : Phase → String
  | .provision => "provision"
  | .drive => "drive"
  | .verify => "verify"
  | .cleanup => "cleanup"

/-- The phase of a name. -/
def Phase.ofName? (text : String) : Option Phase := Phase.all.find? (·.name == text)

/-- How one phase ended. -/
inductive Slot where
  /-- The phase did what it should. -/
  | passed
  /-- The phase failed. -/
  | failed (reason : String)
  /-- The scenario has no such phase. -/
  | skipped
  /-- The phase was not reached. -/
  | notAttempted
deriving DecidableEq, Repr, Inhabited

namespace Slot

/-- The label of a slot. -/
def label : Slot → String
  | .passed => "passed"
  | .failed _ => "failed"
  | .skipped => "skipped"
  | .notAttempted => "not_attempted"

/-- Whether the phase did what it should. -/
def isPassed : Slot → Bool
  | .passed => true
  | _ => false

/-- Whether the phase failed. -/
def isFailed : Slot → Bool
  | .failed _ => true
  | _ => false

/-- Whether the slot does not stand in the way of a pass. -/
def isGood : Slot → Bool
  | .passed | .skipped => true
  | .failed _ | .notAttempted => false

/-- The reason of a failed slot. -/
def reason? : Slot → Option String
  | .failed reason => some reason
  | _ => none

/-- The slot of a phase that ended with a value or an error. -/
def ofResult {α : Type} : Except TrialError α → Slot
  | .ok _ => .passed
  | .error fault => .failed fault.message

end Slot

/-- Whether a trial did what it should. -/
inductive Verdict where
  /-- Every phase passed or was skipped. -/
  | passed
  /-- Some phase failed or was not reached. -/
  | failed
deriving DecidableEq, Repr

namespace Verdict

/-- The label of a verdict. -/
def label : Verdict → String
  | .passed => "passed"
  | .failed => "failed"

/-- The verdict as the last printed line says it. -/
def headline : Verdict → String
  | .passed => "PASSED"
  | .failed => "FAILED"

/-- Whether the verdict is the good one. -/
def isPassed : Verdict → Bool
  | .passed => true
  | .failed => false

end Verdict

/-- One slot per phase. -/
structure Scorecard where
  /-- How making the identity ended. -/
  provision : Slot
  /-- How running the process ended. -/
  drive : Slot
  /-- How the verification ended. -/
  verify : Slot
  /-- How taking the identity away ended. -/
  cleanup : Slot
deriving DecidableEq, Repr

namespace Scorecard

/-- The scorecard before the first phase. -/
def blank : Scorecard := ⟨.notAttempted, .notAttempted, .notAttempted, .notAttempted⟩

instance : Inhabited Scorecard := ⟨blank⟩

/-- The slot of a phase. -/
def get (card : Scorecard) : Phase → Slot
  | .provision => card.provision
  | .drive => card.drive
  | .verify => card.verify
  | .cleanup => card.cleanup

/-- Writes the slot of a phase. -/
def set (card : Scorecard) (phase : Phase) (slot : Slot) : Scorecard :=
  match phase with
  | .provision => { card with provision := slot }
  | .drive => { card with drive := slot }
  | .verify => { card with verify := slot }
  | .cleanup => { card with cleanup := slot }

/-- The first phase before the cleanup whose slot has not been written. -/
def pending? (card : Scorecard) : Option Phase :=
  [Phase.provision, .drive, .verify].find? fun phase => card.get phase == .notAttempted

/-- The verdict on the four slots. -/
def verdict (card : Scorecard) : Verdict :=
  if Phase.all.all fun phase => (card.get phase).isGood then .passed else .failed

/-- The failed phases with their reasons, in the order of the phases. -/
def failures (card : Scorecard) : List (Phase × String) :=
  Phase.all.filterMap fun phase => (card.get phase).reason?.map fun reason => (phase, reason)

/-- The phases that were not reached, in order. -/
def unreached (card : Scorecard) : List Phase :=
  Phase.all.filter fun phase => card.get phase == .notAttempted

/-- The line that stands alone when everything passed. -/
def successLine : String := "all phases passed"

/-- The line for a failed phase. -/
def failureLine (phase : Phase) (reason : String) : String :=
  s!"ERROR: {phase.name} failed: {reason}"

/-- The line for a phase that was not reached. -/
def unreachedLine (phase : Phase) : String := s!"ERROR: {phase.name} not attempted"

/-- The line of success, or one line per failed phase and then one per phase not reached. -/
def summary (card : Scorecard) : List String :=
  if card.verdict = .passed then [successLine]
  else card.failures.map (fun entry => failureLine entry.1 entry.2) ++
    card.unreached.map unreachedLine

theorem get_set (card : Scorecard) (phase other : Phase) (slot : Slot) :
    (card.set phase slot).get other = if other = phase then slot else card.get other := by
  cases phase <;> cases other <;> rfl

@[simp] theorem get_set_self (card : Scorecard) (phase : Phase) (slot : Slot) :
    (card.set phase slot).get phase = slot := by
  simp [get_set]

theorem mem_all (phase : Phase) : phase ∈ Phase.all := by cases phase <;> decide

theorem verdict_eq_passed_iff (card : Scorecard) :
    card.verdict = .passed ↔ ∀ phase, (card.get phase).isGood = true := by
  unfold verdict
  constructor
  · intro same
    split at same
    · rename_i good
      exact fun phase => List.all_eq_true.mp good phase (mem_all phase)
    · cases same
  · intro good
    rw [if_pos (List.all_eq_true.mpr fun phase _ => good phase)]

theorem failureLine_ne_successLine (phase : Phase) (reason : String) :
    failureLine phase reason ≠ successLine := by
  intro same
  have heads := congrArg (fun text => text.toList.head?) same
  cases phase <;> simp [failureLine, successLine, Phase.name, toString] at heads

theorem unreachedLine_ne_successLine (phase : Phase) : unreachedLine phase ≠ successLine := by
  cases phase <;> decide

/-- The summary is the line of success exactly when the verdict is `passed`. -/
theorem summary_eq_success_iff (card : Scorecard) :
    card.summary = [successLine] ↔ card.verdict = .passed := by
  constructor
  · intro same
    by_cases good : card.verdict = .passed
    · exact good
    · rw [summary, if_neg good] at same
      have inside : successLine ∈ card.failures.map (fun entry => failureLine entry.1 entry.2) ++
          card.unreached.map unreachedLine := by rw [same]; simp
      simp only [List.mem_append, List.mem_map] at inside
      rcases inside with ⟨entry, _, wrong⟩ | ⟨phase, _, wrong⟩
      · exact absurd wrong (failureLine_ne_successLine entry.1 entry.2)
      · exact absurd wrong (unreachedLine_ne_successLine phase)
  · intro good
    rw [summary, if_pos good]

end Scorecard

end DeviceTrial
