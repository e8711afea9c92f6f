/-
**When a removal breaks off.**

Faults do not stop the removal of an identity, so only a call that breaks down or never comes back is
the end of it before its time.

* `RemovesAll.crash_iff` — the same for the principals alone;
* `Dismantles.crash_iff` — **a removal crashes exactly when one of its calls does**.
-/

import DeviceTrial.Proofs.Identity.Answering

namespace DeviceTrial

/-- That an action broke down or never came back. -/
inductive Fate.IsCrash {ε α : Type} : Fate ε α → Prop where
  | panicked (message : String) : IsCrash (.panicked message)
  | hung : IsCrash .hung

theorem Fate.Crashes.isCrash {ε δ α β : Type} {stop : Fate ε α} {fate : Fate δ β}
    (crashes : stop.Crashes fate) : stop.IsCrash ∧ fate.IsCrash := by
  cases crashes with
  | panicked message => exact ⟨.panicked message, .panicked message⟩
  | hung => exact ⟨.hung, .hung⟩

theorem Fate.isCrash_map_iff {ε α β : Type} (fate : Fate ε α) (change : α → β) :
    (fate.map change).IsCrash ↔ fate.IsCrash := by
  constructor
  · intro crash
    cases fate <;> cases crash <;> constructor
  · intro crash
    cases crash <;> constructor

theorem Reply.isCrash_fate_iff {α : Type} (reply : Reply α) : reply.fate.IsCrash ↔ reply.IsCrash := by
  constructor
  · intro crash
    cases reply <;> cases crash <;> constructor
  · intro crash
    cases crash <;> constructor

theorem Reply.isCrash_forgiven_iff (reply : Reply Unit) :
    reply.forgiven.IsCrash ↔ reply.IsCrash := by
  constructor
  · intro crash
    cases reply with
    | error fault =>
      simp only [forgiven, fate, Fate.forgiven] at crash
      split at crash <;> cases crash
    | _ => cases crash <;> constructor
  · intro crash
    cases crash <;> constructor

namespace Identity

variable {identity principal : String} {seen : List Errand}

/-- The removal of a principal crashes when one of its calls does. -/
theorem Removes.crash_iff {fate : Fate PlaneError Unit}
    (removes : Removes identity principal seen fate) :
    fate.IsCrash ↔ ∃ errand ∈ seen, errand.IsCrash := by
  have back : ∀ {reply : Reply Unit}, reply.forgiven = .done () → ¬ reply.IsCrash := by
    intro reply gone crash
    have crashed := reply.isCrash_forgiven_iff.mpr crash
    rw [gone] at crashed
    cases crashed
  have value : ¬ (Fate.done () : Fate PlaneError Unit).IsCrash := nofun
  cases removes with
  | undetached stays => simp [Errand.isCrash_call_iff, Reply.isCrash_forgiven_iff]
  | detached gone foreign => simp [Errand.isCrash_call_iff, back gone, value]
  | active gone own stays => simp [Errand.isCrash_call_iff, back gone, Reply.isCrash_forgiven_iff]
  | deleting gone own inactive third =>
    simp [Errand.isCrash_call_iff, back gone, back inactive, Reply.isCrash_forgiven_iff]

/-- What is kept for the report goes on, so the removal of the principals crashes when a call does. -/
theorem RemovesAll.crash_iff {principals : List String} {fate : Fate TrialError (List String)}
    (all : RemovesAll identity principals seen fate) :
    fate.IsCrash ↔ ∃ errand ∈ seen, errand.IsCrash := by
  have value : ∀ faults, ¬ (Fate.done faults : Fate TrialError (List String)).IsCrash := nofun
  have failed : ∀ fault, ¬ (Fate.failed fault : Fate PlaneError Unit).IsCrash := nofun
  have done : ¬ (Fate.done () : Fate PlaneError Unit).IsCrash := nofun
  induction all with
  | nil => simp [value]
  | removed one others step =>
    simp only [List.mem_append, or_and_right, exists_or, ← one.crash_iff, done, false_or, step]
  | kept one others step =>
    simp only [List.mem_append, or_and_right, exists_or, ← one.crash_iff, failed, false_or, step,
      Fate.isCrash_map_iff]
  | crashed one crashes =>
    obtain ⟨first, last⟩ := crashes.isCrash
    exact iff_of_true last (one.crash_iff.mp first)

/-- **A removal crashes exactly when one of its calls does.** -/
theorem Dismantles.crash_iff {fate : Fate TrialError Removal}
    (dismantles : Dismantles identity seen fate) :
    fate.IsCrash ↔ ∃ errand ∈ seen, errand.IsCrash := by
  have sane : ∀ {principals faults : List String} {errands : List Errand},
      RemovesAll identity principals errands (.done faults) →
      ¬ ∃ errand ∈ errands, errand.IsCrash := by
    intro principals faults errands all crash
    cases all.crash_iff.mpr crash
  have error : ∀ {α : Type} (fault : PlaneError), ¬ (Reply.error fault : Reply α).IsCrash := nofun
  have ok : ∀ {α : Type} (value : α), ¬ (Reply.ok value).IsCrash := nofun
  cases dismantles with
  | absent missing => exact iff_of_false nofun (by simp [Errand.isCrash_call_iff, error])
  | unlisted other => exact iff_of_false nofun (by simp [Errand.isCrash_call_iff, error])
  | crashed crashes =>
    obtain ⟨first, last⟩ := crashes.isCrash
    exact iff_of_true last (by simpa [Errand.isCrash_call_iff] using (Reply.isCrash_fate_iff _).mp first)
  | stopped all crashes =>
    obtain ⟨first, last⟩ := crashes.isCrash
    exact iff_of_true last (by simpa [Errand.isCrash_call_iff, ok] using all.crash_iff.mp first)
  | broken all crashes =>
    obtain ⟨first, last⟩ := crashes.isCrash
    refine iff_of_true last ⟨_, List.mem_cons_of_mem _ (List.mem_append_right _
      (List.mem_singleton_self _)), ?_⟩
    exact Errand.isCrash_call_iff.mpr ((Reply.isCrash_fate_iff _).mp first)
  | @finished principals faults errands all outcome =>
    have summed : ¬ (summedUp identity faults outcome).IsCrash := by
      unfold summedUp
      split <;> nofun
    have came : ¬ (Reply.ofExcept outcome).IsCrash := by cases outcome <;> nofun
    refine iff_of_false summed ?_
    simpa [Errand.isCrash_call_iff, ok, came] using sane all

end Identity

end DeviceTrial
