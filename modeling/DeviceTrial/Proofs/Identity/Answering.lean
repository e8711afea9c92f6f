/-
**What the answer of a removal means.**

A removal goes through many calls and gives one answer. As long as none of the calls breaks down, the
answer says exactly what became of them: it failed when some call failed for another reason than that
something does not exist, and it found nothing when that was the answer to the list or to the deletion
of the thing.

* `RemovesAll.faults_iff` — the faults that are collected are those of the calls;
* `Dismantles.answers` — **what each answer means**.
-/

import DeviceTrial.Proofs.Identity.Removing

namespace DeviceTrial

namespace Errand

/-- That an errand failed for another reason than that something does not exist. -/
def IsFault (errand : Errand) : Prop :=
  ∃ request fault, errand = .call request (.error fault) ∧ fault.isNotFound = false

/-- That an errand crashed. -/
def IsCrash (errand : Errand) : Prop :=
  ∃ request reply, errand = .call request reply ∧ reply.IsCrash

theorem isFault_call_iff {request : Call} {reply : Reply request.Answer} :
    (call request reply).IsFault ↔ ∃ fault, reply = .error fault ∧ fault.isNotFound = false := by
  constructor
  · rintro ⟨_, fault, same, other⟩
    cases same
    exact ⟨fault, rfl, other⟩
  · rintro ⟨fault, rfl, other⟩
    exact ⟨request, fault, rfl, other⟩

theorem isCrash_call_iff {request : Call} {reply : Reply request.Answer} :
    (call request reply).IsCrash ↔ reply.IsCrash := by
  constructor
  · rintro ⟨_, _, same, crash⟩
    cases same
    exact crash
  · exact fun crash => ⟨request, reply, rfl, crash⟩

end Errand

/-- What is gone is no fault. -/
theorem Errand.not_isFault_of_gone {request : Call} {reply : Reply request.Answer}
    (gone : reply.IsGone) : ¬ (call request reply).IsFault := by
  rw [isFault_call_iff]
  rintro ⟨fault, rfl, other⟩
  obtain ⟨_, same⟩ | ⟨_, same, missing⟩ := gone
  · cases same
  · cases same
    rw [missing] at other
    cases other

/-- What is not gone failed or crashed. -/
theorem Reply.fault_of_stays {reply : Reply Unit} (stays : reply.forgiven ≠ .done ())
    (sane : ¬ reply.IsCrash) :
    ∃ fault, reply = .error fault ∧ fault.isNotFound = false ∧ reply.forgiven = .failed fault := by
  cases reply with
  | ok value => exact absurd rfl stays
  | error fault =>
    cases missing : fault.isNotFound with
    | true => exact absurd ((forgiven_eq_done_iff _).mpr (.inr ⟨fault, rfl, missing⟩)) stays
    | false => exact ⟨fault, rfl, missing, by simp [forgiven, fate, Fate.forgiven, missing]⟩
  | panic message => exact absurd (.panic message) sane
  | hang => exact absurd .hang sane

namespace Identity

variable {identity principal : String} {seen : List Errand}

/-! ### The principals -/

/-- Removing one principal fails exactly when one of its calls does. -/
theorem Removes.outcome {fate : Fate PlaneError Unit}
    (removes : Removes identity principal seen fate)
    (sane : ∀ errand ∈ seen, ¬ errand.IsCrash) :
    (fate = .done () ∧ ∀ errand ∈ seen, ¬ errand.IsFault) ∨
      (∃ fault, fate = .failed fault) ∧ ∃ errand ∈ seen, errand.IsFault := by
  cases removes with
  | @undetached reply stays =>
    have back : ¬ reply.IsCrash := Errand.isCrash_call_iff.not.mp (sane _ List.mem_cons_self)
    obtain ⟨fault, rfl, other, failed⟩ := Reply.fault_of_stays stays back
    exact .inr ⟨⟨fault, failed⟩, _, List.mem_cons_self, Errand.isFault_call_iff.mpr ⟨_, rfl, other⟩⟩
  | @detached reply gone foreign =>
    refine .inl ⟨rfl, fun errand inside => ?_⟩
    rw [List.mem_singleton.mp inside]
    exact Errand.not_isFault_of_gone ((Reply.forgiven_eq_done_iff reply).mp gone)
  | @active reply second certificate gone own stays =>
    have last : Errand.call (.deactivateCertificate certificate) second ∈
        [Errand.call (.detachPrincipal identity principal) reply,
          .call (.deactivateCertificate certificate) second] := by simp
    have back : ¬ second.IsCrash := Errand.isCrash_call_iff.not.mp (sane _ last)
    obtain ⟨fault, rfl, other, failed⟩ := Reply.fault_of_stays stays back
    exact .inr ⟨⟨fault, failed⟩, _, last, Errand.isFault_call_iff.mpr ⟨_, rfl, other⟩⟩
  | @deleting reply second certificate gone own inactive third =>
    have last : Errand.call (.deleteCertificate certificate) third ∈
        [Errand.call (.detachPrincipal identity principal) reply,
          .call (.deactivateCertificate certificate) second,
          .call (.deleteCertificate certificate) third] := by simp
    by_cases deleted : third.forgiven = .done ()
    · refine .inl ⟨deleted, fun errand inside => ?_⟩
      simp only [List.mem_cons, List.not_mem_nil, or_false] at inside
      rcases inside with rfl | rfl | rfl
      · exact Errand.not_isFault_of_gone ((Reply.forgiven_eq_done_iff reply).mp gone)
      · exact Errand.not_isFault_of_gone ((Reply.forgiven_eq_done_iff second).mp inactive)
      · exact Errand.not_isFault_of_gone ((Reply.forgiven_eq_done_iff third).mp deleted)
    · have back : ¬ third.IsCrash := Errand.isCrash_call_iff.not.mp (sane _ last)
      obtain ⟨fault, rfl, other, failed⟩ := Reply.fault_of_stays deleted back
      exact .inr ⟨⟨fault, failed⟩, _, last, Errand.isFault_call_iff.mpr ⟨_, rfl, other⟩⟩

/-- **The faults that are collected are those of the calls.** -/
theorem RemovesAll.faults_iff {principals : List String} {fate : Fate TrialError (List String)}
    (all : RemovesAll identity principals seen fate) (sane : ∀ errand ∈ seen, ¬ errand.IsCrash) :
    ∃ faults, fate = .done faults ∧ (faults = [] ↔ ∀ errand ∈ seen, ¬ errand.IsFault) := by
  induction all with
  | nil => exact ⟨[], rfl, by simp⟩
  | removed one others step =>
    obtain ⟨here, later⟩ := List.forall_mem_append.mp sane
    obtain ⟨faults, rfl, iff⟩ := step later
    rcases one.outcome here with ⟨-, clean⟩ | ⟨⟨fault, wrong⟩, -⟩
    · refine ⟨faults, rfl, iff.trans ?_⟩
      rw [List.forall_mem_append]
      exact (and_iff_right clean).symm
    · cases wrong
  | kept one others step =>
    obtain ⟨here, later⟩ := List.forall_mem_append.mp sane
    obtain ⟨faults, rfl, -⟩ := step later
    rcases one.outcome here with ⟨wrong, -⟩ | ⟨-, errand, inside, fails⟩
    · cases wrong
    · refine ⟨_, rfl, iff_of_false nofun fun clean => ?_⟩
      exact clean errand (List.mem_append_left _ inside) fails
  | crashed one crashes =>
    rcases one.outcome sane with ⟨rfl, -⟩ | ⟨⟨fault, rfl⟩, -⟩
    · cases crashes
    · cases crashes

theorem Removes.spares {fate : Fate PlaneError Unit}
    (removes : Removes identity principal seen fate) :
    ∀ errand ∈ seen, errand.operation? ≠ some .deleteThing := by
  cases removes <;> simp [Errand.operation?, Call.operation]

/-- The principals are removed without touching the thing. -/
theorem RemovesAll.spares {principals : List String} {fate : Fate TrialError (List String)}
    (all : RemovesAll identity principals seen fate) :
    ∀ errand ∈ seen, errand.operation? ≠ some .deleteThing := by
  induction all with
  | nil => simp
  | removed one others step | kept one others step =>
    exact List.forall_mem_append.mpr ⟨one.spares, step⟩
  | crashed one crashes => exact one.spares

/-! ### The answer -/

/-- That the list of the principals or the deletion of the thing was answered by what is missing. -/
def IsMissing (identity : String) (seen : List Errand) : Prop :=
  ∃ fault, fault.isNotFound = true ∧
    (.call (.listPrincipals identity) (.error fault) ∈ seen ∨
      .call (.deleteThing identity) (.error fault) ∈ seen)

/-- That the principals were listed and the thing was deleted. -/
def IsDeleted (identity : String) (seen : List Errand) : Prop :=
  (∃ principals, .call (.listPrincipals identity) (.ok principals) ∈ seen) ∧
    .call (.deleteThing identity) (.ok ()) ∈ seen

/-- That the list of the principals never came back. -/
def IsEndless (identity : String) (seen : List Errand) : Prop :=
  .call (.listPrincipals identity) .hang ∈ seen

/-- The only list of a removal is its first call. -/
theorem isEndless_cons_iff {reply : Reply (List String)} {rest : List Errand}
    (others : ∀ errand ∈ rest, TakesAway errand) :
    IsEndless identity (.call (.listPrincipals identity) reply :: rest) ↔ reply = .hang := by
  constructor
  · intro inside
    rcases List.mem_cons.mp inside with same | later
    · cases same
      rfl
    · obtain ⟨_, called, -, other⟩ := others _ later
      cases called
      exact absurd rfl other
  · rintro rfl
    exact List.mem_cons_self

/-- What each answer of a removal means. -/
structure Answers (identity : String) (seen : List Errand) (fate : Fate TrialError Removal) :
    Prop where
  /-- It never came back when the list did not. -/
  hung_iff : fate = .hung ↔ IsEndless identity seen
  /-- It failed when some call failed. -/
  failed_iff : (∃ reason, fate = .failed (.cleanupFailed identity reason)) ↔
    ∃ errand ∈ seen, errand.IsFault
  /-- It removed the identity when no call failed and the thing was deleted. -/
  removed_iff : fate = .done .removed ↔
    (∀ errand ∈ seen, ¬ errand.IsFault) ∧ IsDeleted identity seen
  /-- It found nothing when no call failed and there was no such thing. -/
  absent_iff : fate = .done .absent ↔
    (∀ errand ∈ seen, ¬ errand.IsFault) ∧ IsMissing identity seen

theorem Answers.of_fault (ends : ¬ IsEndless identity seen)
    (fails : ∃ errand ∈ seen, errand.IsFault) (reason : String) :
    Answers identity seen (.failed (.cleanupFailed identity reason)) := by
  have dirty : ¬ ∀ errand ∈ seen, ¬ errand.IsFault := by
    obtain ⟨errand, inside, faulty⟩ := fails
    exact fun clean => clean errand inside faulty
  exact ⟨iff_of_false nofun ends, iff_of_true ⟨reason, rfl⟩ fails,
    iff_of_false nofun fun claimed => dirty claimed.1,
    iff_of_false nofun fun claimed => dirty claimed.1⟩

theorem Answers.of_deleted (ends : ¬ IsEndless identity seen)
    (clean : ∀ errand ∈ seen, ¬ errand.IsFault) (deleted : IsDeleted identity seen)
    (found : ¬ IsMissing identity seen) : Answers identity seen (.done .removed) := by
  refine ⟨iff_of_false nofun ends, iff_of_false nofun ?_, iff_of_true rfl ⟨clean, deleted⟩,
    iff_of_false nofun fun claimed => found claimed.2⟩
  rintro ⟨errand, inside, faulty⟩
  exact clean errand inside faulty

theorem Answers.of_missing (ends : ¬ IsEndless identity seen)
    (clean : ∀ errand ∈ seen, ¬ errand.IsFault) (missing : IsMissing identity seen)
    (kept : ¬ IsDeleted identity seen) : Answers identity seen (.done .absent) := by
  refine ⟨iff_of_false nofun ends, iff_of_false nofun ?_,
    iff_of_false nofun fun claimed => kept claimed.2, iff_of_true rfl ⟨clean, missing⟩⟩
  rintro ⟨errand, inside, faulty⟩
  exact clean errand inside faulty

/-- A list that never came back. -/
theorem answers_hung (identity : String) :
    Answers identity [.call (.listPrincipals identity) .hang] .hung := by
  refine ⟨iff_of_true rfl List.mem_cons_self, iff_of_false nofun ?_, iff_of_false nofun ?_,
    iff_of_false nofun ?_⟩
  · rintro ⟨errand, inside, request, fault, same, -⟩
    rw [List.mem_singleton.mp inside] at same
    cases same
  · rintro ⟨-, -, deleted⟩
    cases List.mem_singleton.mp deleted
  · rintro ⟨-, fault, -, inside | inside⟩
    · cases List.mem_singleton.mp inside
    · cases List.mem_singleton.mp inside

/-- A list that was refused came back. -/
theorem not_isEndless_refused (identity : String) (fault : PlaneError) :
    ¬ IsEndless identity [.call (.listPrincipals identity) (.error fault)] := by
  intro inside
  cases List.mem_singleton.mp inside

/-- A list of what does not exist. -/
theorem answers_absent {fault : PlaneError} (missing : fault.isNotFound = true) :
    Answers identity [.call (.listPrincipals identity) (.error fault)] (.done .absent) := by
  refine .of_missing (not_isEndless_refused identity fault) (fun errand inside => ?_)
    ⟨fault, missing, .inl List.mem_cons_self⟩ ?_
  · rw [List.mem_singleton.mp inside]
    exact Errand.not_isFault_of_gone (.inr ⟨fault, rfl, missing⟩)
  · rintro ⟨-, deleted⟩
    cases List.mem_singleton.mp deleted

section Finished

variable {principals faults : List String} {outcome : Except PlaneError Unit}

/-- The errands of a removal that came to the deletion of the thing. -/
def finishedErrands (identity : String) (principals : List String) (seen : List Errand)
    (outcome : Except PlaneError Unit) : List Errand :=
  .call (.listPrincipals identity) (.ok principals) ::
    (seen ++ [.call (.deleteThing identity) (.ofExcept outcome)])

variable (spared : ∀ errand ∈ seen, TakesAway errand ∧ errand.operation? ≠ some .deleteThing)

include spared

theorem listed_iff (reply : Reply (List String)) :
    .call (.listPrincipals identity) reply ∈ finishedErrands identity principals seen outcome ↔
      reply = .ok principals := by
  constructor
  · intro inside
    rcases List.mem_cons.mp inside with same | inside
    · cases same
      rfl
    · rcases List.mem_append.mp inside with inside | same
      · obtain ⟨⟨operation, called, -, other⟩, -⟩ := spared _ inside
        cases called
        exact absurd rfl other
      · cases List.mem_singleton.mp same
  · rintro rfl
    exact List.mem_cons_self

theorem deleted_iff (reply : Reply Unit) :
    .call (.deleteThing identity) reply ∈ finishedErrands identity principals seen outcome ↔
      reply = .ofExcept outcome := by
  constructor
  · intro inside
    rcases List.mem_cons.mp inside with same | inside
    · cases same
    · rcases List.mem_append.mp inside with inside | same
      · exact absurd rfl (spared _ inside).2
      · cases List.mem_singleton.mp same
        rfl
  · rintro rfl
    exact List.mem_cons_of_mem _ (List.mem_append_right _ List.mem_cons_self)

/-- The answer of a removal that came to the deletion of the thing. -/
theorem answers_summedUp (collected : faults = [] ↔ ∀ errand ∈ seen, ¬ errand.IsFault) :
    Answers identity (finishedErrands identity principals seen outcome)
      (summedUp identity faults outcome) := by
  have last : Errand.call (.deleteThing identity) (.ofExcept outcome) ∈
      finishedErrands identity principals seen outcome := (deleted_iff spared _).mpr rfl
  have ends : ¬ IsEndless identity (finishedErrands identity principals seen outcome) := by
    intro endless
    cases (listed_iff spared _).mp endless
  by_cases none : faults = []
  · -- all errands but the last are clean
    have clean : (Reply.ofExcept outcome).IsGone →
        ∀ errand ∈ finishedErrands identity principals seen outcome, ¬ errand.IsFault := by
      intro gone
      refine List.forall_mem_cons.mpr ⟨Errand.not_isFault_of_gone (.inl ⟨principals, rfl⟩), ?_⟩
      refine List.forall_mem_append.mpr ⟨collected.mp none, fun errand inside => ?_⟩
      rw [List.mem_singleton.mp inside]
      exact Errand.not_isFault_of_gone gone
    rw [none]
    cases outcome with
    | ok value =>
      refine .of_deleted ends (clean (.inl ⟨(), rfl⟩))
        ⟨⟨principals, (listed_iff spared _).mpr rfl⟩, last⟩ ?_
      rintro ⟨fault, -, inside | inside⟩
      · cases (listed_iff spared _).mp inside
      · cases (deleted_iff spared _).mp inside
    | error fault =>
      cases missing : fault.isNotFound with
      | true =>
        have gone : (Reply.ofExcept (.error fault) : Reply Unit).IsGone :=
          .inr ⟨fault, rfl, missing⟩
        have answer : summedUp identity [] (.error fault) = .done .absent := by
          simp [summedUp, removalOf, missing]
        rw [answer]
        refine .of_missing ends (clean gone) ⟨fault, missing, .inr last⟩ ?_
        rintro ⟨-, deleted⟩
        cases (deleted_iff spared _).mp deleted
      | false =>
        have answer : summedUp identity [] (.error fault) =
            .failed (.cleanupFailed identity (dismantleReason ["delete thing: " ++ fault.message])) := by
          simp [summedUp, removalOf, missing]
        rw [answer]
        exact .of_fault ends ⟨_, last, Errand.isFault_call_iff.mpr ⟨fault, rfl, missing⟩⟩ _
  · have some : (faults ++ (removalOf outcome).2).isEmpty ≠ true := by
      simp [none]
    rw [summedUp, if_neg some]
    have dirty : ∃ errand ∈ seen, errand.IsFault := by
      by_contra clean
      exact none (collected.mpr fun errand inside faulty => clean ⟨errand, inside, faulty⟩)
    obtain ⟨errand, inside, faulty⟩ := dirty
    exact .of_fault ends
      ⟨errand, List.mem_cons_of_mem _ (List.mem_append_left _ inside), faulty⟩ _

end Finished

/-- **What the answer of a removal means**, when no call crashes unless the list never comes back. -/
theorem Dismantles.answers {fate : Fate TrialError Removal}
    (dismantles : Dismantles identity seen fate)
    (sane : ∀ errand ∈ seen, errand.IsCrash → errand = .call (.listPrincipals identity) .hang) :
    Answers identity seen fate := by
  -- what takes away is not the list, so it does not crash
  have uncrashed : ∀ errand ∈ seen, TakesAway errand → ¬ errand.IsCrash := by
    rintro errand inside ⟨operation, called, -, other⟩ crash
    rw [sane errand inside crash] at called
    cases called
    exact other rfl
  cases dismantles with
  | absent missing => exact answers_absent missing
  | unlisted other =>
    exact .of_fault (not_isEndless_refused identity _)
      ⟨_, List.mem_cons_self, Errand.isFault_call_iff.mpr ⟨_, rfl, other⟩⟩ _
  | @crashed reply _ crashes =>
    cases reply with
    | ok principals => cases crashes
    | error fault => cases crashes
    | panic message =>
      cases sane _ List.mem_cons_self (Errand.isCrash_call_iff.mpr (.panic message))
    | hang =>
      cases crashes
      exact answers_hung identity
  | stopped all crashes =>
    obtain ⟨faults, rfl, -⟩ := all.faults_iff fun errand inside =>
      uncrashed errand (List.mem_cons_of_mem _ inside) (all.takesAway errand inside)
    cases crashes
  | @broken principals faults errands reply _ all crashes =>
    have last : Errand.call (.deleteThing identity) reply ∈
        .call (.listPrincipals identity) (.ok principals) ::
          (errands ++ [.call (.deleteThing identity) reply]) := by simp
    have back := uncrashed _ last ⟨_, rfl, rfl, nofun⟩
    cases reply with
    | ok value => cases crashes
    | error fault => cases crashes
    | panic message => exact absurd (Errand.isCrash_call_iff.mpr (.panic message)) back
    | hang => exact absurd (Errand.isCrash_call_iff.mpr .hang) back
  | @finished principals faults errands all outcome =>
    obtain ⟨collected, same, iff⟩ := all.faults_iff fun errand inside =>
      uncrashed errand (List.mem_cons_of_mem _ (List.mem_append_left _ inside))
        (all.takesAway errand inside)
    cases same
    exact answers_summedUp (fun errand inside => ⟨all.takesAway errand inside,
      all.spares errand inside⟩) iff

end Identity

end DeviceTrial
