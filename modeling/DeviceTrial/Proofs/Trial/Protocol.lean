/-
**The protocol of a trial.**

Whatever the control plane answers, the errands of a trial are an opening and a closing. The opening
goes through the script of the phases — policy, thing, certificate, attachment, policy of the
certificate, group; descriptor, secrets, process; the question of the verification — and ends with
the first errand that fails. The closing takes the identity away, once.

* `Opens` — what an opening is; only a refused attachment leads off the script, and only to taking
  the new certificate away again;
* `Protects.completes_iff` — an opening in which nothing fails is a whole script, or it stops where the
  files of the identity could not be written;
* `conduct_protocol` — **the protocol**, for every plan and every host.
-/

import DeviceTrial.Proofs.Trial.Conducting

namespace DeviceTrial

namespace Trial

/-- The errands of a trial of which every phase does its work. -/
inductive Script (plan : Plan) (limits : Limits) : List Errand → Prop where
  | intro {making driving asked : List Errand} {judgement : Except Discrepancy Unit}
      (made : Making plan making)
      (drives : Drive.Driving plan.descriptor plan.bindings limits.timeout driving)
      (asking : Verification.Asking plan.identity plan.expectation asked judgement) :
    Script plan limits (making ++ (driving ++ asked))

/-- The errands before the cleanup. -/
inductive Opens (plan : Plan) (limits : Limits) : List Errand → Prop where
  /-- They go as the script has it, and end with the first that fails. -/
  | follows {seen script : List Errand} (meant : Script plan limits script)
      (follows : Errand.Follows seen script)
      (attaching : ∀ thing principal fault,
        .call (.attachPrincipal thing principal) (.error fault) ∉ seen) : Opens plan limits seen
  /-- The attachment was refused, and the certificate is taken away. -/
  | discards {provisioning : Provisioning} (wanted : plan.provisioning = some provisioning)
      {naming discarding : List Errand} {policy : String} {certificate : Certificate}
      (names : Identity.Names provisioning.policy policy naming) (fault : PlaneError)
      (discards : Identity.Discards certificate.id discarding) :
    Opens plan limits (naming ++ Identity.startErrands plan.identity certificate ++
      .call (.attachPrincipal plan.identity certificate.arn) (.error fault) :: discarding)

/-- That nothing is left to be asked: every phase did its work, or the identity was made and only its
files could not be written. -/
inductive Completes (plan : Plan) (limits : Limits) : List Errand → Prop where
  /-- It is a whole script. -/
  | through {seen : List Errand} (meant : Script plan limits seen) : Completes plan limits seen
  /-- The files of the identity could not be written. -/
  | unwritten {making : List Errand} (wanted : plan.provisioning.isSome = true)
      (made : Making plan making) : Completes plan limits making

variable {plan : Plan} {limits : Limits} {seen : List Errand}

/-! ### Scripts -/

theorem exists_driving (path : Path) (bindings : Bindings) (defaultSeconds : Nat) :
    ∃ driving, Drive.Driving path bindings defaultSeconds driving := by
  obtain ⟨text, descriptor, reads⟩ := Drive.exists_descriptor
  obtain ⟨texts, errands, resolves⟩ := Drive.exists_resolves bindings descriptor.arguments
  exact ⟨_, .intro reads resolves (rfl : Finish.ending ⟨.empty, .empty, [], .exited 0⟩ = _)⟩

theorem exists_asking (identity : String) (expectation : Expectation) :
    ∃ asked judgement, Verification.Asking identity expectation asked judgement := by
  cases expectation with
  | thingExists => exact ⟨_, _, .thing default⟩
  | jobSucceeded secret => exact ⟨_, _, .job secret "" none⟩
  | shadowReported name property expected => exact ⟨_, _, .shadow name property expected .empty⟩

theorem Making.forward {making : List Errand} (made : Making plan making) :
    ∀ errand ∈ making, errand.IsForward := by
  cases made with
  | skipped unwanted => simp
  | made wanted names certificate => exact Identity.forward_makingErrands names _ _ _

theorem Making.succeeds {making : List Errand} (made : Making plan making) :
    ∀ errand ∈ making, errand.Succeeds := by
  cases made with
  | skipped unwanted => simp
  | made wanted names certificate => exact Identity.succeeds_makingErrands names _ _ _

/-- Every errand of a script comes out as it should. -/
theorem Script.succeeds {script : List Errand} (meant : Script plan limits script) :
    ∀ errand ∈ script, errand.Succeeds := by
  obtain ⟨made, drives, asking⟩ := meant
  intro errand inside
  simp only [List.mem_append] at inside
  rcases inside with inside | inside | inside
  · exact made.succeeds errand inside
  · exact drives.succeeds errand inside
  · exact asking.succeeds errand inside

/-- No errand of a script takes anything away. -/
theorem Script.forward {script : List Errand} (meant : Script plan limits script) :
    ∀ errand ∈ script, errand.IsForward := by
  obtain ⟨made, drives, asking⟩ := meant
  intro errand inside
  simp only [List.mem_append] at inside
  rcases inside with inside | inside | inside
  · exact made.forward errand inside
  · exact (drives.reading errand inside).forward
  · exact (asking.reading errand inside).forward

/-! ### Openings -/

/-- A script goes on after the errands that make the identity. -/
theorem exists_script (plan : Plan) (limits : Limits) {making : List Errand}
    (made : Making plan making) : ∃ rest, Script plan limits (making ++ rest) := by
  obtain ⟨driving, drives⟩ := exists_driving plan.descriptor plan.bindings limits.timeout
  obtain ⟨asked, judgement, asking⟩ := exists_asking plan.identity plan.expectation
  exact ⟨_, .intro made drives asking⟩

/-- What goes on from the identity to the drive or beyond is an opening. -/
theorem Opens.of_reading {making rest script : List Errand} (made : Making plan making)
    (meant : Script plan limits (making ++ script)) (follows : Errand.Follows rest script)
    (reading : ∀ errand ∈ script, errand.IsReading) : Opens plan limits (making ++ rest) := by
  refine .follows meant (follows.after making) fun thing principal fault inside => ?_
  rcases List.mem_append.mp inside with inside | inside
  · exact Errand.refused_notMem made.succeeds _ fault inside
  · have reads := follows.reading reading _ inside
    simp [Call.operation, Operation.isReading] at reads

/-- **The phases are an opening.** -/
theorem Protects.opens {fate : Fate Empty Progress} (protects : Protects plan limits seen fate) :
    Opens plan limits seen := by
  -- what the drive and the verification would have been
  have later : ∀ {driving asked : List Errand} {judgement : Except Discrepancy Unit},
      Drive.Driving plan.descriptor plan.bindings limits.timeout driving →
      Verification.Asking plan.identity plan.expectation asked judgement →
      ∀ errand ∈ driving ++ asked, errand.IsReading :=
    fun drives asking => List.forall_mem_append.mpr ⟨drives.reading, asking.reading⟩
  obtain ⟨asked, judgement, asking⟩ := exists_asking plan.identity plan.expectation
  cases protects with
  | unprovisioned wanted establishes unmade =>
    cases establishes with
    | made certificate names => exact absurd rfl (unmade _)
    | unwritten certificate names fault =>
      have made : Making plan _ := .made wanted names certificate
      obtain ⟨rest, meant⟩ := exists_script plan limits made
      exact .follows meant (.inl (List.prefix_append _ _)) fun _ _ =>
        Errand.refused_notMem made.succeeds _
    | broken certificate names breaks attaching halts =>
      obtain ⟨rest, meant⟩ := exists_script plan limits (.made wanted names certificate)
      exact .follows meant (.inr (breaks.extend rest)) attaching
    | unattached names fault discards halts => exact .discards wanted names fault discards
  | unpassed made meant breaks bad =>
    exact .of_reading made (.intro made meant asking) (.inr (breaks.extend asked))
      (later meant asking)
  | undriven made meant breaks halts =>
    exact .of_reading made (.intro made meant asking) (.inr (breaks.extend asked))
      (later meant asking)
  | verified made drives verifies =>
    cases verifies with
    | judged asking =>
      exact .of_reading made (.intro made drives asking) (.inl List.prefix_rfl)
        (later drives asking)
    | broken meant breaks halts =>
      exact .of_reading made (.intro made drives meant) (.inr (breaks.after _))
        (later drives meant)

theorem Completes.succeeds (completes : Completes plan limits seen) :
    ∀ errand ∈ seen, errand.Succeeds := by
  cases completes with
  | through meant => exact meant.succeeds
  | unwritten wanted made => exact made.succeeds

/-- **The phases stop early only where something fails**, or where the files of the identity could not
be written. -/
theorem Protects.completes_iff {fate : Fate Empty Progress} (protects : Protects plan limits seen fate) :
    (∀ errand ∈ seen, errand.Succeeds) ↔ Completes plan limits seen := by
  refine ⟨fun succeeds => ?_, Completes.succeeds⟩
  -- what broke has an errand that failed, whatever went before it
  have unbroken : ∀ (front : List Errand) {broken script : List Errand},
      Errand.Breaks broken script → ¬ ∀ errand ∈ front ++ broken, errand.Succeeds := by
    intro front broken script breaks all
    obtain ⟨failed, inside, fails⟩ := breaks.fails
    exact fails (all failed (List.mem_append_right _ inside))
  cases protects with
  | unprovisioned wanted establishes unmade =>
    cases establishes with
    | made certificate names => exact absurd rfl (unmade _)
    | unwritten certificate names fault =>
      exact .unwritten (by rw [wanted]; rfl) (.made wanted names certificate)
    | broken certificate names breaks attaching halts => exact absurd succeeds (unbroken [] breaks)
    | unattached names fault discards halts =>
      exact absurd (List.mem_append_right _ List.mem_cons_self)
        (Errand.refused_notMem succeeds _ fault)
  | unpassed made meant breaks bad => exact absurd succeeds (unbroken _ breaks)
  | undriven made meant breaks halts => exact absurd succeeds (unbroken _ breaks)
  | verified made drives verifies =>
    cases verifies with
    | judged asking => exact .through (.intro made drives asking)
    | broken meant breaks halts =>
      rw [← List.append_assoc] at succeeds
      exact absurd succeeds (unbroken _ breaks)

/-- An opening takes nothing away but the certificate that could not be attached. -/
theorem Opens.onlyDiscards (opens : Opens plan limits seen) :
    ∀ errand ∈ seen, errand.OnlyDiscards := by
  cases opens with
  | follows meant follows attaching =>
    exact fun errand inside => (follows.forward meant.forward errand inside).onlyDiscards
  | discards wanted names fault discards =>
    exact Identity.teardown_of_unattached names fault discards

/-- An opening lists no principals. -/
theorem Opens.unlisted (opens : Opens plan limits seen) :
    ∀ errand ∈ seen, errand.operation? ≠ some .listPrincipals :=
  fun errand inside => (opens.onlyDiscards errand inside).ne rfl ⟨nofun, nofun⟩

/-- Phases that never come back wait for a call. -/
theorem Protects.hangs (protects : Protects plan limits seen .hung) :
    ∃ request, .call request .hang ∈ seen := by
  have waiting : ∀ {α : Type} {progress : Progress} {phase : Phase} {stop : Fate TrialError α},
      .hung = ended progress phase stop → stop = .hung := by
    intro α progress phase stop same
    cases stop <;> first | rfl | cases same
  generalize same : (Fate.hung : Fate Empty Progress) = fate at protects
  cases protects with
  | unprovisioned wanted establishes unmade =>
    obtain rfl := waiting same
    exact (establishes.halts unmade).waits
  | unpassed _ _ _ _ => cases same
  | undriven made meant breaks halts =>
    obtain rfl := waiting same
    obtain ⟨request, called⟩ := halts.waits
    exact ⟨request, List.mem_append_right _ called⟩
  | verified made drives verifies =>
    obtain rfl := waiting same
    obtain ⟨request, called⟩ := (verifies.halts nofun).waits
    exact ⟨request, List.mem_append_right _ (List.mem_append_right _ called)⟩

/-- A breakdown in a trial is contained. -/
theorem Conducts.not_panicked {fate : Fate Empty Report} (conducts : Conducts plan limits seen fate)
    (message : String) : fate ≠ .panicked message := by
  cases conducts <;> nofun

/-- A trial that never comes back waits for a call, and not for one of its cleanup. -/
theorem Conducts.hangs (conducts : Conducts plan limits seen .hung) :
    ∃ request, request.operation ≠ .listPrincipals ∧ .call request .hang ∈ seen := by
  cases conducts with
  | hung protects =>
    obtain ⟨request, waits⟩ := protects.hangs
    exact ⟨request, fun same => protects.opens.unlisted _ waits (congrArg some same), waits⟩

/-! ### The protocol -/

/-- The errands of taking the identity away: the principals are listed once, and what comes after
that detaches, deactivates or deletes something. -/
structure Closes (identity : String) (seen : List Errand) : Prop where
  /-- They are those of a removal. -/
  dismantles : ∃ removal, Identity.Dismantles identity seen removal
  /-- The list comes first, and never again. -/
  starts : ∃ reply rest, seen = .call (.listPrincipals identity) reply :: rest ∧
    ∀ errand ∈ rest, Identity.TakesAway errand

/-- **The protocol of a trial.** Its errands are an opening that lists no principals, and then the
errands of taking the identity away, unless it waits for ever for a call of the opening. When nothing
fails in the opening, it goes on to its end, unless the files of the identity cannot be written. -/
theorem conduct_protocol {σ : Type} (host : Host σ) (plan : Plan) (limits : Limits)
    (world : World σ) :
    ∃ opening closing,
      Errand.view.seen ((conduct plan limits).historyIn host world) = opening ++ closing ∧
      Opens plan limits opening ∧
      ((∀ errand ∈ opening, errand.Succeeds) ↔ Completes plan limits opening) ∧
      (∀ errand ∈ opening, errand.operation? ≠ some .listPrincipals) ∧
      ((∃ report, ((conduct plan limits).runIn host world).1 = .done report) ∧
          Closes plan.identity closing ∨
        ((conduct plan limits).runIn host world).1 = .hung ∧ closing = [] ∧
          ∃ request, .call request .hang ∈ opening) := by
  have conducts := conducts_of_shows
    ((conduct plan limits).shows_historyIn Errand.view host world)
  revert conducts
  generalize ((conduct plan limits).runIn host world).1 = fate
  generalize Errand.view.seen ((conduct plan limits).historyIn host world) = seen
  rintro (protects | ⟨protects, dismantles⟩)
  · exact ⟨_, [], (List.append_nil _).symm, protects.opens, protects.completes_iff,
      protects.opens.unlisted, .inr ⟨rfl, rfl, protects.hangs⟩⟩
  · exact ⟨_, _, rfl, protects.opens, protects.completes_iff, protects.opens.unlisted,
      .inl ⟨⟨_, rfl⟩, ⟨_, dismantles⟩, dismantles.starts⟩⟩

end Trial

end DeviceTrial
