/-
**The errands of running the process under test.**

The descriptor is read, the secrets in its arguments are fetched one after the other, and the
process is started. `Driving` is the script of a drive that passes, and `Drives` says what can
become of one:

* `resolves_of_shows` — arguments are resolved in order, up to the first secret that cannot be read;
* `drives_of_shows` — a drive follows its script to the end and passes, or breaks off and does not.
-/

import DeviceTrial.Drive
import DeviceTrial.Proofs.Identity.Making
import DeviceTrial.Proofs.Run.Silence

namespace DeviceTrial

namespace Drive

/-- The errands that turn arguments into texts. -/
inductive Resolves (bindings : Bindings) :
    List Argument → List String → List Errand → Prop where
  /-- There is no argument. -/
  | nil : Resolves bindings [] [] []
  /-- The first argument needs no errand. -/
  | plain {argument : Argument} {arguments : List Argument} {texts : List String}
      {errands : List Errand} (known : argument.secret = none)
      (rest : Resolves bindings arguments texts errands) :
    Resolves bindings (argument :: arguments)
      (argument.name :: ((argument.data.map bindings.expand).toList ++ texts)) errands
  /-- The value of the first argument is a secret. -/
  | secret {argument : Argument} {arguments : List Argument} {texts : List String}
      {errands : List Errand} {name : String} (wanted : argument.secret = some name)
      (value : String) (rest : Resolves bindings arguments texts errands) :
    Resolves bindings (argument :: arguments) (argument.name :: value :: texts)
      (.call (.getSecret name) (.ok value) :: errands)

/-- The process that a descriptor asks for, with its arguments. -/
def launchWith (descriptor : Descriptor) (bindings : Bindings) (defaultSeconds : Nat)
    (texts : List String) : Launch where
  program := descriptor.command
  arguments := texts
  environment := environmentFor descriptor bindings
  directory := descriptor.directory
  budget := budgetFor descriptor defaultSeconds

/-- The errands of a drive that passes. -/
inductive Driving (path : Path) (bindings : Bindings) (defaultSeconds : Nat) :
    List Errand → Prop where
  | intro {text : String} {descriptor : Descriptor} {texts : List String} {errands : List Errand}
      {finish : Finish} (reads : Descriptor.read text = .ok descriptor)
      (resolves : Resolves bindings descriptor.arguments texts errands)
      (good : finish.ending = .exited 0) :
    Driving path bindings defaultSeconds (.reading path (.ok text) :: (errands ++
      [.process (launchWith descriptor bindings defaultSeconds texts) (.ok finish)]))

/-- The errands and the end of a drive. -/
inductive Drives (path : Path) (bindings : Bindings) (defaultSeconds : Nat) :
    List Errand → Fate TrialError DriveReport → Prop where
  /-- The process did what it should. -/
  | passed {seen : List Errand} {report : DriveReport}
      (script : Driving path bindings defaultSeconds seen) (good : report.status = .passed) :
    Drives path bindings defaultSeconds seen (.done report)
  /-- The process ran and did something else. -/
  | unpassed {seen script : List Errand} {report : DriveReport}
      (meant : Driving path bindings defaultSeconds script) (breaks : Errand.Breaks seen script)
      (bad : report.status ≠ .passed) : Drives path bindings defaultSeconds seen (.done report)
  /-- There was no process, or it could not be told how it ended. -/
  | broken {seen script : List Errand} {fate : Fate TrialError DriveReport}
      (meant : Driving path bindings defaultSeconds script) (breaks : Errand.Breaks seen script)
      (halts : Halts seen fate) : Drives path bindings defaultSeconds seen fate

variable {β : Type} {path : Path} {bindings : Bindings} {defaultSeconds : Nat} {seen : List Errand}

/-! ### Resolving -/

theorem exists_resolves (bindings : Bindings) (arguments : List Argument) :
    ∃ texts errands, Resolves bindings arguments texts errands := by
  induction arguments with
  | nil => exact ⟨[], [], .nil⟩
  | cons argument arguments step =>
    obtain ⟨texts, errands, rest⟩ := step
    cases wanted : argument.secret with
    | none => exact ⟨_, _, .plain wanted rest⟩
    | some name => exact ⟨_, _, .secret wanted "" rest⟩

/-- The texts of one argument, and what comes after them. -/
theorem resolveArgument_bind {argument : Argument} {next : List String → Action TrialError β}
    {fate : Fate TrialError β}
    (shown : Action.Shows Errand.view (resolveArgument bindings argument >>= next) seen fate) :
    (argument.secret = none ∧ Action.Shows Errand.view
      (next (argument.name :: (argument.data.map bindings.expand).toList)) seen fate) ∨
    ∃ name, argument.secret = some name ∧
      ((∃ value rest, seen = .call (.getSecret name) (.ok value) :: rest ∧
        Action.Shows Errand.view (next [argument.name, value]) rest fate) ∨
      ∃ reply : Reply String, ¬ reply.IsOk ∧ seen = [.call (.getSecret name) reply] ∧
        Halts seen fate) := by
  unfold resolveArgument at shown
  cases wanted : argument.secret with
  | none =>
    refine .inl ⟨rfl, ?_⟩
    cases known : argument.data with
    | none =>
      simp only [wanted, known, pure_bind] at shown
      exact shown
    | some data =>
      simp only [wanted, known, pure_bind] at shown
      exact shown
  | some name =>
    simp only [wanted, bind_assoc, pure_bind] at shown
    exact .inr ⟨name, rfl, (asks_resolveSecret name).shows_bind shown⟩

theorem Resolves.reading {arguments : List Argument} {texts : List String}
    (resolves : Resolves bindings arguments texts seen) : ∀ errand ∈ seen, errand.IsReading := by
  induction resolves with
  | nil => simp
  | plain known rest step => exact step
  | secret wanted value rest step => simpa [Call.operation, Operation.isReading] using step

theorem Driving.reading (drives : Driving path bindings defaultSeconds seen) :
    ∀ errand ∈ seen, errand.IsReading := by
  obtain ⟨reads, resolves, good⟩ := drives
  simpa [or_imp, forall_and] using resolves.reading

theorem Resolves.succeeds {arguments : List Argument} {texts : List String}
    (resolves : Resolves bindings arguments texts seen) : ∀ errand ∈ seen, errand.Succeeds := by
  induction resolves with
  | nil => simp
  | plain known rest step => exact step
  | secret wanted value rest step => simpa using step

theorem Driving.succeeds (drives : Driving path bindings defaultSeconds seen) :
    ∀ errand ∈ seen, errand.Succeeds := by
  obtain ⟨reads, resolves, good⟩ := drives
  intro errand inside
  rcases List.mem_cons.mp inside with rfl | inside
  · exact ⟨_, _, rfl, reads⟩
  · rcases List.mem_append.mp inside with inside | inside
    · exact resolves.succeeds errand inside
    · rw [List.mem_singleton.mp inside]
      exact ⟨_, rfl, good⟩

/-- **Arguments are resolved in order, up to the first secret that cannot be read.** -/
theorem resolves_of_shows {arguments : List Argument} {fate : Fate TrialError (List String)}
    (shown : Action.Shows Errand.view (resolveArguments bindings arguments) seen fate) :
    (∃ texts, Resolves bindings arguments texts seen ∧ fate = .done texts) ∨
      ∃ texts script, Resolves bindings arguments texts script ∧ Errand.Breaks seen script ∧
        Halts seen fate := by
  induction arguments generalizing seen fate with
  | nil =>
    obtain ⟨rfl, rfl⟩ := (Action.shows_pure_iff _ _ _ _).mp shown
    exact .inl ⟨[], .nil, rfl⟩
  | cons argument arguments step =>
    have others : ∀ {own : List String} {more : List Errand},
        Action.Shows Errand.view (do return own ++ (← resolveArguments bindings arguments))
          more fate →
        (∃ texts, Resolves bindings arguments texts more ∧ fate = .done (own ++ texts)) ∨
          ∃ texts script, Resolves bindings arguments texts script ∧
            Errand.Breaks more script ∧ Halts more fate := by
      intro own more after
      rcases (Action.shows_bind_iff _ _ _ _ _).mp after with
        ⟨texts, first, last, one, two, rfl⟩ | ⟨stop, one, stops⟩
      · obtain ⟨rfl, rfl⟩ := (Action.shows_pure_iff _ _ _ _).mp two
        obtain ⟨_, resolves, same⟩ | ⟨_, _, _, _, halts⟩ := step one
        · cases same
          rw [List.append_nil]
          exact .inl ⟨_, resolves, rfl⟩
        · cases halts
      · obtain ⟨_, resolves, rfl⟩ | ⟨texts, script, meant, breaks, halts⟩ := step one
        · cases stops
        · exact .inr ⟨texts, script, meant, breaks, halts.stops stops⟩
    rcases resolveArgument_bind shown with
      ⟨known, after⟩ | ⟨name, wanted, ⟨value, rest, rfl, after⟩ | ⟨reply, bad, rfl, halts⟩⟩
    · obtain ⟨texts, resolves, rfl⟩ | ⟨texts, script, meant, breaks, halts⟩ := others after
      · exact .inl ⟨_, .plain known resolves, rfl⟩
      · exact .inr ⟨_, _, .plain known meant, breaks, halts⟩
    · obtain ⟨texts, resolves, rfl⟩ | ⟨texts, script, meant, breaks, halts⟩ := others after
      · exact .inl ⟨_, .secret wanted value resolves, rfl⟩
      · exact .inr ⟨_, _, .secret wanted value meant, .later _ breaks,
          halts.mono fun _ => List.mem_cons_of_mem _⟩
    · obtain ⟨texts, script, rest⟩ := exists_resolves bindings arguments
      exact .inr ⟨_, _, .secret wanted "" rest, .here rfl bad, halts⟩

/-! ### Running -/

theorem prepare_bind {descriptor : Descriptor} {next : Launch → Action TrialError β}
    {fate : Fate TrialError β}
    (shown : Action.Shows Errand.view (prepare descriptor bindings defaultSeconds >>= next)
      seen fate) :
    ∃ texts script, Resolves bindings descriptor.arguments texts script ∧
      ((∃ rest, seen = script ++ rest ∧ Action.Shows Errand.view
        (next (launchWith descriptor bindings defaultSeconds texts)) rest fate) ∨
      Errand.Breaks seen script ∧ Halts seen fate) := by
  unfold prepare at shown
  rw [bind_assoc] at shown
  rcases (Action.shows_bind_iff _ _ _ _ _).mp shown with
    ⟨texts, first, rest, one, two, rfl⟩ | ⟨stop, one, stops⟩
  · obtain ⟨_, resolves, same⟩ | ⟨_, _, _, _, halts⟩ := resolves_of_shows one
    · cases same
      exact ⟨texts, first, resolves, .inl ⟨rest, rfl, two⟩⟩
    · cases halts
  · obtain ⟨_, resolves, rfl⟩ | ⟨texts, script, meant, breaks, halts⟩ := resolves_of_shows one
    · cases stops
    · exact ⟨texts, script, meant, .inr ⟨breaks, halts.stops stops⟩⟩

theorem silent_logReadings (readings : List (Channel × Reading)) :
    (logReadings readings).Silent false () := by
  induction readings with
  | nil => exact .of_pure ()
  | cons entry rest step =>
    obtain ⟨channel, reading⟩ := entry
    cases reading with
    | line text => exact (Action.Silent.of_log _ _ _ _).bind step
    | unreadable => exact (Action.Silent.of_log _ _ _ _).bind step

theorem silent_logExpiry (launch : Launch) (ending : Ending) :
    (logExpiry launch ending).Silent false () := by
  unfold logExpiry
  split
  · exact .of_log _ _ _ _
  · exact .of_pure ()

/-- The process passes when it ends with code zero in time. -/
theorem statusOf_eq_passed_iff (ending : Ending) (code : Option Int) :
    statusOf ending = .ok (.passed, code) ↔ ending = .exited 0 ∧ code = some 0 := by
  cases ending with
  | exited number =>
    by_cases zero : number = 0
    · simp [statusOf, zero, eq_comm]
    · simp [statusOf, zero]
  | _ => simp [statusOf]

theorem execute_of_shows {launch : Launch} {tailLimit : Nat} {fate : Fate TrialError DriveReport}
    (shown : Action.Shows Errand.view (execute launch tailLimit) seen fate) :
    ∃ outcome, seen = [.process launch outcome] ∧
      ((∃ report, fate = .done report ∧
        (report.status = .passed ↔ (Errand.process launch outcome).Succeeds)) ∨
      ((∃ fault, fate = .failed fault) ∧ ¬ (Errand.process launch outcome).Succeeds)) := by
  obtain ⟨outcome, rest, rfl, after⟩ := (Action.shows_ask_bind_iff _ _ _ _ _).mp shown
  cases outcome with
  | error reason =>
    obtain ⟨rfl, rfl⟩ := (Action.shows_fail_iff _ _ _ _).mp after
    exact ⟨_, rfl, .inr ⟨⟨_, rfl⟩, nofun⟩⟩
  | ok finish =>
    have judged := (silent_logReadings finish.readings).gives.shows_bind after
    have succeeds : (Errand.process launch (.ok finish)).Succeeds ↔ finish.ending = .exited 0 := by
      constructor
      · rintro ⟨_, same, good⟩
        cases same
        exact good
      · exact fun good => ⟨finish, rfl, good⟩
    cases status : statusOf finish.ending with
    | error fault =>
      rw [status] at judged
      obtain ⟨rfl, rfl⟩ := (Action.shows_fail_bind_iff _ _ _ _ _).mp judged
      refine ⟨_, rfl, .inr ⟨⟨_, rfl⟩, fun good => ?_⟩⟩
      rw [succeeds.mp good] at status
      cases status
    | ok pair =>
      rw [status] at judged
      obtain ⟨known, code⟩ := pair
      have logged := (silent_logExpiry launch finish.ending).gives.shows_bind judged
      rw [Action.shows_log_bind_iff, Action.shows_pure_iff] at logged
      obtain ⟨rfl, rfl⟩ := logged
      refine ⟨_, rfl, .inl ⟨_, rfl, ?_⟩⟩
      rw [succeeds]
      constructor
      · rintro (rfl : known = .passed)
        exact ((statusOf_eq_passed_iff _ _).mp status).1
      · intro good
        rw [good] at status
        cases status
        rfl

/-- There are texts that stand for a descriptor. -/
theorem exists_descriptor : ∃ text descriptor, Descriptor.read text = .ok descriptor := by
  have some : (Descriptor.read "[\"\", \"x\"]").toOption.isSome = true := by decide +kernel
  cases read : Descriptor.read "[\"\", \"x\"]" with
  | ok descriptor => exact ⟨_, descriptor, read⟩
  | error reason =>
    rw [read] at some
    cases some

/-- The descriptor, and what comes after it. -/
theorem load_bind {next : Descriptor → Action TrialError β} {fate : Fate TrialError β}
    (shown : Action.Shows Errand.view (Descriptor.load path >>= next) seen fate) :
    ∃ content, (∃ text descriptor rest, content = .ok text ∧
        Descriptor.read text = .ok descriptor ∧ seen = .reading path content :: rest ∧
        Action.Shows Errand.view (next descriptor) rest fate) ∨
      ¬ (Errand.reading path content).Succeeds ∧ seen = [.reading path content] ∧
        ∃ fault, fate = .failed fault := by
  unfold Descriptor.load at shown
  rw [bind_assoc] at shown
  obtain ⟨content, rest, rfl, after⟩ := (Action.shows_ask_bind_iff _ _ _ _ _).mp shown
  refine ⟨content, ?_⟩
  cases content with
  | error fault =>
    obtain ⟨rfl, rfl⟩ := (Action.shows_fail_bind_iff _ _ _ _ _).mp after
    exact .inr ⟨nofun, rfl, _, rfl⟩
  | ok text =>
    dsimp only at after
    cases read : Descriptor.read text with
    | ok descriptor =>
      rw [read] at after
      exact .inl ⟨text, descriptor, rest, rfl, read, rfl, after⟩
    | error reason =>
      rw [read] at after
      obtain ⟨rfl, rfl⟩ := (Action.shows_fail_bind_iff _ _ _ _ _).mp after
      refine .inr ⟨?_, rfl, _, rfl⟩
      rintro ⟨_, descriptor, same, good⟩
      cases same
      rw [read] at good
      cases good

/-- **All that can become of a drive.** -/
theorem drives_of_shows {tailLimit : Nat} {fate : Fate TrialError DriveReport}
    (shown : Action.Shows Errand.view (run path bindings defaultSeconds tailLimit) seen fate) :
    Drives path bindings defaultSeconds seen fate := by
  -- how a script that broke off would have gone on
  have meant : ∀ {text descriptor texts errands}, Descriptor.read text = .ok descriptor →
      Resolves bindings descriptor.arguments texts errands →
      Driving path bindings defaultSeconds (.reading path (.ok text) :: (errands ++
        [.process (launchWith descriptor bindings defaultSeconds texts)
          (.ok ⟨.empty, .empty, [], .exited 0⟩)])) :=
    fun reads resolves => .intro reads resolves rfl
  unfold run at shown
  obtain ⟨content, ⟨text, descriptor, rest, rfl, reads, rfl, after⟩ |
    ⟨bad, rfl, fault, rfl⟩⟩ := load_bind shown
  · obtain ⟨texts, script, resolves, ⟨last, rfl, launched⟩ | ⟨breaks, halts⟩⟩ :=
      prepare_bind after
    · rw [Action.shows_log_bind_iff] at launched
      obtain ⟨outcome, rfl, ⟨report, rfl, passes⟩ | ⟨⟨fault, rfl⟩, bad⟩⟩ :=
        execute_of_shows launched
      · by_cases good : report.status = .passed
        · obtain ⟨finish, rfl, ended⟩ := passes.mp good
          exact .passed (.intro reads resolves ended) good
        · refine .unpassed (meant reads resolves) (.later _ (.after _ (.here rfl ?_))) good
          exact fun succeeds => good (passes.mpr succeeds)
      · exact .broken (meant reads resolves) (.later _ (.after _ (.here rfl bad))) (.failed fault)
    · exact .broken (meant reads resolves) (.later _ (breaks.extend _))
        (halts.mono fun _ => List.mem_cons_of_mem _)
  · obtain ⟨text, descriptor, reads⟩ := exists_descriptor
    obtain ⟨texts, errands, resolves⟩ := exists_resolves bindings descriptor.arguments
    exact .broken (meant reads resolves) (.here rfl bad) (.failed fault)

end Drive

end DeviceTrial
