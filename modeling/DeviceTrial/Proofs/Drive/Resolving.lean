/-
**What a descriptor is resolved to.**

The secrets in the arguments are looked up one after the other, up to the first that has no value. When
all of them have one, each stands behind its argument as it is; the templates are filled in; and of the
variables with one name those of the run count.

* `Plane.lookups` — the lookups, by the names alone;
* `RestsOn` — how an outcome rests on lookups, closed under one more lookup in front;
* `Suits` — what a process is started with that suits a descriptor;
* `prepare_resolves` — **every acceptable descriptor is resolved so**, and no process is started where
  a secret has no value.
-/

import DeviceTrial.Proofs.Drive.Accepting
import DeviceTrial.Proofs.Run.Ending
import DeviceTrial.Proofs.Trial.Compensation
import DeviceTrial.Proofs.Trial.Driving
import DeviceTrial.Settings.Check
import DeviceTrial.Trial
import Mathlib.Data.List.Nodup

namespace DeviceTrial

variable {σ α β : Type}

/-! ### Lookups -/

/-- The secrets that the arguments name, in order. -/
def Descriptor.secrets (descriptor : Descriptor) : List String :=
  descriptor.arguments.filterMap Argument.secret

/-- Looking secrets up one after the other, up to the first that has no value. -/
def Plane.lookups (plane : Plane σ) : List String → σ → List Errand
  | [], _ => []
  | name :: names, state =>
    match plane.answer (.getSecret name) state with
    | (.ok value, after) => .call (.getSecret name) (.ok value) :: plane.lookups names after
    | (reply, _) => [.call (.getSecret name) reply]

section Secrets

variable (host : Host σ) (name : String) (world : World σ)

/-- **Reading a secret** is one lookup, -/
theorem seen_resolveSecret :
    Errand.view.seen ((resolveSecret name).historyIn host world) =
      [.call (.getSecret name) (host.plane.answer (.getSecret name) world.plane).1] := by
  obtain ⟨rest, starts⟩ : ∃ rest, Errand.view.seen ((resolveSecret name).historyIn host world) =
      .call (.getSecret name) (host.plane.answer (.getSecret name) world.plane).1 :: rest :=
    ⟨_, rfl⟩
  obtain ⟨reply, seen, -⟩ :=
    resolveSecret_of_shows ((resolveSecret name).shows_historyIn Errand.view host world)
  rw [starts] at seen ⊢
  obtain ⟨-, rfl⟩ := List.cons_eq_cons.mp seen
  rfl

/-- whose reply decides how it comes out, -/
theorem fate_resolveSecret :
    ((resolveSecret name).runIn host world).1 =
      (host.plane.answer (.getSecret name) world.plane).1.fate.mapError
        fun fault => .secretUnavailable name fault.message := by
  obtain ⟨reply, seen, fate⟩ :=
    resolveSecret_of_shows ((resolveSecret name).shows_historyIn Errand.view host world)
  rw [seen_resolveSecret] at seen
  cases seen
  exact fate

/-- and it leaves the store as the lookup left it. -/
theorem plane_resolveSecret :
    ((resolveSecret name).runIn host world).2.plane =
      (host.plane.answer (.getSecret name) world.plane).2 := by
  unfold resolveSecret
  rw [Action.attempt_bind_eq, Action.runIn_onward, Action.runIn_call]
  dsimp only [Host.handle]
  cases (host.plane.answer (.getSecret name) world.plane).1 <;> rfl

end Secrets

/-- Acceptable settings give a process a second at least. -/
theorem Settings.timeout_pos_of_check {settings : Settings} (good : settings.check = .ok ()) :
    0 < settings.limits.timeout := by
  have inside : between .timeout (settings.get .timeout) 1 longestTimeout ∈ settings.checks := by
    simp [checks]
  have holds := (firstFailure_eq_ok_iff settings.checks).mp good _ inside
  simp only [between, Bool.and_eq_true, decide_eq_true_eq] at holds
  exact holds.1

namespace Drive

/-- That an outcome rests on lookups: there is a value when each of them gave one, and else it is said
why not. -/
structure RestsOn (lookups : List Errand) (outcome : Fate TrialError α) : Prop where
  /-- There is a value when every secret has one. -/
  done : (∃ value, outcome = .done value) ↔ ∀ errand ∈ lookups, errand.Succeeds
  /-- The only failure is a secret that is unavailable, and it names this secret. -/
  failed : ∀ fault, outcome = .failed fault ↔
    ∃ name reason, .call (.getSecret name) (.error reason) ∈ lookups ∧
      fault = .secretUnavailable name reason.message
  /-- It breaks down where a lookup does. -/
  panicked : ∀ message, outcome = .panicked message ↔
    ∃ name, .call (.getSecret name) (.panic message) ∈ lookups
  /-- It never comes back where a lookup does not. -/
  hung : outcome = .hung ↔ ∃ name, .call (.getSecret name) .hang ∈ lookups

namespace RestsOn

variable {lookups : List Errand} {outcome : Fate TrialError α}

theorem nil (value : α) : RestsOn [] (.done value) where
  done := by simp
  failed := by simp
  panicked := by simp
  hung := by simp

/-- A lookup that gave a value makes no difference. -/
theorem cons (rests : RestsOn lookups outcome) (name value : String) :
    RestsOn (.call (.getSecret name) (.ok value) :: lookups) outcome where
  done := by simp [rests.done]
  failed := by simp [rests.failed]
  panicked := by simp [rests.panicked]
  hung := by simp [rests.hung]

/-- A lookup without a value decides. -/
theorem stopped {name : String} {reply : Reply String} (bad : ¬ reply.IsOk)
    (stops : Fate.Stops
      (reply.fate.mapError fun fault => TrialError.secretUnavailable name fault.message) outcome) :
    RestsOn [.call (.getSecret name) reply] outcome := by
  cases reply with
  | ok value => exact absurd ⟨value, rfl⟩ bad
  | error fault => cases stops; constructor <;> simp [eq_comm]
  | panic message => cases stops; constructor <;> simp [eq_comm]
  | hang => cases stops; constructor <;> simp

/-- What is made of the value makes no difference. -/
theorem map (rests : RestsOn lookups outcome) (change : α → β) :
    RestsOn lookups (outcome.map change) where
  done := by rw [← rests.done]; cases outcome <;> simp [Fate.map]
  failed fault := by rw [← rests.failed]; cases outcome <;> simp [Fate.map]
  panicked message := by rw [← rests.panicked]; cases outcome <;> simp [Fate.map]
  hung := by rw [← rests.hung]; cases outcome <;> simp [Fate.map]

end RestsOn

/-! ### Resolving -/

section Resolving

variable (bindings : Bindings) (defaultSeconds : Nat) (host : Host σ)

/-- An argument without a secret is followed by what its template comes to, -/
theorem resolveArguments_plain {argument : Argument} (known : argument.secret = none)
    (arguments : List Argument) :
    resolveArguments bindings (argument :: arguments) = do
      let others ← resolveArguments bindings arguments
      return argument.name :: ((argument.data.map bindings.expand).toList ++ others) := by
  rw [resolveArguments, resolveArgument, known]
  cases argument.data <;> simp

/-- and an argument with a secret by the value of the secret. -/
theorem resolveArguments_secret {argument : Argument} {name : String}
    (wanted : argument.secret = some name) (arguments : List Argument) :
    resolveArguments bindings (argument :: arguments) = do
      let value ← resolveSecret name
      let others ← resolveArguments bindings arguments
      return argument.name :: value :: others := by
  rw [resolveArguments, resolveArgument, wanted]
  simp

/-- **Resolving arguments** looks their secrets up, and how it comes out rests on these lookups. -/
theorem restsOn_resolveArguments (arguments : List Argument) (world : World σ) :
    Errand.view.seen ((resolveArguments bindings arguments).historyIn host world) =
        host.plane.lookups (arguments.filterMap Argument.secret) world.plane ∧
      RestsOn (host.plane.lookups (arguments.filterMap Argument.secret) world.plane)
        ((resolveArguments bindings arguments).runIn host world).1 := by
  induction arguments generalizing world with
  | nil => exact ⟨rfl, .nil []⟩
  | cons argument arguments step =>
    cases wanted : argument.secret with
    | none =>
      obtain ⟨seen, rests⟩ := step world
      rw [resolveArguments_plain bindings wanted, Action.historyIn_bind_pure,
        Action.runIn_bind_pure, List.filterMap_cons_none wanted]
      exact ⟨seen, rests.map _⟩
    | some name =>
      rw [resolveArguments_secret bindings wanted, Action.historyIn_bind, Action.runIn_bind,
        View.seen_append, seen_resolveSecret, fate_resolveSecret,
        List.filterMap_cons_some wanted, Plane.lookups]
      -- the other secrets are looked up in the store that this lookup leaves
      obtain ⟨seen, rests⟩ := step ((resolveSecret name).runIn host world).2
      rw [plane_resolveSecret] at seen rests
      generalize ((resolveSecret name).runIn host world).2 = middle at seen rests ⊢
      generalize host.plane.answer (.getSecret name) world.plane = answered at seen rests ⊢
      obtain ⟨reply, after⟩ := answered
      cases reply with
      | ok value =>
        dsimp only [Reply.fate, Fate.mapError, Fate.onward]
        rw [Action.historyIn_bind_pure, Action.runIn_bind_pure, seen]
        exact ⟨rfl, (rests.cons name value).map _⟩
      | error fault => exact ⟨rfl, .stopped nofun (.failed _)⟩
      | panic message => exact ⟨rfl, .stopped nofun (.panicked _)⟩
      | hang => exact ⟨rfl, .stopped nofun .hung⟩

end Resolving

/-- Lookups leave no choice what arguments become. -/
theorem Resolves.unique {bindings : Bindings} {arguments : List Argument} {lookups : List Errand}
    {texts others : List String} (one : Resolves bindings arguments texts lookups)
    (other : Resolves bindings arguments others lookups) : texts = others := by
  induction one generalizing others with
  | nil =>
    cases other
    rfl
  | plain known rest step =>
    cases other with
    | plain _ more => rw [step more]
    | secret wanted => cases known.symm.trans wanted
  | secret wanted value rest step =>
    cases other with
    | plain known => cases known.symm.trans wanted
    | secret _ _ more => rw [step more]

/-! ### What the process is started with -/

/-- The names of the variables of a run. -/
def runVariables : List String :=
  ["DEVICETEST_RUN_ID", "DEVICETEST_THING_NAME", "DEVICETEST_CERT_PATH", "DEVICETEST_KEY_PATH",
    "DEVICETEST_REGION"]

/-- What a process is started with that suits a descriptor, after these lookups. -/
structure Suits (descriptor : Descriptor) (bindings : Bindings) (defaultSeconds : Nat)
    (lookups : List Errand) (launch : Launch) : Prop where
  /-- The program is that of the descriptor, -/
  program : launch.program = descriptor.command
  /-- as is the directory. -/
  directory : launch.directory = descriptor.directory
  /-- Each argument is followed by the value of its secret, by what its template comes to, or by
  nothing. -/
  arguments : Resolves bindings descriptor.arguments launch.arguments lookups
  /-- The process finds the tag of the run, -/
  run : launch.valueOf? "DEVICETEST_RUN_ID" = some bindings.tag.text
  /-- the name of its identity, -/
  thing : launch.valueOf? "DEVICETEST_THING_NAME" = some bindings.thing
  /-- the paths of its certificate -/
  certificate : launch.valueOf? "DEVICETEST_CERT_PATH" =
    some (Bindings.pathText bindings.certificate)
  /-- and of its key, -/
  key : launch.valueOf? "DEVICETEST_KEY_PATH" = some (Bindings.pathText bindings.key)
  /-- and the region, whatever the descriptor says about them. -/
  region : launch.valueOf? "DEVICETEST_REGION" = some bindings.region
  /-- Every other variable of the descriptor has what its template comes to. -/
  others : ∀ name template, (name, template) ∈ descriptor.environment → name ∉ runVariables →
    launch.valueOf? name = some (bindings.expand template)
  /-- No further variable is added. -/
  closed : ∀ name, name ∉ runVariables → name ∉ descriptor.environment.map Prod.fst →
    launch.valueOf? name = none
  /-- The process has the time of the descriptor, or else the usual one. -/
  time : launch.budget = descriptor.timeout.getD defaultSeconds * 1000
  /-- That is a second at least, if the usual time is that of acceptable settings. -/
  enough : ∀ settings : Settings, settings.check = .ok () →
    defaultSeconds = settings.limits.timeout → 1000 ≤ launch.budget

section Environment

variable {descriptor : Descriptor} {bindings : Bindings} {defaultSeconds : Nat}
  {texts : List String}

theorem names_environment (bindings : Bindings) :
    bindings.environment.map Prod.fst = runVariables := rfl

/-- A variable of the run does not come from the descriptor, -/
theorem valueOf?_launchWith_run {name value : String}
    (found : bindings.environment.reverse.find? (fun entry => entry.1 == name) =
      some (name, value)) :
    (launchWith descriptor bindings defaultSeconds texts).valueOf? name = some value := by
  simp [Launch.valueOf?, launchWith, environmentFor, found]

/-- and every other one does. -/
theorem valueOf?_launchWith_other {name : String} (other : name ∉ runVariables) :
    (launchWith descriptor bindings defaultSeconds texts).valueOf? name =
      (descriptor.environment.reverse.find? fun entry => entry.1 == name).map
        fun entry => bindings.expand entry.2 := by
  have absent : bindings.environment.reverse.find? (fun entry => entry.1 == name) = none := by
    refine List.find?_eq_none.mpr fun entry inside same => other ?_
    rw [← names_environment bindings, ← eq_of_beq same]
    exact List.mem_map_of_mem (List.mem_reverse.mp inside)
  simp [Launch.valueOf?, launchWith, environmentFor, absent, ← List.map_reverse, List.find?_map,
    Function.comp_def]

/-- Where names are distinct an entry is found by its name. -/
theorem find?_reverse_of_nodup {entries : List (String × String)}
    (single : (entries.map Prod.fst).Nodup) {name template : String}
    (inside : (name, template) ∈ entries) :
    entries.reverse.find? (fun entry => entry.1 == name) = some (name, template) := by
  cases found : entries.reverse.find? (fun entry => entry.1 == name) with
  | none =>
    have unlike := List.find?_eq_none.mp found _ (List.mem_reverse.mpr inside)
    exact absurd (beq_self_eq_true name) unlike
  | some entry =>
    have same : (entry.1 == name) = true := by simpa using List.find?_some found
    have member := List.mem_reverse.mp (List.mem_of_find?_eq_some found)
    rw [List.inj_on_of_nodup_map single member inside (eq_of_beq same)]

/-- **What is made of the texts of the arguments** suits the descriptor. -/
theorem suits_launchWith {lookups : List Errand} (accepted : descriptor.IsAccepted)
    (resolves : Resolves bindings descriptor.arguments texts lookups) :
    Suits descriptor bindings defaultSeconds lookups
      (launchWith descriptor bindings defaultSeconds texts) where
  program := rfl
  directory := rfl
  arguments := resolves
  run := valueOf?_launchWith_run rfl
  thing := valueOf?_launchWith_run rfl
  certificate := valueOf?_launchWith_run rfl
  key := valueOf?_launchWith_run rfl
  region := valueOf?_launchWith_run rfl
  others name template inside other := by
    rw [valueOf?_launchWith_other other, find?_reverse_of_nodup accepted.single inside]
    rfl
  closed name other absent := by
    rw [valueOf?_launchWith_other other, List.find?_eq_none.mpr]
    · rfl
    · rintro entry inside same
      rw [← eq_of_beq same] at absent
      exact absent (List.mem_map_of_mem (List.mem_reverse.mp inside))
  time := rfl
  enough settings good usual := by
    have given := ((Descriptor.check_eq_ok_iff descriptor).mp accepted.checked).2.1
    have usually := Settings.timeout_pos_of_check good
    show 1000 ≤ descriptor.timeout.getD defaultSeconds * 1000
    cases known : descriptor.timeout with
    | none =>
      rw [usual, Option.getD_none]
      omega
    | some seconds =>
      rw [known] at given
      have positive : seconds ≠ 0 := fun zero => given (congrArg some zero)
      rw [Option.getD_some]
      omega

end Environment

/-! ### The whole -/

/-- What comes of preparing a process for a descriptor, after these lookups. -/
structure Prepares (descriptor : Descriptor) (bindings : Bindings) (defaultSeconds : Nat)
    (lookups : List Errand) (outcome : Fate TrialError Launch) : Prop
    extends RestsOn lookups outcome where
  /-- What the process is to be started with suits the descriptor. -/
  suits : ∀ launch, outcome = .done launch →
    Suits descriptor bindings defaultSeconds lookups launch

/-- What a drive does after these lookups, with what was prepared. -/
structure Proceeds (path : Path) (text : String) (lookups : List Errand)
    (prepared : Fate TrialError Launch) (seen : List Errand) (ended : Fate TrialError DriveReport) :
    Prop where
  /-- The process is started as it was prepared. -/
  started : ∀ launch, prepared = .done launch →
    ∃ answer, seen = .reading path (.ok text) :: (lookups ++ [.process launch answer])
  /-- No process is started where none could be prepared, -/
  unstarted : (∀ launch, prepared ≠ .done launch) → seen = .reading path (.ok text) :: lookups
  /-- and the drive fails with what the preparation failed with. -/
  refused : ∀ fault, prepared = .failed fault → ended = .failed fault

section Whole

variable (host : Host σ) (bindings : Bindings) (defaultSeconds : Nat) (world : World σ)

/-- What is prepared rests on the lookups and suits the descriptor. -/
theorem prepares_lookups {descriptor : Descriptor} (accepted : descriptor.IsAccepted) :
    Errand.view.seen ((prepare descriptor bindings defaultSeconds).historyIn host world) =
        host.plane.lookups descriptor.secrets world.plane ∧
      Prepares descriptor bindings defaultSeconds
        (host.plane.lookups descriptor.secrets world.plane)
        ((prepare descriptor bindings defaultSeconds).runIn host world).1 := by
  have prepared : prepare descriptor bindings defaultSeconds =
      resolveArguments bindings descriptor.arguments >>= fun texts =>
        pure (launchWith descriptor bindings defaultSeconds texts) := rfl
  obtain ⟨seen, rests⟩ := restsOn_resolveArguments bindings host descriptor.arguments world
  have shown :=
    (resolveArguments bindings descriptor.arguments).shows_historyIn Errand.view host world
  rw [prepared, Action.historyIn_bind_pure, Action.runIn_bind_pure]
  refine ⟨seen, rests.map _, ?_⟩
  rw [seen] at shown
  intro launch ends
  obtain ⟨texts, resolves, fate⟩ | ⟨_, _, _, _, halts⟩ := resolves_of_shows shown
  · rw [fate] at ends
    cases ends
    exact suits_launchWith accepted resolves
  · generalize ((resolveArguments bindings descriptor.arguments).runIn host world).1 = fate
      at halts ends
    cases halts <;> cases ends

/-- A process is started, once, when this was announced. -/
theorem exists_process_of_execute (fields : List (String × String)) (launch : Launch)
    (tailLimit : Nat) :
    ∃ answer, Errand.view.seen (Action.historyIn host (do
      Action.log .info .drive "launching driven process" fields
      execute launch tailLimit) world) = [.process launch answer] := by
  obtain ⟨answer, seen, -⟩ := execute_of_shows ((Action.shows_log_bind_iff _ _ _ _ _ _).mp
    (Action.shows_historyIn Errand.view host (do
      Action.log .info .drive "launching driven process" fields
      execute launch tailLimit) world))
  exact ⟨answer, seen⟩

/-- A descriptor that can be read is loaded by reading it. -/
theorem load_of_reads {path : Path} {text : String} {descriptor : Descriptor}
    (given : world.files.readText path = .ok text) (reads : Descriptor.read text = .ok descriptor) :
    (Descriptor.load path).runIn host world = (.done descriptor, world) ∧
      Errand.view.seen ((Descriptor.load path).historyIn host world) =
        [.reading path (.ok text)] := by
  have answered : host.handle (.file (.read path)) world = (.ok text, world) :=
    Prod.ext given rfl
  unfold Descriptor.load Action.file
  rw [Action.runIn_ask_bind, Action.historyIn_ask_bind, answered]
  dsimp only
  rw [reads]
  exact ⟨rfl, rfl⟩

/-- **An acceptable descriptor is resolved** by looking up the secrets of its arguments, in order and
once each, up to the first that is unavailable. If there is one, the failure names it, and a run of the
descriptor starts no process; else the process is started with what suits the descriptor. -/
theorem prepare_resolves {descriptor : Descriptor} (accepted : descriptor.IsAccepted) :
    Errand.view.seen ((prepare descriptor bindings defaultSeconds).historyIn host world) =
        host.plane.lookups descriptor.secrets world.plane ∧
      Prepares descriptor bindings defaultSeconds
        (host.plane.lookups descriptor.secrets world.plane)
        ((prepare descriptor bindings defaultSeconds).runIn host world).1 ∧
      ∀ path text tailLimit, world.files.readText path = .ok text →
        Descriptor.read text = .ok descriptor →
        Proceeds path text (host.plane.lookups descriptor.secrets world.plane)
          ((prepare descriptor bindings defaultSeconds).runIn host world).1
          (Errand.view.seen ((run path bindings defaultSeconds tailLimit).historyIn host world))
          ((run path bindings defaultSeconds tailLimit).runIn host world).1 := by
  obtain ⟨looked, prepares⟩ := prepares_lookups host bindings defaultSeconds world accepted
  refine ⟨looked, prepares, fun path text tailLimit given reads => ?_⟩
  -- reading the descriptor changes nothing, so what follows is the preparation in the same world
  obtain ⟨loaded, seen⟩ := load_of_reads host world given reads
  unfold run
  rw [Action.historyIn_bind, Action.runIn_bind, View.seen_append, loaded, seen]
  dsimp only [Fate.onward]
  rw [Action.historyIn_bind, Action.runIn_bind, View.seen_append, looked]
  generalize (prepare descriptor bindings defaultSeconds).runIn host world = prepared
  obtain ⟨fate, after⟩ := prepared
  cases fate with
  | done launch =>
    refine ⟨fun other same => ?_, fun never => absurd rfl (never launch), nofun⟩
    cases same
    exact (exists_process_of_execute host after _ launch tailLimit).imp fun _ =>
      congrArg fun last =>
        .reading path (.ok text) :: (host.plane.lookups descriptor.secrets world.plane ++ last)
  | failed fault =>
    refine ⟨nofun, fun _ => congrArg (_ :: ·) (List.append_nil _), ?_⟩
    rintro _ ⟨⟩
    rfl
  | panicked message => exact ⟨nofun, fun _ => congrArg (_ :: ·) (List.append_nil _), nofun⟩
  | hung => exact ⟨nofun, fun _ => congrArg (_ :: ·) (List.append_nil _), nofun⟩

end Whole

/-! ### A descriptor with a variable of the run -/

/-- A descriptor with a secret and with a variable that is called like one of the run. -/
def shadowing : Descriptor where
  description := ""
  command := "tool"
  directory := none
  arguments := [⟨"--token", none, some "ci/token"⟩, ⟨"--tag", some "$INPUT_UUID", none⟩,
    ⟨"-v", none, none⟩]
  environment := [("DEVICETEST_REGION", "mine"), ("NOTE", "$THING_NAME")]
  timeout := none

/-- The text of this descriptor. -/
def shadowingText : String :=
  "[\"\", \"tool\", null, " ++
    "[[\"--token\", null, \"ci/token\"], [\"--tag\", \"$INPUT_UUID\"], [\"-v\"]], " ++
    "\x7b\"NOTE\": \"$THING_NAME\", \"DEVICETEST_REGION\": \"mine\"\x7d]"

theorem eq_ok_of_toOption {ε α : Type} {outcome : Except ε α} {value : α}
    (same : outcome.toOption = some value) : outcome = .ok value := by
  cases outcome with
  | error fault => cases same
  | ok made => exact congrArg Except.ok (Option.some.inj same)

theorem read_shadowingText : Descriptor.read shadowingText = .ok shadowing :=
  eq_ok_of_toOption (by decide +kernel)

/-- A world in which the descriptor can be read. -/
def shadowingWorld (registry : Registry) : World (Interrupted Registry) :=
  .start (.start registry [])
    ((FileSystem.mk Table.empty).put ["trial.json"] (.file shadowingText.toUTF8 false))

theorem readText_shadowingWorld (registry : Registry) :
    (shadowingWorld registry).files.readText ⟨"/trial.json"⟩ = .ok shadowingText := by
  show (shadowingWorld .empty).files.readText ⟨"/trial.json"⟩ = .ok shadowingText
  exact eq_ok_of_toOption (by decide +kernel)

/-- The variable has the value of the run, and a value that looks like a placeholder is no template;
without the secret no process is started. -/
theorem prepare_resolves_shadowing :
    shadowing.IsAccepted ∧
      (∃ launch answer,
        ((prepare shadowing Trial.samplePlan.bindings 60).runIn Trial.sampleHost
          (shadowingWorld (.withSecret .empty "ci/token" "$REGION"))).1 = .done launch ∧
        launch.arguments = ["--token", "$REGION", "--tag", "a", "-v"] ∧
        launch.valueOf? "DEVICETEST_REGION" = some "eu-central-1" ∧
        launch.valueOf? "NOTE" = some "device-a" ∧
        Errand.view.seen ((run ⟨"/trial.json"⟩ Trial.samplePlan.bindings 60 0).historyIn
            Trial.sampleHost (shadowingWorld (.withSecret .empty "ci/token" "$REGION"))) =
          [.reading ⟨"/trial.json"⟩ (.ok shadowingText),
            .call (.getSecret "ci/token") (.ok "$REGION"), .process launch answer]) ∧
      ∃ reason, ((run ⟨"/trial.json"⟩ Trial.samplePlan.bindings 60 0).runIn Trial.sampleHost
            (shadowingWorld .empty)).1 = .failed (.secretUnavailable "ci/token" reason) ∧
        ∀ launch answer, .process launch answer ∉
          Errand.view.seen ((run ⟨"/trial.json"⟩ Trial.samplePlan.bindings 60 0).historyIn
            Trial.sampleHost (shadowingWorld .empty)) := by
  have accepted := Descriptor.isAccepted_of_read read_shadowingText
  refine ⟨accepted, ?_, ?_⟩
  · obtain ⟨-, prepares, proceeds⟩ := prepare_resolves Trial.sampleHost Trial.samplePlan.bindings 60
      (shadowingWorld (.withSecret .empty "ci/token" "$REGION")) accepted
    have lookups : Trial.sampleHost.plane.lookups shadowing.secrets
        (shadowingWorld (.withSecret .empty "ci/token" "$REGION")).plane =
          [.call (.getSecret "ci/token") (.ok "$REGION")] := rfl
    have ran := proceeds ⟨"/trial.json"⟩ shadowingText 0 (readText_shadowingWorld _)
      read_shadowingText
    rw [lookups] at prepares ran
    obtain ⟨launch, done⟩ := prepares.done.mpr (by simp)
    obtain ⟨answer, seen⟩ := ran.started launch done
    have suits := prepares.suits launch done
    have spelled : Resolves Trial.samplePlan.bindings shadowing.arguments
        ["--token", "$REGION", "--tag", Trial.samplePlan.bindings.expand "$INPUT_UUID", "-v"]
        [.call (.getSecret "ci/token") (.ok "$REGION")] :=
      .secret rfl "$REGION" (.plain rfl (.plain rfl .nil))
    refine ⟨launch, answer, done, ?_, suits.region, ?_, seen⟩
    · rw [suits.arguments.unique spelled]
      decide +kernel
    · rw [suits.others "NOTE" "$THING_NAME" (by decide) (by decide)]
      decide +kernel
  · obtain ⟨-, prepares, proceeds⟩ := prepare_resolves Trial.sampleHost Trial.samplePlan.bindings 60
      (shadowingWorld .empty) accepted
    obtain ⟨fault, lookups⟩ : ∃ fault, Trial.sampleHost.plane.lookups shadowing.secrets
        (shadowingWorld .empty).plane = [.call (.getSecret "ci/token") (.error fault)] := ⟨_, rfl⟩
    have ran := proceeds ⟨"/trial.json"⟩ shadowingText 0 (readText_shadowingWorld _)
      read_shadowingText
    rw [lookups] at prepares ran
    have failed := (prepares.failed _).mpr ⟨"ci/token", fault, by simp, rfl⟩
    refine ⟨fault.message, ran.refused _ failed, ?_⟩
    rw [ran.unstarted (by rw [failed]; nofun)]
    simp

end Drive

end DeviceTrial
