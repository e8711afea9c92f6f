/-
**What becomes of a preparation that fails.**

Nothing was asked of the service when a preparation fails, so what went wrong shows in the exit code
alone. Every way to fail is a wrong setting or a wrong selection, but for one: a settings file that is
there and that the system does not let the program read.

* `Settings.Unloads` — why loading the settings fails, and `Preparation.Refuses` — why a preparation
  does;
* `Preparation.refuses_of_failed` — there is no other way to fail;
* `run_of_refused` — **the exit code of a run whose preparation fails**, which asks nothing of the
  service.
-/

import DeviceTrial.Proofs.Application.ExitCode

namespace DeviceTrial

open CommandLine (Selection)

/-! ### Loading -/

namespace Settings

/-- That there is a settings file and the system does not give its text. -/
def IsUnread (files : FileSystem) (config : Option Path) : Prop :=
  ∃ path fault, config = some path ∧ files.readText path = .error fault ∧ fault ≠ .notFound

/-- Why loading the settings fails. -/
inductive Unloads (files : FileSystem) (config : Option Path) (environment : Variables) :
    TrialError → Prop where
  /-- There is no settings file at the path. -/
  | missing {path : Path} (given : config = some path)
      (absent : files.readText path = .error .notFound) :
    Unloads files config environment (.settings (.fileNotFound path.text))
  /-- The system does not give the text of the settings file. -/
  | unread {path : Path} {fault : FileFault} (given : config = some path)
      (broken : files.readText path = .error fault) (there : fault ≠ .notFound) :
    Unloads files config environment (.system fault.message)
  /-- The text is no settings document, or has a value of a wrong type. -/
  | malformed {path : Path} {text : String} {fault : SettingError} (given : config = some path)
      (readable : files.readText path = .ok text) (wrong : parse text = .error fault) :
    Unloads files config environment (.settings fault)
  /-- The settings are not acceptable, without or with the environment above them. -/
  | unacceptable {entries : List (String × Toml.Value)} {layer : Layer} {settings : Settings}
      {fault : SettingError} (holds : SettingsFile.Holds files config entries)
      (taken : SettingsFile.layerOf? entries = some layer)
      (stage : settings = ofFile layer ∨ settings = ofSurroundings environment layer)
      (wrong : settings.check = .error fault) :
    Unloads files config environment (.settings fault)

/-- A settings file that could be taken could be read. -/
theorem not_isUnread_of_holds {files : FileSystem} {config : Option Path}
    {entries : List (String × Toml.Value)} (holds : SettingsFile.Holds files config entries) :
    ¬ IsUnread files config := by
  rintro ⟨path, fault, given, broken, -⟩
  cases holds with
  | absent => cases given
  | present readable read =>
    cases given
    cases readable.symm.trans broken

/-- **A fault of the system** is a settings file that could not be read, and nothing else. -/
theorem Unloads.system_iff {files : FileSystem} {config : Option Path} {environment : Variables}
    {error : TrialError} (unloads : Unloads files config environment error) :
    (∃ reason, error = .system reason) ↔ IsUnread files config := by
  cases unloads with
  | missing given absent =>
    refine iff_of_false nofun ?_
    rintro ⟨_, fault, same, broken, there⟩
    cases given.symm.trans same
    cases absent.symm.trans broken
    exact there rfl
  | @unread path fault given broken there =>
    exact iff_of_true ⟨_, rfl⟩ ⟨path, fault, given, broken, there⟩
  | malformed given readable wrong =>
    refine iff_of_false nofun ?_
    rintro ⟨_, fault, same, broken, -⟩
    cases given.symm.trans same
    cases readable.symm.trans broken
  | unacceptable holds taken stage wrong =>
    exact iff_of_false nofun (not_isUnread_of_holds holds)

variable {σ : Type} {host : Host σ} {world : World σ}

theorem unloads_of_base {config : Option Path} {environment : Variables} {error : TrialError}
    (failed : ((base config).runIn host world).1 = .failed error) :
    Unloads world.files config environment error := by
  cases config with
  | none => cases failed
  | some path =>
    have answered : host.handle (.file (.read path)) world =
      (world.files.readText path, world) := rfl
    unfold base fromFile Action.file at failed
    rw [Action.runIn_ask_bind, answered] at failed
    cases content : world.files.readText path with
    | error fault =>
      rw [content] at failed
      by_cases absent : fault = .notFound
      · subst absent
        cases failed
        exact .missing rfl content
      · have reported : error = .system fault.message := by
          cases fault <;> first | exact absurd rfl absent | (cases failed; rfl)
        rw [reported]
        exact .unread rfl content absent
    | ok text =>
      simp only [content, Action.runIn_bind_eq_failed_iff, Action.runIn_mapError,
        Action.runIn_ofExcept, Fate.mapError_eq_failed_iff, Fate.mapError_eq_done_iff,
        Fate.ofExcept_eq_failed_iff, Fate.ofExcept_eq_done_iff] at failed
      obtain ⟨fault, wrong, rfl⟩ | ⟨settings, parsed, ⟨fault, wrong, rfl⟩ | ⟨_, -, ends⟩⟩ := failed
      · exact .malformed rfl content wrong
      · obtain ⟨entries, layer, read, taken, rfl⟩ := (parse_eq_ok_iff text settings).mp parsed
        exact .unacceptable (.present content read) taken (.inl rfl) wrong
      · cases ends

/-- **Why loading the settings fails.** -/
theorem unloads_of_load {config : Option Path} {environment : Variables} {error : TrialError}
    (failed : ((load config environment).runIn host world).1 = .failed error) :
    Unloads world.files config environment error := by
  simp only [load, Action.runIn_bind_eq_failed_iff, runIn_base_eq_done_iff,
    (silent_apply environment _).runIn, Fate.done.injEq, reduceCtorEq, false_or,
    Action.runIn_mapError, Action.runIn_ofExcept, Fate.mapError_eq_failed_iff,
    Fate.mapError_eq_done_iff, Fate.ofExcept_eq_failed_iff, Fate.ofExcept_eq_done_iff,
    Action.runIn_pure, and_false, exists_false, or_false] at failed
  obtain below | ⟨_, ⟨entries, layer, holds, taken, rfl, -⟩, _, rfl, fault, wrong, rfl⟩ := failed
  · exact unloads_of_base below
  · exact .unacceptable holds taken (.inr rfl) wrong

end Settings

/-! ### Preparing -/

namespace Preparation

/-- Why a preparation fails, and with which abort. -/
inductive Refuses (files : FileSystem) (selection : Selection) (around : Surroundings) :
    Abort → Prop where
  /-- The settings cannot be loaded. -/
  | unloaded {error : TrialError}
      (unloads : Settings.Unloads files selection.config around.environment error) :
    Refuses files selection around (.ofTrialError error)
  /-- The settings with the command line above them are not acceptable. -/
  | unacceptable {entries : List (String × Toml.Value)} {layer : Layer} {fault : SettingError}
      (holds : SettingsFile.Holds files selection.config entries)
      (taken : SettingsFile.layerOf? entries = some layer)
      (wrong : (Settings.merged selection around.environment layer).check = .error fault) :
    Refuses files selection around (.ofTrialError (.settings fault))
  /-- The given tag is none. -/
  | untagged {entries : List (String × Toml.Value)} {text : String} {fault : SettingError}
      (holds : SettingsFile.Holds files selection.config entries) (given : selection.tag = some text)
      (wrong : RunTag.read text = .error fault) :
    Refuses files selection around (wrongSelection fault)
  /-- There is no plan for the request. -/
  | unplanned {entries : List (String × Toml.Value)} {layer : Layer} {tag : RunTag}
      {fault : SettingError} (holds : SettingsFile.Holds files selection.config entries)
      (taken : SettingsFile.layerOf? entries = some layer)
      (wrong : Plan.build around.directory (Settings.merged selection around.environment layer)
        (selection.request (Settings.merged selection around.environment layer) tag) =
          .error fault) :
    Refuses files selection around (wrongSelection fault)

theorem layered_eq_error_iff (selection : Selection) (loaded : Settings) (fault : SettingError) :
    layered selection loaded = .error fault ↔
      (Settings.overlay selection.layer loaded).check = .error fault := by
  show ((Settings.overlay selection.layer loaded).check.bind fun _ =>
    .ok (Settings.overlay selection.layer loaded)) = .error fault ↔ _
  cases (Settings.overlay selection.layer loaded).check with
  | error other => exact ⟨fun same => by cases same; rfl, fun same => by cases same; rfl⟩
  | ok value => exact iff_of_false nofun nofun

section

variable {σ : Type} {host : Host σ} {world : World σ} {selection : Selection}
  {around : Surroundings} {abort : Abort}

/-- Only a tag that was given can be wrong. -/
theorem untagged_of_tagOf {given : Option String}
    (failed : ((tagOf given).runIn host world).1 = .failed abort) :
    ∃ text fault, given = some text ∧ RunTag.read text = .error fault ∧
      abort = wrongSelection fault := by
  cases given with
  | none => cases failed
  | some text =>
    simp only [tagOf, Action.runIn_mapError, Action.runIn_ofExcept, Fate.mapError_eq_failed_iff,
      Fate.ofExcept_eq_failed_iff] at failed
    obtain ⟨fault, wrong, rfl⟩ := failed
    exact ⟨text, fault, rfl, wrong, rfl⟩

/-- **There is no other way for a preparation to fail.** -/
theorem refuses_of_failed
    (failed : ((prepare selection around).runIn host world).1 = .failed abort) :
    Refuses world.files selection around abort := by
  simp only [prepare, Action.runIn_bind_eq_failed_iff, Action.runIn_mapError,
    Fate.mapError_eq_failed_iff, Fate.mapError_eq_done_iff, Settings.runIn_load_eq_done_iff,
    Action.runIn_ofExcept, Fate.ofExcept_eq_failed_iff, Fate.ofExcept_eq_done_iff,
    layered_eq_ok_iff, layered_eq_error_iff, Action.runIn_pure, reduceCtorEq, and_false,
    exists_false, or_false] at failed
  obtain ⟨error, unloaded, rfl⟩ | ⟨_, ⟨entries, layer, holds, taken, -, rfl, -⟩, later⟩ := failed
  · exact .unloaded (Settings.unloads_of_load unloaded)
  · obtain ⟨fault, wrong, rfl⟩ | ⟨_, ⟨rfl, -⟩, untagged | ⟨tag, -, fault, wrong, rfl⟩⟩ := later
    · exact .unacceptable holds taken wrong
    · obtain ⟨text, fault, given, wrong, rfl⟩ := untagged_of_tagOf untagged
      exact .untagged holds given wrong
    · exact .unplanned holds taken wrong

/-- **The exit code of a refusal** is that of a wrong setting, unless the settings file could not be
read. -/
theorem Refuses.exitCode {files : FileSystem} (refuses : Refuses files selection around abort) :
    (abort.exitCode = 1 ↔ Settings.IsUnread files selection.config) ∧
      (abort.exitCode = 2 ↔ ¬ Settings.IsUnread files selection.config) := by
  cases refuses with
  | @unloaded error unloads =>
    rw [← unloads.system_iff]
    cases error <;> simp [Abort.ofTrialError, Abort.exitCode]
  | unacceptable holds taken wrong | untagged holds given wrong | unplanned holds taken wrong =>
    have known := Settings.not_isUnread_of_holds holds
    exact ⟨iff_of_false (show ¬ 2 = 1 by decide) known, iff_of_true rfl known⟩

end

end Preparation

/-! ### The run -/

namespace Application

open Preparation (prepare Refuses)

/-- **A run whose preparation fails** asks nothing of the service and starts no process. Its exit code
is 2, that of wrong settings, unless there is a settings file that the system does not let it read;
then it is 1. -/
theorem run_of_refused (launch : Launch → FileSystem → Except String Finish × FileSystem)
    (tag : Nat → RunTag) (setup : Setup) {arguments : List String} {selection : Selection}
    (selected : CommandLine.select arguments = .ok selection) (around : Surroundings)
    (world : World Cloud.Script) :
    let host := Cloud.overCloud launch tag
    let run := runWith setup arguments around
    (∀ prepared, ((prepare selection around).runIn host world).1 ≠ .done prepared) →
    ∃ abort, ((prepare selection around).runIn host world).1 = .failed abort ∧
      Refuses world.files selection around abort ∧
      (run.runIn host world).1 = .done abort.exitCode ∧
      (abort.exitCode = 2 ↔ ¬ Settings.IsUnread world.files selection.config) ∧
      (abort.exitCode = 1 ↔ Settings.IsUnread world.files selection.config) ∧
      (∀ moment ∈ run.historyIn host world, moment.effect.IsLocal) ∧
      Cloud.exchangesOf (run.historyIn host world) = [] := by
  intro host run refused
  obtain ⟨outcome, came⟩ := (Preparation.steady_prepare selection around).runIn host world
  cases outcome with
  | ok prepared => exact absurd came (refused prepared)
  | error abort =>
    have refuses := Preparation.refuses_of_failed came
    obtain ⟨one, two⟩ := refuses.exitCode
    obtain ⟨ends, within⟩ : (run.runIn host world).1 = .done abort.exitCode ∧
        ∀ moment ∈ run.historyIn host world, moment.effect.IsLocal :=
      runWith_of_aborted selected came
    exact ⟨abort, came, refuses, ends, two, one, within, Cloud.exchangesOf_of_local within⟩

/-- The selection of a settings file and of the plain scenario. -/
def selectionWith (config : String) : Selection :=
  { Preparation.plainSelection with config := some ⟨config⟩ }

/-- A settings file that is not there is a wrong setting. -/
theorem run_of_missing_settings :
    let run := runWith .free ["--config", "/none.toml", "jobs", "--mqtt-version", "5"]
      ⟨[], .rootDirectory⟩
    (run.runIn willingHost endpointWorld).1 = .done 2 ∧
      Cloud.exchangesOf (run.historyIn willingHost endpointWorld) = [] := by
  intro run
  have selected : CommandLine.select ["--config", "/none.toml", "jobs", "--mqtt-version", "5"] =
      .ok (selectionWith "/none.toml") := by decide +kernel
  have absent : endpointWorld.files.readText ⟨"/none.toml"⟩ = .error .notFound := by decide +kernel
  have refused : ((prepare (selectionWith "/none.toml") ⟨[], .rootDirectory⟩).runIn willingHost
      endpointWorld).1.isDone = false := by decide +kernel
  obtain ⟨abort, -, -, ends, two, -, -, nothing⟩ := run_of_refused
    (fun _ files => (.ok ⟨.empty, .empty, [], .exited 0⟩, files)) (fun _ => ⟨"a", isTag_a⟩) .free
    selected ⟨[], .rootDirectory⟩ endpointWorld fun prepared accepted => by
      rw [willingHost, accepted] at refused
      cases refused
  have there : ¬ Settings.IsUnread endpointWorld.files (some ⟨"/none.toml"⟩) := by
    rintro ⟨path, fault, same, broken, other⟩
    cases same
    cases absent.symm.trans broken
    exact other rfl
  exact ⟨ends.trans (congrArg Fate.done (two.mpr there)), nothing⟩

/-- **A directory in the place of the settings file** makes a preparation fail, and the exit code is not
that of wrong settings. -/
theorem run_of_settings_directory :
    ∃ selection, CommandLine.select ["--config", "/", "jobs", "--mqtt-version", "5"] =
        .ok selection ∧
      (∀ prepared, ((prepare selection ⟨[], .rootDirectory⟩).runIn willingHost endpointWorld).1 ≠
        .done prepared) ∧
      ((runWith .free ["--config", "/", "jobs", "--mqtt-version", "5"]
        ⟨[], .rootDirectory⟩).runIn willingHost endpointWorld).1 = .done 1 := by
  have refused : ((prepare (selectionWith "/") ⟨[], .rootDirectory⟩).runIn willingHost
      endpointWorld).1.isDone = false := by decide +kernel
  refine ⟨selectionWith "/", by decide +kernel, fun prepared accepted => ?_, by decide +kernel⟩
  rw [accepted] at refused
  cases refused

end Application

end DeviceTrial
