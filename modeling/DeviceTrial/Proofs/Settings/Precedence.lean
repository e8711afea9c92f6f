/-
**Which settings a preparation accepts, and which it comes to.**

A preparation lays the environment over the file and the command line over both, and it looks at the
settings after each layer. It comes to its end when all that it sees on the way is acceptable and the
request makes a plan; then every field has the value of the strongest source that gives one.

* `runIn_prepare_eq_done_iff` — **when a preparation ends with a plan**, and with which;
* `prepare_takes_strongest` — the value of each field is the one of its strongest source, and no two
  fields have a source in common;
* `prepare_accepts_iff` — a preparation accepts what is acceptable layer by layer;
* `prepare_refuses_overridden` — what a stronger source replaces is still looked at.
-/

import DeviceTrial.Preparation
import DeviceTrial.Proofs.Run.Confinement
import DeviceTrial.Proofs.Run.Ending
import DeviceTrial.Proofs.Settings.Sources

namespace DeviceTrial

/-! ### The document of the settings file -/

/-- What stands in the settings file: nothing if there is no such file. -/
inductive SettingsFile.Holds (files : FileSystem) :
    Option Path → List (String × Toml.Value) → Prop where
  | absent : Holds files none []
  | present {path : Path} {text : String} {entries : List (String × Toml.Value)}
      (readable : files.readText path = .ok text) (read : Toml.read? text = some entries) :
    Holds files (some path) entries

namespace SettingsFile.Holds

variable {files : FileSystem} {config : Option Path} {entries others : List (String × Toml.Value)}

theorem tidy (holds : Holds files config entries) : Toml.IsTidy entries := by
  cases holds with
  | absent => exact Toml.isTidy_nil
  | present _ read => exact Toml.isTidy_of_read read

/-- There is one document in the file. -/
theorem unique (holds : Holds files config entries) (also' : Holds files config others) :
    entries = others := by
  cases holds with
  | absent =>
    cases also'
    rfl
  | present readable read =>
    cases also' with
    | present second again =>
      cases readable.symm.trans second
      exact Option.some.inj (read.symm.trans again)

end SettingsFile.Holds

/-! ### The layers -/

namespace Settings

/-- The built-in settings are acceptable. -/
theorem check_default : Settings.default.check = .ok () := by decide +kernel

/-- The settings of a file. -/
def ofFile (layer : Layer) : Settings := overlay layer .default

/-- The settings of a file with the environment above them. -/
def ofSurroundings (environment : Variables) (layer : Layer) : Settings :=
  overlay (Environment.layer environment) (ofFile layer)

/-- The settings of a file with the environment above them and the command line above both. -/
def merged (selection : CommandLine.Selection) (environment : Variables) (layer : Layer) :
    Settings :=
  overlay selection.layer (ofSurroundings environment layer)

/-- **The value of a field**: of the command line if that gives one, of its variable if that has a
value of its kind, of its place in the file, and else the built-in one. -/
def strongest (selection : CommandLine.Selection) (environment : Variables)
    (entries : List (String × Toml.Value)) (field : Field) : field.Value :=
  (((selection.layer.get? field).or
    ((Environment.lookUp? environment field.variableName).bind
      (Environment.readValue? field.kind))).or
    (SettingsFile.given? entries field)).getD (defaultValue field)

theorem get_merged (selection : CommandLine.Selection) (environment : Variables)
    {entries : List (String × Toml.Value)} {layer : Layer} (tidy : Toml.IsTidy entries)
    (taken : SettingsFile.layerOf? entries = some layer) (field : Field) :
    (merged selection environment layer).get field =
      strongest selection environment entries field := by
  have below : layer.get? field = SettingsFile.given? entries field :=
    SettingsFile.get?_layerOf tidy taken field
  have middle : (Environment.layer environment).get? field =
      (Environment.lookUp? environment field.variableName).bind
        (Environment.readValue? field.kind) := rfl
  simp only [merged, ofSurroundings, ofFile, strongest, get_overlay, below, middle]
  cases selection.layer.get? field with
  | some value => rfl
  | none =>
    cases (Environment.lookUp? environment field.variableName).bind
      (Environment.readValue? field.kind) <;> rfl

end Settings

/-! ### Looking -/

/-- That an effect reads a file or logs, or draws a tag if that is allowed. -/
def Effect.IsLook (drawing : Bool) : Effect → Prop
  | .file (.read _) | .log _ => True
  | .drawTag => drawing = true
  | _ => False

/-- Looking draws no tag where that is not allowed. -/
theorem Effect.IsLook.drawn {σ : Type} (host : Host σ) (effect : Effect) (world : World σ)
    (look : effect.IsLook false) : (host.handle effect world).2.drawn = world.drawn := by
  cases effect with
  | file request =>
    cases request with
    | read path => rfl
    | _ => cases look
  | log event => rfl
  | _ => cases look

/-! ### Loading -/

namespace Settings

theorem parse_eq_ok_iff (text : String) (settings : Settings) :
    parse text = .ok settings ↔ ∃ entries layer, Toml.read? text = some entries ∧
      SettingsFile.layerOf? entries = some layer ∧ settings = ofFile layer := by
  unfold parse SettingsFile.read?
  cases read : Toml.read? text with
  | none => simp
  | some entries =>
    cases taken : SettingsFile.layerOf? entries with
    | none => simp [taken]
    | some layer => simp [taken, ofFile, eq_comm]

variable {σ : Type} (host : Host σ) (world : World σ)

/-- What loading from a file comes to. -/
theorem runIn_fromFile_eq_done_iff (path : Path) (settings : Settings) :
    ((fromFile path).runIn host world).1 = .done settings ↔
      ∃ text, world.files.readText path = .ok text ∧ parse text = .ok settings ∧
        settings.check = .ok () := by
  have answered : host.handle (.file (.read path)) world =
    (world.files.readText path, world) := rfl
  unfold fromFile Action.file
  rw [Action.runIn_ask_bind, answered]
  cases content : world.files.readText path with
  | error fault =>
    simp only [reduceCtorEq, false_and, exists_false, iff_false]
    cases fault <;> nofun
  | ok text =>
    simp only [Action.runIn_ofExcept_bind_eq_done_iff, Action.runIn_pure, Fate.done.injEq,
      Except.ok.injEq]
    constructor
    · rintro ⟨known, parsed, _, good, rfl⟩
      exact ⟨text, rfl, parsed, good⟩
    · rintro ⟨_, rfl, parsed, good⟩
      exact ⟨settings, parsed, (), good, rfl⟩

/-- **The settings below the environment** are those of the file, when they are acceptable. -/
theorem runIn_base_eq_done_iff (config : Option Path) (settings : Settings) :
    ((base config).runIn host world).1 = .done settings ↔
      ∃ entries layer, SettingsFile.Holds world.files config entries ∧
        SettingsFile.layerOf? entries = some layer ∧ settings = ofFile layer ∧
        settings.check = .ok () := by
  cases config with
  | none =>
    constructor
    · intro ends
      cases ends
      exact ⟨[], .empty, .absent, rfl, rfl, check_default⟩
    · rintro ⟨_, _, holds, taken, rfl, -⟩
      cases holds
      cases taken
      rfl
  | some path =>
    refine (runIn_fromFile_eq_done_iff host world path settings).trans ?_
    constructor
    · rintro ⟨text, readable, parsed, good⟩
      obtain ⟨entries, layer, read, taken, same⟩ := (parse_eq_ok_iff text settings).mp parsed
      exact ⟨entries, layer, .present readable read, taken, same, good⟩
    · rintro ⟨entries, layer, holds, taken, same, good⟩
      cases holds with
      | present readable read =>
        exact ⟨_, readable, (parse_eq_ok_iff _ _).mpr ⟨entries, layer, read, taken, same⟩, good⟩

end Settings

/-- Warning of variables only logs. -/
theorem Environment.silent_warnings {ε : Type} (environment : Variables) (fields : List Field) :
    (warnings environment fields : Action ε Unit).Silent false () := by
  induction fields with
  | nil => exact .of_pure ()
  | cons field rest step =>
    unfold warnings
    split
    · exact step
    · split
      · exact .bind (.of_log _ _ _ _) step
      · exact step

namespace Settings

/-- Laying the environment over settings only logs. -/
theorem silent_apply {ε : Type} (environment : Variables) (settings : Settings) :
    (Environment.apply environment settings : Action ε Settings).Silent false
      (overlay (Environment.layer environment) settings) :=
  .bind (Environment.silent_warnings environment Field.all) (.of_pure _)

variable {σ : Type} (host : Host σ) (world : World σ)

/-- **What loading comes to**: the settings of the file are acceptable, and those with the environment
above them as well. -/
theorem runIn_load_eq_done_iff (config : Option Path) (environment : Variables)
    (settings : Settings) :
    ((load config environment).runIn host world).1 = .done settings ↔
      ∃ entries layer, SettingsFile.Holds world.files config entries ∧
        SettingsFile.layerOf? entries = some layer ∧ (ofFile layer).check = .ok () ∧
        settings = ofSurroundings environment layer ∧ settings.check = .ok () := by
  simp only [load, Action.runIn_bind_eq_done_iff, runIn_base_eq_done_iff,
    (silent_apply environment _).runIn, Fate.done.injEq, Action.runIn_mapError,
    Action.runIn_ofExcept, Fate.mapError_eq_done_iff, Fate.ofExcept_eq_done_iff, Action.runIn_pure]
  constructor
  · rintro ⟨below, ⟨entries, layer, holds, taken, rfl, good⟩, middle, rfl, _, checked, rfl⟩
    exact ⟨entries, layer, holds, taken, good, rfl, checked⟩
  · rintro ⟨entries, layer, holds, taken, good, rfl, checked⟩
    exact ⟨_, ⟨entries, layer, holds, taken, rfl, good⟩, _, rfl, (), checked, rfl⟩

/-- Warning of variables only looks, and comes back. -/
theorem steady_warnings {ε : Type} (drawing : Bool) (environment : Variables)
    (fields : List Field) :
    (Environment.warnings environment fields : Action ε Unit).Steady (Effect.IsLook drawing) := by
  induction fields with
  | nil => exact .of_pure ()
  | cons field rest step =>
    unfold Environment.warnings
    split
    · exact step
    · split
      · exact .bind (.of_ask trivial) fun _ => step
      · exact step

/-- So does reading the file. -/
theorem steady_base (drawing : Bool) (config : Option Path) :
    (base config).Steady (Effect.IsLook drawing) := by
  cases config with
  | none => exact .of_pure _
  | some path =>
    refine .bind (.of_ask trivial) fun content => ?_
    cases content with
    | error fault => cases fault <;> exact .of_fail _
    | ok text =>
      exact .bind (.mapError (.of_ofExcept _) _) fun _ =>
        .bind (.mapError (.of_ofExcept _) _) fun _ => .of_pure _

/-- **Loading only looks**, and comes back. -/
theorem steady_load (drawing : Bool) (config : Option Path) (environment : Variables) :
    (load config environment).Steady (Effect.IsLook drawing) := by
  refine .bind (steady_base drawing config) fun settings => ?_
  refine .bind (.bind (steady_warnings drawing _ _) fun _ => .of_pure _) fun whole => ?_
  exact .bind (.mapError (.of_ofExcept _) _) fun _ => .of_pure _

end Settings

/-! ### What the sources of the fields are -/

/-- What the options of a selection give to fields: each gives its own, the file for the metrics also
turns them on, and all other fields get nothing. -/
structure CommandLine.Selection.Gives (selection : CommandLine.Selection) (layer : Layer) :
    Prop where
  logLevel : layer.get? .logLevel = selection.logLevel
  logFormat : layer.get? .logFormat = selection.logFormat
  region : layer.get? .region = selection.region
  metricsEnabled : layer.get? .metricsEnabled = selection.metricsFile.map fun _ => true
  metricsOutput : layer.get? .metricsOutput = selection.metricsFile
  others : ∀ field, field ∉ [.logLevel, .logFormat, .region, .metricsEnabled, .metricsOutput] →
    layer.get? field = none

theorem CommandLine.Selection.gives_layer (selection : CommandLine.Selection) :
    selection.Gives selection.layer where
  logLevel := rfl
  logFormat := rfl
  region := rfl
  metricsEnabled := rfl
  metricsOutput := rfl
  others field other := by
    cases field <;> first | rfl | exact absurd (by decide) other

/-- That two fields have neither a variable nor a place in the file in common. -/
structure Field.Apart (left right : Field) : Prop where
  /-- Their variables have different names. -/
  names : left.variableName ≠ right.variableName
  /-- In a table they have different keys. -/
  keys : left.home.name = right.home.name → left.key ≠ right.key
  /-- In an array they stand at different positions. -/
  positions : left.home.name = right.home.name →
    (Field.ofSection left.home).idxOf left ≠ (Field.ofSection right.home).idxOf right

/-- **No two fields have a source in common.** -/
theorem Field.apart_of_ne {left right : Field} (different : left ≠ right) : left.Apart right where
  names same := different (variableName_injective same)
  keys home key := different (place_injective (Prod.ext (Section.name_injective home) key))
  positions home same := by
    have part := Section.name_injective home
    rw [← part] at same
    exact different ((List.idxOf_inj ((left.mem_ofSection_iff _).mpr rfl)).mp same)

theorem Plan.region_of_build {seenFrom : Path} {settings : Settings} {request : TrialRequest}
    {plan : Plan} (built : build seenFrom settings request = .ok plan) :
    plan.region = request.region := by
  obtain ⟨_, _, _, -, -, -, rfl⟩ := exists_of_build built
  rfl

/-! ### Preparing -/

namespace Preparation

open CommandLine (Selection)

variable {σ : Type} (host : Host σ) (world : World σ)

/-- The tag of the run, when a drawn one is at hand. -/
def tag? (given : Option String) (drawn : RunTag) : Except SettingError RunTag :=
  match given with
  | some text => RunTag.read text
  | none => .ok drawn

theorem runIn_tagOf_eq_done_iff (given : Option String) (tag : RunTag) :
    ((tagOf given).runIn host world).1 = .done tag ↔
      tag? given (host.tag world.drawn) = .ok tag := by
  cases given with
  | none =>
    show (Fate.done (host.tag world.drawn) : Fate Abort RunTag) = .done tag ↔ _
    simp [tag?]
  | some text =>
    simp only [tagOf, tag?, Action.runIn_mapError, Action.runIn_ofExcept,
      Fate.mapError_eq_done_iff, Fate.ofExcept_eq_done_iff]

theorem layered_eq_ok_iff (selection : Selection) (loaded settings : Settings) :
    layered selection loaded = .ok settings ↔
      settings = Settings.overlay selection.layer loaded ∧ settings.check = .ok () := by
  show ((Settings.overlay selection.layer loaded).check.bind fun _ =>
    .ok (Settings.overlay selection.layer loaded)) = .ok settings ↔ _
  cases outcome : (Settings.overlay selection.layer loaded).check with
  | error fault =>
    refine ⟨nofun, ?_⟩
    rintro ⟨rfl, good⟩
    cases outcome.symm.trans good
  | ok value =>
    constructor
    · intro same
      cases same
      exact ⟨rfl, outcome⟩
    · rintro ⟨rfl, -⟩
      rfl

/-- **When a preparation ends with a plan, and with which**: what it sees layer by layer is
acceptable, and the request makes the plan. -/
theorem runIn_prepare_eq_done_iff (selection : Selection) (around : Surroundings)
    (prepared : Prepared) :
    ((prepare selection around).runIn host world).1 = .done prepared ↔
      ∃ entries layer tag, SettingsFile.Holds world.files selection.config entries ∧
        SettingsFile.layerOf? entries = some layer ∧
        (Settings.ofFile layer).check = .ok () ∧
        (Settings.ofSurroundings around.environment layer).check = .ok () ∧
        prepared.settings.check = .ok () ∧
        tag? selection.tag (host.tag world.drawn) = .ok tag ∧
        prepared.settings = Settings.merged selection around.environment layer ∧
        Plan.build around.directory prepared.settings
          (selection.request prepared.settings tag) = .ok prepared.plan := by
  -- The tag is drawn after the settings were loaded, and loading draws none.
  have drawn : ((Settings.load selection.config around.environment).runIn host world).2.drawn =
      world.drawn :=
    (Settings.steady_load false selection.config around.environment).within.runIn World.drawn
      (fun effect world look => look.drawn host effect world) world
  have drawing : ∀ {given tag} {later : World σ}, later.drawn = world.drawn →
      (((tagOf given).runIn host later).1 = .done tag ↔
        tag? given (host.tag world.drawn) = .ok tag) := by
    intro given tag later same
    rw [runIn_tagOf_eq_done_iff, same]
  simp only [prepare, Action.runIn_bind_eq_done_iff, Action.runIn_mapError,
    Fate.mapError_eq_done_iff, Settings.runIn_load_eq_done_iff, Action.runIn_ofExcept,
    Fate.ofExcept_eq_done_iff, layered_eq_ok_iff, drawing drawn, Action.runIn_pure,
    Fate.done.injEq]
  constructor
  · rintro ⟨_, ⟨entries, layer, holds, taken, file, rfl, loaded⟩, settings, ⟨rfl, good⟩, tag, tagged,
      plan, built, rfl⟩
    exact ⟨entries, layer, tag, holds, taken, file, loaded, good, tagged, rfl, built⟩
  · rintro ⟨entries, layer, tag, holds, taken, file, loaded, good, tagged, same, built⟩
    refine ⟨_, ⟨entries, layer, holds, taken, file, rfl, loaded⟩, prepared.settings, ⟨same, good⟩,
      tag, tagged, prepared.plan, built, rfl⟩

/-- A preparation only looks and perhaps draws a tag, and it comes back. -/
theorem steady_prepare (selection : Selection) (around : Surroundings) :
    (prepare selection around).Steady (Effect.IsLook true) := by
  have tagged : ∀ given, (tagOf given).Steady (Effect.IsLook true) := by
    intro given
    cases given with
    | none => exact .of_ask rfl
    | some text => exact .mapError (.of_ofExcept _) _
  refine .bind (.mapError (Settings.steady_load true _ _) _) fun loaded => ?_
  refine .bind (.mapError (.of_ofExcept _) _) fun settings => .bind (tagged _) fun tag => ?_
  exact .bind (.mapError (.of_ofExcept _) _) fun plan => .of_pure _

/-! ### Precedence -/

/-- **The value of each field is the one of its strongest source**, no two fields have a source in
common, the settings are acceptable, and the plan is made of them and of the request. -/
theorem prepare_takes_strongest (selection : Selection) (around : Surroundings)
    {prepared : Prepared}
    (accepted : ((prepare selection around).runIn host world).1 = .done prepared) :
    (∃ entries, SettingsFile.Holds world.files selection.config entries ∧
      ∀ field, prepared.settings.get field =
        Settings.strongest selection around.environment entries field) ∧
    selection.Gives selection.layer ∧ (∀ left right : Field, left ≠ right → left.Apart right) ∧
    prepared.settings.check = .ok () ∧
    ∃ tag, tag? selection.tag (host.tag world.drawn) = .ok tag ∧
      Plan.build around.directory prepared.settings (selection.request prepared.settings tag) =
        .ok prepared.plan ∧
      prepared.plan.region = prepared.settings.get .region ∧
      prepared.plan.identity =
        Plan.nameStart prepared.settings (selection.request prepared.settings tag) ++ tag.text := by
  obtain ⟨entries, layer, tag, holds, taken, -, -, good, tagged, same, built⟩ :=
    (runIn_prepare_eq_done_iff host world selection around prepared).mp accepted
  refine ⟨⟨entries, holds, fun field => ?_⟩, selection.gives_layer, fun _ _ => Field.apart_of_ne,
    good, tag, tagged, built, ?_, Plan.identity_of_build built⟩
  · rw [same]
    exact Settings.get_merged selection around.environment holds.tidy taken field
  · exact Plan.region_of_build built

/-- A host that is asked for nothing but a tag. -/
def tagHost : Host Unit :=
  ⟨⟨fun _ state => (.hang, state)⟩, fun _ state => (.hang, state),
    fun _ files => (.error "", files), fun _ => ⟨"a", isTag_a⟩⟩

/-- A world with a settings file. -/
def settingsWorld (text : String) : World Unit :=
  .start () ⟨Table.empty.insert ["devicetest.toml"] (.file text.toUTF8 false)⟩

/-- The scenario of the jobs family, with nothing else chosen. -/
def plainSelection : Selection :=
  { config := none, logLevel := none, logFormat := none, metricsFile := none, family := .jobs,
    variant := .standard, protocol := .five, tag := none, region := none, descriptor := none,
    nameStart := none }

/-- A flag wins over everything, and a variable over the file unless it cannot be read. -/
theorem prepare_takes_strongest_timeout :
    let selection := { plainSelection with
      config := some ⟨"/devicetest.toml"⟩, region := some "eu-west-1" }
    let around : Surroundings := ⟨[("DEVICETEST_GENERAL_REGION", "us-west-2"),
      ("DEVICETEST_DRIVER_TIMEOUT_SECS", "900"),
      ("DEVICETEST_DRIVER_CLEANUP_TIMEOUT_SECS", "soon")], .rootDirectory⟩
    let text := "[driver]\ntimeout_secs = 300\ncleanup_timeout_secs = 60\n"
    ∃ prepared, ((prepare selection around).runIn tagHost (settingsWorld text)).1 =
        .done prepared ∧
      prepared.settings.get .region = "eu-west-1" ∧ prepared.settings.get .timeout = 900 ∧
      prepared.settings.get .cleanupTimeout = 60 := by
  intro selection around text
  have done : ((prepare selection around).runIn tagHost (settingsWorld text)).1.isDone = true := by
    decide +kernel
  obtain ⟨prepared, accepted⟩ := (Fate.isDone_iff _).mp done
  obtain ⟨⟨entries, holds, fields⟩, -⟩ :=
    prepare_takes_strongest tagHost (settingsWorld text) selection around accepted
  cases holds with
  | @present path content _ readable read =>
    have written : (settingsWorld text).files.readText ⟨"/devicetest.toml"⟩ = .ok text := by
      decide +kernel
    obtain rfl : text = content := Except.ok.inj (written.symm.trans readable)
    have decoded : (Toml.read? text).map (fun entries =>
        (Settings.strongest selection around.environment entries .region,
          Settings.strongest selection around.environment entries .timeout,
          Settings.strongest selection around.environment entries .cleanupTimeout)) =
        some ("eu-west-1", 900, 60) := by decide +kernel
    rw [read, Option.map_some, Option.some.injEq, Prod.mk.injEq, Prod.mk.injEq] at decoded
    exact ⟨prepared, accepted, (fields _).trans decoded.1, (fields _).trans decoded.2.1,
      (fields _).trans decoded.2.2⟩

/-! ### Acceptance -/

/-- **A preparation accepts what is acceptable layer by layer.** -/
theorem prepare_accepts_iff (selection : Selection) (around : Surroundings)
    {entries : List (String × Toml.Value)} {layer : Layer}
    (holds : SettingsFile.Holds world.files selection.config entries)
    (taken : SettingsFile.layerOf? entries = some layer) :
    let settings := Settings.merged selection around.environment layer
    (∃ prepared, ((prepare selection around).runIn host world).1 = .done prepared) ↔
      (Settings.ofFile layer).check = .ok () ∧
      (Settings.ofSurroundings around.environment layer).check = .ok () ∧
      settings.check = .ok () ∧
      ∃ tag plan, tag? selection.tag (host.tag world.drawn) = .ok tag ∧
        Plan.build around.directory settings (selection.request settings tag) = .ok plan := by
  intro settings
  simp only [runIn_prepare_eq_done_iff]
  constructor
  · rintro ⟨prepared, _, _, tag, found, read, file, loaded, good, tagged, same, built⟩
    cases holds.unique found
    cases taken.symm.trans read
    rw [same] at good built
    exact ⟨file, loaded, good, tag, prepared.plan, tagged, built⟩
  · rintro ⟨file, loaded, good, tag, plan, tagged, built⟩
    exact ⟨⟨settings, plan⟩, entries, layer, tag, holds, taken, file, loaded, good, tagged, rfl,
      built⟩

/-- A number in the file that is out of its range is refused, though a variable replaces it. -/
theorem prepare_refuses_replaced_timeout :
    let selection := { plainSelection with config := some ⟨"/devicetest.toml"⟩ }
    let around : Surroundings := ⟨[("DEVICETEST_DRIVER_TIMEOUT_SECS", "900")], .rootDirectory⟩
    let text := "[driver]\ntimeout_secs = 0\n"
    ∃ entries layer, SettingsFile.Holds (settingsWorld text).files selection.config entries ∧
      SettingsFile.layerOf? entries = some layer ∧
      (Settings.merged selection around.environment layer).check = .ok () ∧
      ¬ ∃ prepared, ((prepare selection around).runIn tagHost (settingsWorld text)).1 =
        .done prepared := by
  intro selection around text
  have checks : ((Toml.read? text).bind SettingsFile.layerOf?).map (fun layer =>
      ((Settings.ofFile layer).check, (Settings.merged selection around.environment layer).check)) =
      some (.error (.invalidValue "driver.timeout_secs" "must be 1-7200"), .ok ()) := by
    decide +kernel
  obtain ⟨layer, decoded, same⟩ := Option.map_eq_some_iff.mp checks
  obtain ⟨entries, read, taken⟩ := Option.bind_eq_some_iff.mp decoded
  rw [Prod.mk.injEq] at same
  have written : (settingsWorld text).files.readText ⟨"/devicetest.toml"⟩ = .ok text := by
    decide +kernel
  have holds : SettingsFile.Holds (settingsWorld text).files selection.config entries :=
    .present written read
  refine ⟨entries, layer, holds, taken, same.2, fun accepted => ?_⟩
  have good := ((prepare_accepts_iff tagHost (settingsWorld text) selection around holds taken).mp
    accepted).1
  cases same.1.symm.trans good

/-- **What a stronger source replaces is still looked at**: the variable has a level that does not
exist, and the command line another one. -/
theorem prepare_refuses_overridden :
    let selection := { plainSelection with logLevel := some "info", tag := some "r1" }
    let around : Surroundings := ⟨[("DEVICETEST_GENERAL_LOG_LEVEL", "loud")], .rootDirectory⟩
    let settings := Settings.merged selection around.environment .empty
    settings.check = .ok () ∧
      (∃ plan, Plan.build around.directory settings (selection.request settings ⟨"r1", by decide⟩) =
        .ok plan) ∧
      ∀ prepared, ((prepare selection around).runIn tagHost (settingsWorld "")).1 ≠
        .done prepared := by
  intro selection around settings
  have built : (Plan.build around.directory settings
      (selection.request settings ⟨"r1", by decide⟩)).isOk = true := by decide +kernel
  have refused : ((prepare selection around).runIn tagHost (settingsWorld "")).1.isDone = false := by
    decide +kernel
  refine ⟨by decide +kernel, ?_, fun prepared accepted => ?_⟩
  · cases outcome : Plan.build around.directory settings
        (selection.request settings ⟨"r1", by decide⟩) with
    | ok plan => exact ⟨plan, rfl⟩
    | error fault =>
      rw [outcome] at built
      cases built
  · rw [accepted] at refused
    cases refused

end Preparation

end DeviceTrial
