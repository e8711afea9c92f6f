/-
**Loading settings.**

The built-in settings are overlaid by the file and then by the environment. The file is checked by
itself before the environment is looked at, and the whole is checked once more.

* `parse` — the settings of a text;
* `load` — the settings of a file, if one is given, and the environment.
-/

import DeviceTrial.Error.Trial
import DeviceTrial.Settings.Check
import DeviceTrial.Settings.Environment
import DeviceTrial.Settings.File

namespace DeviceTrial

namespace Settings

/-- The settings of a text; they need not be acceptable. -/
def parse (text : String) : Except SettingError Settings :=
  match SettingsFile.read? text with
  | some settings => .ok settings
  | none => .error (.unreadable "not a settings document")

/-- The acceptable settings of the file at a path. -/
def fromFile (path : Path) : Action TrialError Settings := do
  match ← Action.file (.read path) with
  | .error .notFound => Action.fail (.settings (.fileNotFound path.text))
  | .error fault => Action.fail (.system fault.message)
  | .ok text =>
    let settings ← (Action.ofExcept (parse text)).mapError .settings
    (Action.ofExcept settings.check).mapError .settings
    return settings

/-- The settings below the environment: those of the file, or the built-in ones. -/
def base : Option Path → Action TrialError Settings
  | some path => fromFile path
  | none => return .default

/-- The acceptable settings of a file, if one is given, and the environment. -/
def load (path : Option Path) (environment : Variables) : Action TrialError Settings := do
  let settings ← Environment.apply environment (← base path)
  (Action.ofExcept settings.check).mapError .settings
  return settings

end Settings

end DeviceTrial
