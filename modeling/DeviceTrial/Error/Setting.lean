/-
**Faults of settings.**

What can be wrong with a setting, whether it comes from a file, the environment, the command line or
a request, and the text that says so.
-/

namespace DeviceTrial

/-- What is wrong with the settings of a trial. -/
inductive SettingError where
  /-- There is no settings file at the path. -/
  | fileNotFound (path : String)
  /-- The settings file cannot be understood. -/
  | unreadable (reason : String)
  /-- A field has a value that it must not have. -/
  | invalidValue (field reason : String)
deriving DecidableEq, Repr

/-- The text of a fault of the settings. -/
def SettingError.message : SettingError → String
  | .fileNotFound path => s!"config file not found: {path}"
  | .unreadable reason => s!"failed to parse config: {reason}"
  | .invalidValue field reason => s!"invalid config value for '{field}': {reason}"

end DeviceTrial
