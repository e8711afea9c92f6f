/-
**When settings are acceptable.**

The checks are made in a fixed order and the first that fails names its field.

* `firstFailure_eq_ok_iff` — settings are acceptable when every check holds;
* `Settings.paths_differ_of_check` — acceptable settings keep certificate and key apart.
-/

import DeviceTrial.Error.Setting
import DeviceTrial.Settings.Basic
import DeviceTrial.Text.Blank

namespace DeviceTrial

/-- A condition on a field, and what is said when it does not hold. -/
structure FieldCheck where
  /-- The field. -/
  field : Field
  /-- Whether the condition holds. -/
  holds : Bool
  /-- What is said when it does not. -/
  complaint : String

/-- Fails on the first condition that does not hold. -/
def firstFailure : List FieldCheck → Except SettingError Unit
  | [] => .ok ()
  | condition :: rest =>
    if condition.holds then firstFailure rest
    else .error (.invalidValue condition.field.dotted condition.complaint)

theorem firstFailure_eq_ok_iff (conditions : List FieldCheck) :
    firstFailure conditions = .ok () ↔ ∀ condition ∈ conditions, condition.holds = true := by
  induction conditions with
  | nil => simp [firstFailure]
  | cons condition rest step =>
    by_cases good : condition.holds = true <;> simp [firstFailure, good, step]

namespace Settings

/-- The names of the log levels. -/
def logLevels : List String := ["trace", "debug", "info", "warn", "error"]

/-- The names of the log formats. -/
def logFormats : List String := ["json", "pretty"]

/-- The most seconds that a driven process may have. -/
def longestTimeout : Nat := 7200

/-- The most seconds that the cleanup may have. -/
def longestCleanup : Nat := 600

/-- The most lines of output that may be kept. -/
def mostTailLines : Nat := 10000

/-- That a field must have one of some texts. -/
def oneOf (field : Field) (value : String) (allowed : List String) : FieldCheck :=
  ⟨field, allowed.contains value, "must be one of: " ++ ", ".intercalate allowed⟩

/-- That a field must have a number between two others. -/
def between (field : Field) (value least most : Nat) : FieldCheck :=
  ⟨field, least ≤ value && value ≤ most, s!"must be {least}-{most}"⟩

/-- That a field must not be empty. -/
def filled (field : Field) (isEmpty : Bool) : FieldCheck := ⟨field, !isEmpty, "must not be empty"⟩

/-- That certificate and key have paths, and different ones. -/
def credentialChecks (certificate key : Field) (certificatePath keyPath : Path) :
    List FieldCheck :=
  [filled certificate certificatePath.isEmpty, filled key keyPath.isEmpty,
   ⟨key, !certificatePath.sameAs keyPath, "must differ from certificate_path"⟩]

/-- The checks of all sections, in order. -/
def checks (settings : Settings) : List FieldCheck :=
  [oneOf .logLevel (settings.get .logLevel) logLevels,
   oneOf .logFormat (settings.get .logFormat) logFormats,
   filled .region (Text.isAllBlank (settings.get .region)),
   between .timeout (settings.get .timeout) 1 longestTimeout,
   between .cleanupTimeout (settings.get .cleanupTimeout) 1 longestCleanup,
   between .tailLines (settings.get .tailLines) 0 mostTailLines,
   filled .jobsPolicySecret (settings.get .jobsPolicySecret).isEmpty,
   filled .jobSecret (settings.get .jobSecret).isEmpty] ++
  credentialChecks .jobsCertificate .jobsKey (settings.get .jobsCertificate)
    (settings.get .jobsKey) ++
  [filled .shadowPolicySecret (settings.get .shadowPolicySecret).isEmpty,
   filled .shadowProperty (settings.get .shadowProperty).isEmpty,
   filled .shadowName (settings.get .shadowName).isEmpty] ++
  credentialChecks .shadowCertificate .shadowKey (settings.get .shadowCertificate)
    (settings.get .shadowKey) ++
  [⟨.metricsOutput,
    !(settings.get .metricsEnabled && (settings.get .metricsOutput).isEmpty),
    "must not be empty when metrics are enabled"⟩]

/-- Fails unless the settings are acceptable. -/
def check (settings : Settings) : Except SettingError Unit := firstFailure settings.checks

/-- Acceptable settings keep certificate and key apart. -/
theorem paths_differ_of_check {settings : Settings} (good : settings.check = .ok ()) :
    (settings.get .jobsCertificate).sameAs (settings.get .jobsKey) = false ∧
      (settings.get .shadowCertificate).sameAs (settings.get .shadowKey) = false := by
  have all := (firstFailure_eq_ok_iff settings.checks).mp good
  have jobs := all ⟨.jobsKey, !(settings.get .jobsCertificate).sameAs (settings.get .jobsKey),
    "must differ from certificate_path"⟩ (by simp [checks, credentialChecks])
  have shadow := all ⟨.shadowKey,
    !(settings.get .shadowCertificate).sameAs (settings.get .shadowKey),
    "must differ from certificate_path"⟩ (by simp [checks, credentialChecks])
  exact ⟨by simpa using jobs, by simpa using shadow⟩

end Settings

end DeviceTrial
