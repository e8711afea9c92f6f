/-
**The fields of the settings.**

Every setting is a `Field`: it stands in a section under a key, has values of one kind, and can be
given by an environment variable that is named after both.

* `mem_all` — the list of fields is complete;
* `variableName` — the variable of a field.
-/

import DeviceTrial.Path

namespace DeviceTrial

/-- The sections of the settings. -/
inductive Section where
  | general
  | driver
  | fleetProvisioning
  | jobs
  | shadow
  | metrics
deriving DecidableEq, Repr

/-- The name of a section. -/
def Section.name : Section → String
  | .general => "general"
  | .driver => "driver"
  | .fleetProvisioning => "fleet_provisioning"
  | .jobs => "jobs"
  | .shadow => "shadow"
  | .metrics => "metrics"

/-- The sections in order. -/
def Section.all : List Section :=
  [.general, .driver, .fleetProvisioning, .jobs, .shadow, .metrics]

/-- The kinds of values. -/
inductive FieldKind where
  /-- A text. -/
  | text
  /-- A path. -/
  | path
  /-- A whole number of 64 bits. -/
  | number
  /-- Yes or no. -/
  | flag
deriving DecidableEq, Repr

/-- The values of a kind. -/
@[reducible] def FieldKind.Value : FieldKind → Type
  | .text => String
  | .path => Path
  | .number => Nat
  | .flag => Bool

/-- The settings. -/
inductive Field where
  | logLevel
  | logFormat
  | region
  | scenarioDirectory
  | timeout
  | cleanupTimeout
  | tailLines
  | fleetNameStart
  | jobsNameStart
  | jobsPolicySecret
  | jobSecret
  | jobsGroup
  | jobsCertificate
  | jobsKey
  | shadowNameStart
  | shadowPolicySecret
  | shadowGroup
  | shadowName
  | shadowProperty
  | shadowExpected
  | shadowCertificate
  | shadowKey
  | metricsEnabled
  | metricsOutput
deriving DecidableEq, Repr

namespace Field

/-- The fields in the order of their sections and within them. -/
def all : List Field :=
  [logLevel, logFormat, region, scenarioDirectory, timeout, cleanupTimeout, tailLines,
   fleetNameStart, jobsNameStart, jobsPolicySecret, jobSecret, jobsGroup, jobsCertificate, jobsKey,
   shadowNameStart, shadowPolicySecret, shadowGroup, shadowName, shadowProperty, shadowExpected,
   shadowCertificate, shadowKey, metricsEnabled, metricsOutput]

theorem mem_all (field : Field) : field ∈ all := by cases field <;> decide

/-- The kind of a field's values. -/
@[reducible] def kind : Field → FieldKind
  | scenarioDirectory | jobsCertificate | jobsKey | shadowCertificate | shadowKey
  | metricsOutput => .path
  | timeout | cleanupTimeout | tailLines => .number
  | metricsEnabled => .flag
  | logLevel | logFormat | region | fleetNameStart | jobsNameStart | jobsPolicySecret | jobSecret
  | jobsGroup | shadowNameStart | shadowPolicySecret | shadowGroup | shadowName | shadowProperty
  | shadowExpected => .text

/-- The values of a field. -/
@[reducible] def Value (field : Field) : Type := field.kind.Value

/-- The section that a field stands in. -/
def home : Field → Section
  | logLevel | logFormat | region => .general
  | scenarioDirectory | timeout | cleanupTimeout | tailLines => .driver
  | fleetNameStart => .fleetProvisioning
  | jobsNameStart | jobsPolicySecret | jobSecret | jobsGroup | jobsCertificate | jobsKey => .jobs
  | shadowNameStart | shadowPolicySecret | shadowGroup | shadowName | shadowProperty
  | shadowExpected | shadowCertificate | shadowKey => .shadow
  | metricsEnabled | metricsOutput => .metrics

/-- The key of a field in its section. -/
def key : Field → String
  | logLevel => "log_level"
  | logFormat => "log_format"
  | region => "region"
  | scenarioDirectory => "scenario_dir"
  | timeout => "timeout_secs"
  | cleanupTimeout => "cleanup_timeout_secs"
  | tailLines => "output_tail_lines"
  | fleetNameStart | jobsNameStart | shadowNameStart => "thing_name_prefix"
  | jobsPolicySecret | shadowPolicySecret => "policy_secret"
  | jobSecret => "job_id_secret"
  | jobsGroup | shadowGroup => "thing_group"
  | jobsCertificate | shadowCertificate => "certificate_path"
  | jobsKey | shadowKey => "key_path"
  | shadowName => "shadow_name"
  | shadowProperty => "property"
  | shadowExpected => "expected_value"
  | metricsEnabled => "enabled"
  | metricsOutput => "output_path"

/-- Section and key of a field, joined by a point. -/
def dotted (field : Field) : String := field.home.name ++ "." ++ field.key

/-- The environment variable of a field. -/
def variableName (field : Field) : String :=
  "DEVICETEST_" ++ field.home.name.toUpper ++ "_" ++ field.key.toUpper

/-- What the log calls the values of a field whose variable cannot be read. -/
def valueName : Field → String
  | tailLines => "usize"
  | metricsEnabled => "bool"
  | _ => "u64"

/-- The fields of a section, in order. -/
def ofSection (part : Section) : List Field := all.filter fun field => field.home == part

end Field

end DeviceTrial
