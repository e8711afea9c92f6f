/-
**Settings and layers of settings.**

`Settings` give every field a value. A `Layer` gives values to some fields, and laying it over settings
replaces exactly those.

* `get_overlay` — a field has the value of the layer above when that gives one, and else the one below.
-/

import DeviceTrial.Settings.Field

namespace DeviceTrial

/-- A value for every field. -/
structure Settings where
  /-- The value of a field. -/
  get : (field : Field) → field.Value

/-- Values for some fields. -/
structure Layer where
  /-- The value of a field, if the layer has one. -/
  get? : (field : Field) → Option field.Value

namespace Layer

/-- The layer without values. -/
def empty : Layer := ⟨fun _ => none⟩

/-- The layer with the value of one field added. -/
def set (layer : Layer) (field : Field) (value : field.Value) : Layer :=
  ⟨fun other => if same : field = other then some (same ▸ value) else layer.get? other⟩

@[simp] theorem get?_empty (field : Field) : empty.get? field = none := rfl

@[simp] theorem get?_set_self (layer : Layer) (field : Field) (value : field.Value) :
    (layer.set field value).get? field = some value := by
  simp [set]

theorem get?_set_of_ne (layer : Layer) {field other : Field} (value : field.Value)
    (different : field ≠ other) : (layer.set field value).get? other = layer.get? other := by
  simp [set, different]

end Layer

namespace Settings

/-- Lays a layer over settings. -/
def overlay (layer : Layer) (below : Settings) : Settings :=
  ⟨fun field => (layer.get? field).getD (below.get field)⟩

theorem get_overlay (layer : Layer) (below : Settings) (field : Field) :
    (overlay layer below).get field = (layer.get? field).getD (below.get field) := rfl

@[simp] theorem overlay_empty (below : Settings) : overlay .empty below = below := rfl

/-- The built-in value of a field. -/
def defaultValue : (field : Field) → field.Value
  | .logLevel => "info"
  | .logFormat => "pretty"
  | .region => "us-east-1"
  | .scenarioDirectory => ⟨"scenarios"⟩
  | .timeout => 600
  | .cleanupTimeout => 120
  | .tailLines => 200
  | .fleetNameStart => ""
  | .jobsNameStart => "ServiceTest_Jobs_"
  | .jobsPolicySecret => "ci/JobsServiceClientTest/policy_name"
  | .jobSecret => "ci/JobsServiceClientTest/job_id"
  | .jobsGroup => "CI_ServiceClient_Thing_Group"
  | .jobsCertificate => ⟨"servicetests/tests/jobs_execution/certificate.pem.crt"⟩
  | .jobsKey => ⟨"servicetests/tests/jobs_execution/private.pem.key"⟩
  | .shadowNameStart => "ServiceTest_Shadow_"
  | .shadowPolicySecret => "ci/ShadowServiceClientTest/policy_name"
  | .shadowGroup => ""
  | .shadowName => "testShadow"
  | .shadowProperty => "color"
  | .shadowExpected => "on"
  | .shadowCertificate => ⟨"certificate.pem.crt"⟩
  | .shadowKey => ⟨"private.pem.key"⟩
  | .metricsEnabled => false
  | .metricsOutput => ⟨""⟩

/-- The built-in settings. -/
def default : Settings := ⟨defaultValue⟩

instance : Inhabited Settings := ⟨default⟩

/-- A text that may be empty, which stands for none. -/
def nonEmpty (text : String) : Option String := if text.isEmpty then none else some text

/-- The group that things of the jobs family are put into. -/
def jobsGroup? (settings : Settings) : Option String := nonEmpty (settings.get .jobsGroup)

/-- The group that things of the shadow family are put into. -/
def shadowGroup? (settings : Settings) : Option String := nonEmpty (settings.get .shadowGroup)

end Settings

end DeviceTrial
