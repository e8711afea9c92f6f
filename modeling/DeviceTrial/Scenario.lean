/-
**Scenario families, their variants and the protocol version.**

* `Family`, `Variant`, `Protocol` — what a trial exercises;
* `descriptorName` — the explicit table of descriptor files, one per combination that exists.
-/

import DeviceTrial.Text.Blank
import DeviceTrial.Error.Setting

namespace DeviceTrial

/-- The family of scenarios that a trial belongs to. -/
inductive Family where
  /-- The device registers itself through a template. -/
  | fleetProvisioning
  /-- The device completes a pending job. -/
  | jobs
  /-- The device reports shadow state. -/
  | shadow
deriving DecidableEq, Repr, Inhabited

/-- The name of a family. -/
def Family.name : Family → String
  | .fleetProvisioning => "fleet-provisioning"
  | .jobs => "jobs"
  | .shadow => "shadow"

/-- The families in order. -/
def Family.all : List Family := [.fleetProvisioning, .jobs, .shadow]

/-- The family of a name. -/
def Family.ofName? (text : String) : Option Family := Family.all.find? (·.name == text)

theorem Family.ofName?_name (family : Family) : Family.ofName? family.name = some family := by
  cases family <;> decide

/-- The form in which a family is exercised. -/
inductive Variant where
  /-- The plain form, which every family has. -/
  | standard
  /-- Fleet provisioning with a signing request. -/
  | signingRequest
  /-- A shadow that has a name of its own. -/
  | namedShadow
deriving DecidableEq, Repr, Inhabited

/-- The name of a variant. -/
def Variant.name : Variant → String
  | .standard => "standard"
  | .signingRequest => "csr"
  | .namedShadow => "named-shadow"

/-- The variants in order. -/
def Variant.all : List Variant := [.standard, .signingRequest, .namedShadow]

/-- The variant of a name. -/
def Variant.ofName? (text : String) : Option Variant := Variant.all.find? (·.name == text)

/-- The version of the messaging protocol that the device speaks. -/
inductive Protocol where
  /-- Version 3. -/
  | three
  /-- Version 5. -/
  | five
deriving DecidableEq, Repr, Inhabited

/-- The number of a protocol version. -/
def Protocol.number : Protocol → Nat
  | .three => 3
  | .five => 5

/-- The written form of a protocol version. -/
def Protocol.name : Protocol → String
  | .three => "3"
  | .five => "5"

/-- The protocol versions in order. -/
def Protocol.all : List Protocol := [.three, .five]

/-- The protocol version of a written form, which must match exactly. -/
def Protocol.ofName? (text : String) : Option Protocol := Protocol.all.find? (·.name == text)

/-- Reads a protocol version; blanks around it do not count. -/
def Protocol.read (text : String) : Except SettingError Protocol :=
  let trimmed := Text.trim text
  match Protocol.ofName? trimmed with
  | some protocol => .ok protocol
  | none => .error (.invalidValue "mqtt_version" s!"'{trimmed}' is not one of: 3, 5")

/-- Whether a family has a variant. -/
def Family.hasVariant : Family → Variant → Bool
  | _, .standard => true
  | .fleetProvisioning, .signingRequest => true
  | .shadow, .namedShadow => true
  | _, _ => false

/-- The descriptor files: family, variant, protocol version and the name of the file. -/
def descriptorTable : List (Family × Variant × Protocol × String) :=
  [(.fleetProvisioning, .standard, .three, "mqtt3_fleet_provisioning_cfg.json"),
   (.fleetProvisioning, .standard, .five, "mqtt5_fleet_provisioning_cfg.json"),
   (.fleetProvisioning, .signingRequest, .three, "mqtt3_fleet_provisioning_with_csr_cfg.json"),
   (.fleetProvisioning, .signingRequest, .five, "mqtt5_fleet_provisioning_with_csr_cfg.json"),
   (.jobs, .standard, .three, "mqtt3_jobs_cfg.json"),
   (.jobs, .standard, .five, "mqtt5_jobs_cfg.json"),
   (.shadow, .standard, .three, "mqtt3_shadow_cfg.json"),
   (.shadow, .standard, .five, "mqtt5_shadow_cfg.json"),
   (.shadow, .namedShadow, .three, "mqtt3_named_shadow_cfg.json"),
   (.shadow, .namedShadow, .five, "mqtt5_named_shadow_cfg.json")]

/-- The name of the descriptor file of a combination, if the table has one. -/
def descriptorName? (family : Family) (variant : Variant) (protocol : Protocol) :
    Option String :=
  (descriptorTable.find? fun row =>
    row.1 == family && row.2.1 == variant && row.2.2.1 == protocol).map (·.2.2.2)

theorem descriptorName?_isSome (family : Family) (variant : Variant) (protocol : Protocol) :
    (descriptorName? family variant protocol).isSome = family.hasVariant variant := by
  cases family <;> cases variant <;> cases protocol <;> decide

/-- The name of the descriptor file of a combination. -/
def descriptorName (family : Family) (variant : Variant) (protocol : Protocol) :
    Except SettingError String :=
  match descriptorName? family variant protocol with
  | some name => .ok name
  | none =>
    .error (.invalidValue "variant" s!"{family.name} has no '{variant.name}' variant")

end DeviceTrial
