/-
**What the command line selects.**

A selection is a scenario with its particulars, and a layer of settings that lies above all others. A
global option that stands both before and after the scenario's name counts where it stands after it.

* `get?_layer_region` — the option for the region gives the region and nothing gives it else;
* `layer_metrics` — a file for the metrics also turns the metrics on.
-/

import DeviceTrial.CommandLine.Reader
import DeviceTrial.Plan

namespace DeviceTrial.CommandLine

/-- What the command line selects. -/
structure Selection where
  /-- The settings file. -/
  config : Option Path
  /-- The log level. -/
  logLevel : Option String
  /-- The log format. -/
  logFormat : Option String
  /-- The file for the metrics. -/
  metricsFile : Option Path
  /-- The family of scenarios. -/
  family : Family
  /-- The variant of the family. -/
  variant : Variant
  /-- The version of the protocol. -/
  protocol : Protocol
  /-- The text of the run's tag; without one a tag is drawn. -/
  tag : Option String
  /-- The region of the control plane. -/
  region : Option String
  /-- A descriptor that is used instead of the one in the table. -/
  descriptor : Option Path
  /-- A front part of the identity's name that is used instead of the configured one. -/
  nameStart : Option String
deriving DecidableEq

namespace Reading

/-- The value of an option: where it stands after the scenario's name, and else before it. -/
def value? (reading : Reading) (flag : Flag) : Option String :=
  (reading.after.value? flag).or (reading.before.value? flag)

/-- The path that an option stands for. -/
def path? (reading : Reading) (flag : Flag) : Option Path := (reading.value? flag).map Path.mk

/-- The variant that the options select. -/
def variant (reading : Reading) : Variant :=
  if reading.after.has .signingRequest then .signingRequest
  else if reading.after.has .namedShadow then .namedShadow
  else .standard

/-- The selection that was read; the version of the protocol must be given. -/
def selection? (reading : Reading) : Option Selection := do
  let protocol ← (Protocol.read (← reading.value? .protocol)).toOption
  return { config := reading.path? .config
           logLevel := reading.value? .logLevel
           logFormat := reading.value? .logFormat
           metricsFile := reading.path? .metricsFile
           family := reading.family
           variant := reading.variant
           protocol := protocol
           tag := reading.value? .tag
           region := reading.value? .region
           descriptor := reading.path? .descriptor
           nameStart := reading.value? .nameStart }

end Reading

/-- Reads the selection from a command line. -/
def select (arguments : List String) : Except Halt Selection := do
  match (← read arguments).selection? with
  | some selection => return selection
  | none => .error .misuse

namespace Selection

/-- The settings that the command line gives. -/
def layer (selection : Selection) : Layer where
  get?
    | .logLevel => selection.logLevel
    | .logFormat => selection.logFormat
    | .region => selection.region
    | .metricsEnabled => selection.metricsFile.map fun _ => true
    | .metricsOutput => selection.metricsFile
    | _ => none

/-- The request for a trial, once the settings are merged and the tag is known. -/
def request (selection : Selection) (settings : Settings) (tag : RunTag) : TrialRequest where
  family := selection.family
  protocol := selection.protocol
  variant := selection.variant
  tag := tag
  region := settings.get .region
  descriptor := selection.descriptor
  nameStart := selection.nameStart

theorem get?_layer_region (selection : Selection) :
    selection.layer.get? .region = selection.region := rfl

theorem layer_metrics (selection : Selection) :
    selection.layer.get? .metricsEnabled = (selection.layer.get? .metricsOutput).map fun _ => true :=
  rfl

end Selection

end DeviceTrial.CommandLine
