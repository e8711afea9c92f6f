/-
**The options of the command line.**

An option has a long name, perhaps a short one, and is known before the scenario is named, after it,
or both. Those that stand for a value take it from the next argument or from behind an equals sign.

* `ofName?_name` — an option is found under its long name;
* `isKnown_of_isGlobal` — a global option is known wherever it stands.
-/

import DeviceTrial.Scenario

namespace DeviceTrial.CommandLine

/-- The options. -/
inductive Flag where
  /-- The settings file. -/
  | config
  /-- The log level. -/
  | logLevel
  /-- The log format. -/
  | logFormat
  /-- The file for the metrics. -/
  | metricsFile
  /-- The tag of the run. -/
  | tag
  /-- The region of the control plane. -/
  | region
  /-- The version of the protocol. -/
  | protocol
  /-- The descriptor that is used instead of the one in the table. -/
  | descriptor
  /-- The front part of the identity's name. -/
  | nameStart
  /-- Fleet provisioning with a signing request. -/
  | signingRequest
  /-- A shadow that has a name of its own. -/
  | namedShadow
  /-- Asks for help. -/
  | help
  /-- Asks for the version. -/
  | version
deriving DecidableEq, Repr

namespace Flag

/-- The options in order. -/
def all : List Flag :=
  [config, logLevel, logFormat, metricsFile, tag, region, protocol, descriptor, nameStart,
   signingRequest, namedShadow, help, version]

/-- The long name of an option, without the dashes. -/
def name : Flag → String
  | config => "config"
  | logLevel => "log-level"
  | logFormat => "log-format"
  | metricsFile => "metrics-file"
  | tag => "input-uuid"
  | region => "region"
  | protocol => "mqtt-version"
  | descriptor => "file"
  | nameStart => "thing-name-prefix"
  | signingRequest => "use-csr"
  | namedShadow => "use-named-shadow"
  | help => "help"
  | version => "version"

/-- The short name of an option, if it has one. -/
def short? : Flag → Option Char
  | config => some 'c'
  | help => some 'h'
  | version => some 'V'
  | _ => none

/-- The option with the given long name, which must be complete. -/
def ofName? (text : String) : Option Flag := all.find? fun flag => flag.name == text

/-- The option with the given short name. -/
def ofShort? (c : Char) : Option Flag := all.find? fun flag => flag.short? == some c

/-- Whether the option stands for a value. -/
def takesValue : Flag → Bool
  | signingRequest | namedShadow | help | version => false
  | _ => true

/-- Whether the option may stand before the scenario as well as after it. -/
def isGlobal : Flag → Bool
  | config | logLevel | logFormat | metricsFile | help => true
  | _ => false

/-- Whether an option is known: before the scenario is named, or after it. -/
def isKnown : Option Family → Flag → Bool
  | none, version => true
  | none, flag => flag.isGlobal
  | some _, tag | some _, region | some _, protocol | some _, descriptor => true
  | some .fleetProvisioning, nameStart | some .fleetProvisioning, signingRequest => true
  | some .shadow, namedShadow => true
  | some _, flag => flag.isGlobal

/-- Whether a value can be a value of the option: files have a name, and the protocol has versions. -/
def accepts (value : String) : Flag → Bool
  | config | metricsFile | descriptor => !value.isEmpty
  | protocol => (Protocol.read value).isOk
  | _ => true

theorem ofName?_name (flag : Flag) : ofName? flag.name = some flag := by
  cases flag <;> decide

theorem isKnown_of_isGlobal {flag : Flag} (everywhere : flag.isGlobal = true)
    (named : Option Family) : isKnown named flag = true := by
  cases flag <;> simp [isGlobal] at everywhere <;> cases named with
  | none => rfl
  | some family => cases family <;> rfl

end Flag

end DeviceTrial.CommandLine
