/-
**Log events.**

An event has a level, a source, a message and named fields. Sources have the dotted names by which a
log filter addresses them.
-/

namespace DeviceTrial

/-- How much an event matters. -/
inductive Level where
  | trace
  | debug
  | info
  | warn
  | error
deriving DecidableEq, Repr

/-- The name of a level. -/
def Level.name : Level → String
  | .trace => "trace"
  | .debug => "debug"
  | .info => "info"
  | .warn => "warn"
  | .error => "error"

/-- The levels from the least to the most important. -/
def Level.all : List Level := [.trace, .debug, .info, .warn, .error]

/-- The level of a name. -/
def Level.ofName? (text : String) : Option Level := Level.all.find? (·.name == text)

/-- The place of a level among the levels; more important levels come later. -/
def Level.rank : Level → Nat
  | .trace => 0
  | .debug => 1
  | .info => 2
  | .warn => 3
  | .error => 4

/-- The part of the program that an event comes from. -/
inductive Source where
  /-- Reading the settings. -/
  | settings
  /-- Connecting to the service. -/
  | service
  /-- Reading secrets. -/
  | secrets
  /-- Making and taking away identities. -/
  | identity
  /-- Running the process under test. -/
  | drive
  /-- The process under test itself. -/
  | output
  /-- Looking at the result. -/
  | verification
  /-- Going through the phases. -/
  | trial
  /-- The program around the trial. -/
  | program
  /-- Writing the metrics. -/
  | exposition
  /-- The very start and end of the program. -/
  | entry
deriving DecidableEq, Repr

/-- The name by which a filter addresses a source. -/
def Source.target : Source → String
  | .settings => "devicetest_core::config"
  | .service => "devicetest_control_plane::aws"
  | .secrets => "devicetest_harness::secret"
  | .identity => "devicetest_harness::lifecycle"
  | .drive => "devicetest_harness::driver"
  | .output => "devicetest::driver"
  | .verification => "devicetest_harness::verifier"
  | .trial => "devicetest_harness::orchestrator"
  | .program => "devicetest::run"
  | .exposition => "devicetest::metrics_export"
  | .entry => "devicetest"

/-- Something worth a line in the log. -/
structure Event where
  /-- How much it matters. -/
  level : Level
  /-- Where it comes from. -/
  source : Source
  /-- What happened. -/
  message : String
  /-- The particulars, name and text. -/
  fields : List (String × String)
deriving DecidableEq, Repr

namespace Event

/-- The message when the process under test has ended. -/
def driveEnd : String := "driven process finished"

/-- The message when a phase has ended well. -/
def phaseEnd : String := "phase passed"

/-- Whether an event also tells how long something took; that time itself is not kept. -/
def isTimed (event : Event) : Bool :=
  event.source == .drive && event.message == driveEnd ||
    event.source == .trial && event.message == phaseEnd

/-- The names of the fields; the message is one. -/
def fieldNames (event : Event) : List String :=
  "message" :: event.fields.map Prod.fst ++ if event.isTimed then ["elapsed_ms"] else []

/-- Whether an event has a field. -/
def hasField (event : Event) (name : String) : Bool := event.fieldNames.contains name

end Event

end DeviceTrial
