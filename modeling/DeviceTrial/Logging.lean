/-
**Which events are logged, and in what format.**

A filter is a list of directives. Of those that speak of an event the most specific one decides, and an
event that no directive speaks of is not logged. The variable of the filter, when it can be read, wins
over the level in the settings.

* `allows_ofLevel` — a filter that is only a level lets the events of that level and above through;
* `allows_nil` — the filter without directives lets nothing through.
-/

import DeviceTrial.Json.Printer
import DeviceTrial.Logging.Directive

namespace DeviceTrial

/-- The format of the lines in the log. -/
inductive LogFormat where
  /-- One object per line. -/
  | json
  /-- Lines for human readers. -/
  | pretty
deriving DecidableEq, Repr

/-- The name of a log format. -/
def LogFormat.name : LogFormat → String
  | .json => "Json"
  | .pretty => "Pretty"

/-- Reads a log format. -/
def LogFormat.read (text : String) : Except String LogFormat :=
  if text = "json" then .ok .json
  else if text = "pretty" then .ok .pretty
  else .error ("unknown log format '" ++ text ++ "', expected 'json' or 'pretty'")

/-! ### Lines -/

/-- An event as an object. -/
def Event.toJson (event : Event) : Json.Value :=
  let fields := (("message", event.message) :: event.fields).foldl
    (fun known field => Json.insertMember field.1 (.text field.2) known) []
  .object [("fields", .object fields), ("level", .text event.level.name),
    ("target", .text event.source.target)]

/-- The line of an event in the log. -/
def Event.line (event : Event) : LogFormat → String
  | .json => event.toJson.render
  | .pretty => event.level.name.toUpper ++ " " ++ event.source.target ++ ": " ++ event.message ++
      String.join (event.fields.map fun field => ", " ++ field.1 ++ ": " ++ field.2)

/-! ### Filters -/

/-- The directives of a log filter, in order. -/
abbrev LogFilter := List Directive

namespace LogFilter

/-- The filter that is only a level. -/
def ofLevel (level : Level) : LogFilter := [.ofThreshold (some level)]

/-- Reads a filter: directives with commas between them, of which the empty ones do not count. A filter
without any directive lets errors through. -/
def read? (text : String) : Option LogFilter :=
  match (Text.splitOn ',' text).filter fun piece => !piece.isEmpty with
  | [] => some (ofLevel .error)
  | pieces => pieces.mapM Directive.read?

/-- The directive that decides about an event. -/
def deciding? (filter : LogFilter) (event : Event) : Option Directive :=
  match filter.filter fun directive => directive.concerns event with
  | [] => none
  | first :: rest => some (rest.foldl Directive.moreSpecific first)

/-- Whether a filter lets an event through. -/
def allows (filter : LogFilter) (event : Event) : Bool :=
  match filter.deciding? event with
  | none => false
  | some directive => directive.threshold.admits event.level

theorem allows_nil (event : Event) : allows [] event = false := rfl

theorem allows_ofLevel (level : Level) (event : Event) :
    (ofLevel level).allows event = decide (level.rank ≤ event.level.rank) := by
  simp only [ofLevel, allows, deciding?, List.filter, Directive.concerns_ofThreshold, List.foldl]
  rfl

end LogFilter

/-- How events are logged. -/
structure Logging where
  /-- The format of the lines. -/
  format : LogFormat
  /-- Which events are logged. -/
  filter : LogFilter
deriving DecidableEq

namespace Logging

/-- The variable of the filter. -/
def filterVariable : String := "RUST_LOG"

/-- The filter that the settings ask for. -/
def configured (settings : Settings) : LogFilter :=
  match Level.ofName? (settings.get .logLevel) with
  | some level => .ofLevel level
  | none => .ofLevel .error

/-- The filter: that of the variable if it can be read, and else that of the settings. -/
def filterFor (settings : Settings) (environment : Variables) : LogFilter :=
  ((Environment.lookUp? environment filterVariable).bind LogFilter.read?).getD (configured settings)

/-- How events are logged with the given settings and variables. -/
def prepare (settings : Settings) (environment : Variables) : Except String Logging := do
  let format ← LogFormat.read (settings.get .logFormat)
  return ⟨format, filterFor settings environment⟩

end Logging

end DeviceTrial
