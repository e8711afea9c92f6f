/-
**Metrics of a trial.**

Every metric has a name, a kind and a description. Recording one is a `Sample`, and a list of samples
is read as the number of samples per metric and labels.

* `sampleCount_append` — the number of samples adds up over lists;
* `exposition` — the text form in which the numbers are handed on.
-/

import DeviceTrial.Scenario
import DeviceTrial.Scorecard
import DeviceTrial.Table

namespace DeviceTrial

/-- The metrics that a trial records. -/
inductive Metric where
  /-- Completed phases. -/
  | phases
  /-- How long phases took. -/
  | phaseDurations
  /-- Identities made. -/
  | identitiesMade
  /-- Identities taken away. -/
  | identitiesRemoved
  /-- Finished trials. -/
  | trials
deriving DecidableEq, Repr

namespace Metric

/-- The metrics in order. -/
def all : List Metric := [.phases, .phaseDurations, .identitiesMade, .identitiesRemoved, .trials]

/-- The name of a metric. -/
def name : Metric → String
  | .phases => "devicetest_phase_total"
  | .phaseDurations => "devicetest_phase_duration_seconds"
  | .identitiesMade => "devicetest_identities_created_total"
  | .identitiesRemoved => "devicetest_identities_deleted_total"
  | .trials => "devicetest_runs_total"

/-- Whether a metric collects durations rather than counts. -/
def isHistogram : Metric → Bool
  | .phaseDurations => true
  | _ => false

/-- What a metric says. -/
def description : Metric → String
  | .phases => "Orchestration phases completed, by scenario, phase and result"
  | .phaseDurations => "Wall-clock duration of each orchestration phase in seconds"
  | .identitiesMade => "Ephemeral device identities created in the control plane"
  | .identitiesRemoved => "Ephemeral device identities removed from the control plane"
  | .trials => "Scenario runs finished, by scenario and verdict"

end Metric

/-- One recording of a metric under labels. -/
structure Sample where
  /-- The metric. -/
  metric : Metric
  /-- The labels, name and value. -/
  labels : List (String × String)
deriving DecidableEq, Repr

namespace Sample

/-- A phase that ended with the given slot. -/
def phase (family : Family) (phase : Phase) (slot : Slot) : Sample :=
  ⟨.phases, [("scenario", family.name), ("phase", phase.name), ("result", slot.label)]⟩

/-- The duration of a phase. -/
def phaseDuration (family : Family) (phase : Phase) : Sample :=
  ⟨.phaseDurations, [("scenario", family.name), ("phase", phase.name)]⟩

/-- An identity that was made. -/
def identityMade : Sample := ⟨.identitiesMade, []⟩

/-- An identity that was taken away. -/
def identityRemoved : Sample := ⟨.identitiesRemoved, []⟩

/-- A trial that ended with the given verdict. -/
def trial (family : Family) (verdict : Verdict) : Sample :=
  ⟨.trials, [("scenario", family.name), ("result", verdict.label)]⟩

end Sample

/-- How often a sample occurs. -/
def sampleCount (samples : List Sample) (sample : Sample) : Nat := samples.count sample

theorem sampleCount_append (first second : List Sample) (sample : Sample) :
    sampleCount (first ++ second) sample = sampleCount first sample + sampleCount second sample :=
  List.count_append

/-- Every sample that occurs, with the number of its occurrences. -/
def tally (samples : List Sample) : List (Sample × Nat) :=
  samples.eraseDups.map fun sample => (sample, sampleCount samples sample)

/-! ### The exposition -/

/-- The labels between braces, or nothing when there are none. -/
def labelText (labels : List (String × String)) : String :=
  if labels.isEmpty then ""
  else "\x7b" ++ ",".intercalate (labels.map fun label => label.1 ++ "=\"" ++ label.2 ++ "\"")
    ++ "\x7d"

/-- The line of one number. -/
def sampleLine (entry : Sample × Nat) : String :=
  let suffix := if entry.1.metric.isHistogram then "_count" else ""
  entry.1.metric.name ++ suffix ++ labelText entry.1.labels ++ " " ++ toString entry.2

/-- The lines of one metric: what it says, what kind it is, and its numbers. -/
def metricLines (entries : List (Sample × Nat)) (metric : Metric) : List String :=
  let own := entries.filter fun entry => entry.1.metric == metric
  if own.isEmpty then []
  else
    ("# HELP " ++ metric.name ++ " " ++ metric.description) ::
    ("# TYPE " ++ metric.name ++ " " ++ if metric.isHistogram then "summary" else "counter") ::
    own.map sampleLine ++ [""]

/-- The text in which recorded metrics are handed on; metrics without a sample do not occur. -/
def exposition (samples : List Sample) : String :=
  String.join ((Metric.all.flatMap (metricLines (tally samples))).map (· ++ "\n"))

end DeviceTrial
