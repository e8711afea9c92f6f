/-
**What the program says about its command line.**

The lines of the help are made of the table of options, so that every option has one.

* `mem_usage` — every option has its line in the help.
-/

import DeviceTrial.CommandLine.Reader

namespace DeviceTrial.CommandLine

/-- The name of the program. -/
def programName : String := "devicetest"

/-- The version of the program. -/
def programVersion : String := "0.1.0"

/-- What an option is for. -/
def Flag.summary : Flag → String
  | config => "path of the settings file"
  | logLevel => "log level: trace, debug, info, warn or error"
  | logFormat => "log format: json or pretty"
  | metricsFile => "file that the metrics of this run are written to"
  | tag => "tag of the run; a random one when it is left out"
  | region => "region of the control plane"
  | protocol => "version of the protocol: 3 or 5; always needed"
  | descriptor => "descriptor to use instead of the one in the table"
  | nameStart => "front part of the identity's name"
  | signingRequest => "provision with a signing request"
  | namedShadow => "use the named shadow"
  | help => "print this text"
  | version => "print the version"

/-- The line about an option. -/
def Flag.usageLine (flag : Flag) : String :=
  let short := (flag.short?.map fun c => "-" ++ String.singleton c ++ ", ").getD "    "
  "  " ++ short ++ "--" ++ flag.name ++ (if flag.takesValue then " <VALUE>" else "") ++ "  " ++
    flag.summary

/-- The lines about the scenarios. -/
def familyLines : List String := Family.all.map fun family => "  " ++ family.name

/-- The lines of the help. -/
def usage : List String :=
  ["Usage: " ++ programName ++ " [OPTIONS] <SCENARIO> [OPTIONS]", "", "Scenarios:"] ++
    familyLines ++ ["", "Options:"] ++ Flag.all.map Flag.usageLine

/-- The line about the version. -/
def versionLine : String := programName ++ " " ++ programVersion

/-- What is printed instead of running a scenario. -/
def Halt.lines : Halt → List String
  | .help => usage
  | .version => [versionLine]
  | .misuse => "error: the arguments make no sense" :: "" :: usage

theorem mem_usage (flag : Flag) : flag.usageLine ∈ usage := by
  have inside : flag ∈ Flag.all := by cases flag <;> decide
  simp only [usage, List.mem_append]
  exact .inr (List.mem_map_of_mem inside)

end DeviceTrial.CommandLine
