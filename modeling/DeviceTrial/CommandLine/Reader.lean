/-
**Reading the command line.**

The arguments before the scenario's name and those after it are read with the same rules. An option
that stands for a value waits for it until the next option comes, and only then is looked at; so a
request for help is granted unless something before it in the same part is wrong. What is wrong after
the scenario's name is found before what is wrong just before it.

* `Word.ofArgument` — what an argument looks like;
* `readPart` — the options of one part, and what follows it;
* `read` — the whole command line.
-/

import DeviceTrial.CommandLine.Flag
import DeviceTrial.Text.Scan

namespace DeviceTrial.CommandLine

/-- Why there is no scenario to run. -/
inductive Halt where
  /-- Help was asked for. -/
  | help
  /-- The version was asked for. -/
  | version
  /-- The arguments make no sense. -/
  | misuse
deriving DecidableEq, Repr

/-- The exit code of a command line without a scenario to run. -/
def Halt.exitCode : Halt → Nat
  | .help | .version => 0
  | .misuse => 2

/-! ### Words -/

/-- What an argument looks like. -/
inductive Word where
  /-- Two dashes and a name, perhaps with a value behind an equals sign. -/
  | long (name : String) (value : Option String)
  /-- One dash, a letter, and what follows it. -/
  | short (letter : Char) (rest : List Char)
  /-- Two dashes alone, after which there are no options. -/
  | divider
  /-- Anything else. -/
  | plain (text : String)
deriving DecidableEq, Repr

/-- What an argument looks like. -/
def Word.ofArgument (argument : String) : Word :=
  match argument.toList with
  | ['-', '-'] => .divider
  | '-' :: '-' :: rest =>
    match Text.cut "=" (String.ofList rest) with
    | some (name, value) => .long name (some value)
    | none => .long (String.ofList rest) none
  | '-' :: letter :: rest => .short letter rest
  | _ => .plain argument

/-! ### The options of one part -/

/-- What is still open. -/
inductive Pending where
  /-- Nothing. -/
  | nothing
  /-- An option waits for its value. -/
  | awaits (flag : Flag)
  /-- A value waits for being looked at. -/
  | holds (flag : Flag) (value : String)
deriving DecidableEq, Repr

/-- The options of a part that were read so far. -/
structure Part where
  /-- The options with a value. -/
  values : List (Flag × String)
  /-- The options without one. -/
  switches : List Flag
  /-- What is still open. -/
  pending : Pending
deriving DecidableEq, Repr

namespace Part

/-- The part before its first argument. -/
def blank : Part := ⟨[], [], .nothing⟩

/-- The value of an option. -/
def value? (part : Part) (flag : Flag) : Option String :=
  (part.values.find? fun entry => entry.1 == flag).map Prod.snd

/-- Whether an option without value stands in the part. -/
def has (part : Part) (flag : Flag) : Bool := part.switches.contains flag

/-- Takes the value of an option, which must be the first of that option and acceptable. -/
def take (part : Part) (flag : Flag) (value : String) : Except Halt Part :=
  if (part.value? flag).isSome || !flag.accepts value then .error .misuse
  else .ok { part with values := part.values ++ [(flag, value)], pending := .nothing }

/-- Closes what is open. -/
def settle (part : Part) : Except Halt Part :=
  match part.pending with
  | .nothing => .ok part
  | .awaits _ => .error .misuse
  | .holds flag value => part.take flag value

/-- Meets an option without value. -/
def switch (part : Part) (flag : Flag) : Except Halt Part := do
  let part ← part.settle
  if flag = .help then .error .help
  else if flag = .version then .error .version
  else if part.has flag then .error .misuse
  else .ok { part with switches := part.switches ++ [flag] }

/-- Meets an option, perhaps with its value. -/
def meet (part : Part) (flag : Flag) (value : Option String) : Except Halt Part :=
  if flag.takesValue then do
    let part ← part.settle
    match value with
    | some value => part.take flag value
    | none => .ok { part with pending := .awaits flag }
  else if value.isSome then .error .misuse
  else part.switch flag

/-- The value that stands behind a short option; an equals sign before it does not count. -/
def shortValue : List Char → Option String
  | [] => none
  | '=' :: rest => some (String.ofList rest)
  | rest => some (String.ofList rest)

/-- Meets a short option. What follows one without value is not looked at. -/
def meetShort (part : Part) (flag : Flag) (rest : List Char) : Except Halt Part :=
  part.meet flag (if flag.takesValue then shortValue rest else none)

/-- The option among those that are known in a part. -/
def known (named : Option Family) (flag : Option Flag) : Except Halt Flag :=
  match flag.filter fun flag => flag.isKnown named with
  | some flag => .ok flag
  | none => .error .misuse

end Part

/-- What follows the options of a part. -/
inductive Following where
  /-- Nothing. -/
  | nothing
  /-- A plain text and the arguments after it. -/
  | text (text : String) (rest : List String)
deriving DecidableEq, Repr

/-- Reads the options of a part. -/
def readPart (named : Option Family) (part : Part) :
    List String → Except Halt (Part × Following)
  | [] => .ok (part, .nothing)
  | argument :: rest =>
    match Word.ofArgument argument with
    | .long name value => do
      let flag ← Part.known named (Flag.ofName? name)
      readPart named (← part.meet flag value) rest
    | .short letter behind => do
      let flag ← Part.known named (Flag.ofShort? letter)
      readPart named (← part.meetShort flag behind) rest
    | .divider => if rest.isEmpty then .ok (part, .nothing) else .error .misuse
    | .plain text =>
      match part.pending with
      | .awaits flag => readPart named { part with pending := .holds flag text } rest
      | _ => .ok (part, .text text rest)

/-! ### The whole -/

/-- The options of a command line: those before the scenario's name, the family, those after it. -/
structure Reading where
  /-- The options before the scenario's name. -/
  before : Part
  /-- The family of scenarios. -/
  family : Family
  /-- The options after the scenario's name. -/
  after : Part
deriving DecidableEq, Repr

/-- The word that asks for help. -/
def helpWord : String := "help"

/-- Answers the word for help: at most one topic may follow, which is a family or help itself. -/
def helpFor : List String → Halt
  | [] => .help
  | [topic] => if topic = helpWord || (Family.ofName? topic).isSome then .help else .misuse
  | _ => .misuse

/-- Reads what follows the scenario's name. -/
def readAfter (family : Family) (arguments : List String) : Except Halt Part :=
  match readPart (some family) .blank arguments with
  | .ok (part, .nothing) => part.settle
  | .ok (_, .text _ _) => .error .misuse
  | .error halt => .error halt

/-- Reads a command line. -/
def read (arguments : List String) : Except Halt Reading := do
  match ← readPart none .blank arguments with
  | (_, .nothing) => .error .misuse
  | (before, .text text rest) =>
    if text = helpWord then .error (helpFor rest)
    else
      match Family.ofName? text with
      | none => .error .misuse
      | some family =>
        let after ← readAfter family rest
        return ⟨← before.settle, family, after⟩

end DeviceTrial.CommandLine
