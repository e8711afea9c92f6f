/-
**Carrying out shell scripts.**

A command changes the state of the shell it runs in; a shell that is over carries out nothing more.

* `eval` — the shell after a command;
* `runScript` — the shell after the text of a script.
-/

import DeviceTrial.Sandbox.Builtin
import DeviceTrial.Sandbox.Reader

namespace DeviceTrial.Sandbox

namespace Shell

/-- The sink of a channel. -/
def sink (shell : Shell) : Channel → Sink
  | .out => shell.out
  | .err => shell.err

/-- Lets a channel go to a sink. -/
def withSink (shell : Shell) (channel : Channel) (sink : Sink) : Shell :=
  match channel with
  | .out => { shell with out := sink }
  | .err => { shell with err := sink }

/-- Lets a channel go into the file at a path. -/
def openFile (shell : Shell) (channel : Channel) (append : Bool) (path : String) : Option Shell :=
  if path = "/dev/null" then some (shell.withSink channel .nowhere)
  else
    match shell.locate path with
    | .error _ => none
    | .ok place =>
      let bytes : ByteArray := match shell.files.found? place with
        | some (.file content _) => if append then content else .empty
        | _ => .empty
      match shell.files.writeAt place bytes with
      | .error _ => none
      | .ok files => some ({ shell with files := files }.withSink channel (.file place))

/-- Carries out a redirection; `none` when a file cannot be opened. -/
def redirect (shell : Shell) : Redirection → Option Shell
  | .merge source target => some (shell.withSink source (shell.sink target))
  | .intoFile channel append target => shell.openFile channel append (shell.expandWhole target)
  | .fromFile source =>
    let path := shell.expandWhole source
    if path = "/dev/null" then some { shell with input := [] }
    else
      match shell.entryAt? path with
      | some (.file content _) => some { shell with input := content.data.toList }
      | _ => none

/-- Carries out redirections one after the other. -/
def redirectAll (shell : Shell) (redirections : List Redirection) : Option Shell :=
  redirections.foldlM redirect shell

/-- Carries out assignments. -/
def assignAll (shell : Shell) (assignments : List (String × Word)) : Shell :=
  assignments.foldl (fun shell entry => shell.assign entry.1 (shell.expandWhole entry.2)) shell

/-- Carries out a command of a name. -/
def runNamed (shell : Shell) (name : String) (arguments : List String) : Shell :=
  match shell.runBuiltin name arguments with
  | some after => after
  | none => shell.complain 127 (name ++ ": not found")

/-- The shell with the status of its last command as its end. -/
def finish (shell : Shell) : Shell :=
  if shell.isOver then shell else { shell with ending := some (.exited shell.status) }

/-- Carries out a simple command. -/
def runSimple (shell : Shell) (assignments : List (String × Word)) (words : List Word) : Shell :=
  match words.flatMap shell.expandWord with
  | [] => (shell.assignAll assignments).withStatus 0
  | ["exec"] => (shell.assignAll assignments).withStatus 0
  | "exec" :: name :: arguments => ((shell.assignAll assignments).runNamed name arguments).finish
  | name :: arguments => (shell.assignAll assignments).runNamed name arguments

/-- The most rounds of a loop; a process that needs more has used up its time. -/
def mostRounds : Nat := 100000

/-- Carries out a loop, of which the last round had the given status. -/
def iterate (condition body : Shell → Shell) (whileSucceeds : Bool) :
    (rounds : Nat) → (last : Nat) → Shell → Shell
  | 0, _, shell => if shell.isOver then shell else { shell with ending := some .expired }
  | rounds + 1, last, shell =>
    if shell.isOver then shell
    else
      let decided := condition shell
      if decided.isOver then decided
      else if (decided.status == 0) == whileSucceeds then
        let after := body decided
        iterate condition body whileSucceeds rounds after.status after
      else decided.withStatus last

/-- What is left of a shell of its own: all but its variables, its directory and its ending by a
code. -/
def leaveSubshell (before after : Shell) : Shell :=
  let left := { after with environment := before.environment, directory := before.directory,
                           ignored := before.ignored }
  match after.ending with
  | some (.exited _) => { left with ending := none }
  | _ => left

/-- What is left of redirected channels. -/
def leaveRedirection (before after : Shell) : Shell :=
  { after with out := before.out, err := before.err, input := before.input }

/-- Whether the last command succeeded. -/
def succeeded (shell : Shell) : Bool := shell.status == 0

/-- Carries out a command. -/
def eval : Command → Shell → Shell
  | .nothing, shell => shell
  | .simple assignments words, shell =>
    if shell.isOver then shell else shell.runSimple assignments words
  | .sequence first second, shell => eval second (eval first shell)
  | .both first second, shell =>
    let after := eval first shell
    if after.succeeded then eval second after else after
  | .either first second, shell =>
    let after := eval first shell
    if after.succeeded then after else eval second after
  | .negate command, shell =>
    let after := eval command shell
    if shell.isOver then after else after.withStatus (if after.succeeded then 1 else 0)
  | .pipe first second, shell =>
    if shell.isOver then shell
    else
      let before := { shell with out := .pipe, piped := [] }
      let middle := leaveSubshell before (eval first before)
      let after := leaveSubshell shell
        (eval second { middle with out := shell.out, input := middle.piped, piped := shell.piped })
      { after with input := shell.input }
  | .background command, shell =>
    if shell.isOver then shell else (leaveSubshell shell (eval command shell)).withStatus 0
  | .subshell command, shell =>
    if shell.isOver then shell else leaveSubshell shell (eval command shell)
  | .each name words body, shell =>
    (words.flatMap shell.expandWord).foldl (fun shell value =>
      if shell.isOver then shell else eval body (shell.assign name value)) shell
  | .loop whileSucceeds condition body, shell =>
    iterate (eval condition) (eval body) whileSucceeds mostRounds 0 shell
  | .choose condition first second, shell =>
    let after := eval condition shell
    if after.succeeded then eval first after else eval second after
  | .redirected command redirections, shell =>
    if shell.isOver then shell
    else
      match shell.redirectAll redirections with
      | some redirected => leaveRedirection shell (eval command redirected)
      | none => shell.complain 2 "cannot open file"

/-- Carries out a script and ends. -/
def runScript (shell : Shell) (text : String) : Shell :=
  match readScript text with
  | none => { shell.complain 2 "Syntax error" with ending := some (.exited 2) }
  | some command => (eval command shell).finish

end Shell

end DeviceTrial.Sandbox
