/-
**A shell for simulated processes.**

A `Shell` is the state of a running script: variables, files, what was written to each channel and a
clock that only sleeping advances. A process whose clock reaches its budget is over.

* `expandWord` — the texts that a word becomes.
-/

import DeviceTrial.FileSystem
import DeviceTrial.Process.Launch
import DeviceTrial.Sandbox.Arithmetic
import DeviceTrial.Sandbox.Script

namespace DeviceTrial.Sandbox

/-- Where an output channel goes. -/
inductive Sink where
  /-- To the outside. -/
  | channel (channel : Channel)
  /-- Into a file. -/
  | file (place : Place)
  /-- Into the input of the next command of a pipe. -/
  | pipe
  /-- Nowhere. -/
  | nowhere
deriving DecidableEq, Repr

/-- The state of a running script. -/
structure Shell where
  /-- The variables, a later one of the same name counting. -/
  environment : List (String × String)
  /-- The name of the script. -/
  zero : String
  /-- The arguments of the script. -/
  arguments : List String
  /-- The current directory. -/
  directory : Place
  /-- The files. -/
  files : FileSystem
  /-- Where standard output goes. -/
  out : Sink
  /-- Where standard error goes. -/
  err : Sink
  /-- The input. -/
  input : List UInt8
  /-- What was written to the outside, in order. -/
  written : List (Channel × List UInt8)
  /-- What was written into the pipe. -/
  piped : List UInt8
  /-- The time that has passed, in milliseconds. -/
  clock : Nat
  /-- The time that there is, in milliseconds. -/
  budget : Nat
  /-- The status of the last command. -/
  status : Nat
  /-- The signals that are ignored. -/
  ignored : List String
  /-- How the process ended, if it has. -/
  ending : Option Ending

namespace Shell

/-- Whether the process has ended. -/
def isOver (shell : Shell) : Bool := shell.ending.isSome

/-- Sets the status of the last command. -/
def withStatus (shell : Shell) (status : Nat) : Shell := { shell with status := status }

/-- The value of a variable. -/
def valueOf? (shell : Shell) (name : String) : Option String :=
  (shell.environment.reverse.find? fun entry => entry.1 == name).map Prod.snd

/-- Gives a variable its value. -/
def assign (shell : Shell) (name value : String) : Shell :=
  { shell with environment := shell.environment ++ [(name, value)] }

/-- Appends bytes to a file. -/
def appendTo (files : FileSystem) (place : Place) (bytes : List UInt8) : FileSystem :=
  match files.found? place with
  | some (.file content ownerOnly) =>
    files.put place (.file ⟨content.data ++ bytes.toArray⟩ ownerOnly)
  | some .directory => files
  | none => files.put place (.file ⟨bytes.toArray⟩ false)

/-- Writes bytes to a sink. -/
def writeTo (shell : Shell) (sink : Sink) (bytes : List UInt8) : Shell :=
  match sink with
  | .channel channel => { shell with written := shell.written ++ [(channel, bytes)] }
  | .file place => { shell with files := appendTo shell.files place bytes }
  | .pipe => { shell with piped := shell.piped ++ bytes }
  | .nowhere => shell

/-- Writes bytes to standard output. -/
def writeOut (shell : Shell) (bytes : List UInt8) : Shell := shell.writeTo shell.out bytes

/-- Writes a text to standard output. -/
def sayOut (shell : Shell) (text : String) : Shell := shell.writeOut text.toUTF8.data.toList

/-- Writes a text to standard error. -/
def sayErr (shell : Shell) (text : String) : Shell :=
  shell.writeTo shell.err text.toUTF8.data.toList

/-- The place that a path leads to from the current directory. -/
def locate (shell : Shell) (path : String) : Except FileFault Place :=
  let place := Path.mk path
  match FileSystem.checkText place with
  | .error fault => .error fault
  | .ok () =>
    if place.isAbsolute then shell.files.follow [] place.pieces
    else shell.files.follow shell.directory place.pieces

/-- What a path leads to. -/
def entryAt? (shell : Shell) (path : String) : Option Entry :=
  match shell.locate path with
  | .ok place => shell.files.found? place
  | .error _ => none

/-- The text of the current directory. -/
def directoryText (shell : Shell) : String := "/" ++ "/".intercalate shell.directory

/-! ### Expansion -/

/-- The number of the process. -/
def processNumber : Nat := 4242

/-- The value of a parameter, if it is set. -/
def parameter? (shell : Shell) (name : String) : Option String :=
  if name = "?" then some (toString shell.status)
  else if name = "#" then some (toString shell.arguments.length)
  else if name = "$" then some (toString processNumber)
  else if name = "!" then none
  else if name = "0" then some shell.zero
  else if name = "@" || name = "*" then some (" ".intercalate shell.arguments)
  else
    match name.toNat? with
    | some n => shell.arguments[n - 1]?
    | none => shell.valueOf? name

/-- Cuts what stands between the braces of a parameter into its name and what follows the name. -/
def splitParameter (text : String) : String × String :=
  let name := text.toList.takeWhile Arithmetic.isNameChar
  let size := max name.length 1
  ((text.take size).toString, (text.drop size).toString)

/-- The value of a parameter as it is written, with a text for when it is not set, or empty. -/
def parameterText (shell : Shell) (text : String) : String :=
  if text.startsWith "#" && 1 < text.length then
    toString ((shell.parameter? (text.drop 1).toString).getD "").length
  else
    let (name, rest) := splitParameter text
    let value := shell.parameter? name
    let filled := value.filter fun value => !value.isEmpty
    match rest.toList with
    | ':' :: '-' :: other => filled.getD (String.ofList other)
    | ':' :: '=' :: other => filled.getD (String.ofList other)
    | '-' :: other => value.getD (String.ofList other)
    | '=' :: other => value.getD (String.ofList other)
    | ':' :: '+' :: other => if filled.isSome then String.ofList other else ""
    | '+' :: other => if value.isSome then String.ofList other else ""
    | _ => value.getD ""

/-- The text of an arithmetic expression's value. -/
def arithmeticText (shell : Shell) (text : String) : String :=
  let value (name : String) : Int := ((shell.parameterText name).toInt?).getD 0
  toString ((Arithmetic.evaluate? value text).getD 0)

/-- Texts while a word is expanded: those that are finished, and the one that is being made. -/
structure Fields where
  finished : List String
  current : Option String

/-- Adds characters to the text that is being made. -/
def Fields.add (fields : Fields) (text : String) : Fields :=
  { fields with current := some (fields.current.getD "" ++ text) }

/-- Finishes the text that is being made, if there is one. -/
def Fields.cut (fields : Fields) : Fields :=
  match fields.current with
  | some text => ⟨fields.finished ++ [text], none⟩
  | none => fields

/-- Whether a character separates texts. -/
def isSeparator (c : Char) : Bool := c == ' ' || c == '\t' || c == '\n'

/-- Adds a text that is cut at blanks. -/
def Fields.addSplit (fields : Fields) (text : String) : Fields :=
  text.toList.foldl (fun fields c => if isSeparator c then fields.cut else fields.add c.toString)
    fields

/-- Adds texts one by one. -/
def Fields.addAll (add : Fields → String → Fields) : Fields → List String → Fields
  | fields, [] => fields
  | fields, [last] => add fields last
  | fields, first :: rest => Fields.addAll add (add fields first).cut rest

/-- Adds a part of a word. -/
def expandPart (shell : Shell) (fields : Fields) : WordPart → Fields
  | .plain text _ => fields.add text
  | .parameter name quoted =>
    if name = "@" && quoted then Fields.addAll Fields.add fields shell.arguments
    else if (name = "@" || name = "*") && !quoted then
      Fields.addAll Fields.addSplit fields shell.arguments
    else if quoted then fields.add (shell.parameterText name)
    else fields.addSplit (shell.parameterText name)
  | .arithmetic text quoted =>
    if quoted then fields.add (shell.arithmeticText text)
    else fields.addSplit (shell.arithmeticText text)

/-- Whether a word stands for all arguments and nothing else. -/
def isAllArguments (word : Word) : Bool :=
  word.contains (.parameter "@" true) &&
    word.all fun part => part == .parameter "@" true || part == .plain "" true

/-- The texts that a word becomes. -/
def expandWord (shell : Shell) (word : Word) : List String :=
  if isAllArguments word then shell.arguments
  else (word.foldl shell.expandPart ⟨[], none⟩).cut.finished

/-- The one text that a word becomes where it is not cut. -/
def expandWhole (shell : Shell) (word : Word) : String :=
  String.join (word.map fun
    | .plain text _ => text
    | .parameter name _ => shell.parameterText name
    | .arithmetic text _ => shell.arithmeticText text)

end Shell

end DeviceTrial.Sandbox
