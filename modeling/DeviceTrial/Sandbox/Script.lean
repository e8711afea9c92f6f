/-
**Shell scripts as data.**

A script is a `Command`: simple commands put together by sequences, conditions, loops, pipes and
redirections. Words are kept in parts, since some parts are quoted and others still have to be
expanded.
-/

import DeviceTrial.Process.Launch

namespace DeviceTrial.Sandbox

/-- A part of a word. -/
inductive WordPart where
  /-- Characters that stand for themselves. -/
  | plain (text : String) (quoted : Bool)
  /-- The value of a parameter. -/
  | parameter (name : String) (quoted : Bool)
  /-- The value of an arithmetic expression. -/
  | arithmetic (text : String) (quoted : Bool)
deriving DecidableEq, Repr

/-- A word. -/
abbrev Word := List WordPart

/-- The text of a word that has no quotes and nothing to expand. -/
def bareText? : Word → Option String
  | [.plain text false] => some text
  | _ => none

/-- A redirection of an output channel, or of the input. -/
inductive Redirection where
  /-- A channel goes where another one goes. -/
  | merge (source target : Channel)
  /-- A channel goes into a file. -/
  | intoFile (channel : Channel) (append : Bool) (target : Word)
  /-- The input comes from a file. -/
  | fromFile (source : Word)
deriving DecidableEq, Repr

/-- A command. -/
inductive Command where
  /-- Does nothing. -/
  | nothing
  /-- Assignments, and then a program or a built-in command with its arguments. -/
  | simple (assignments : List (String × Word)) (words : List Word)
  /-- One command after the other. -/
  | sequence (first second : Command)
  /-- The second command if the first one succeeds. -/
  | both (first second : Command)
  /-- The second command if the first one fails. -/
  | either (first second : Command)
  /-- Turns success and failure around. -/
  | negate (command : Command)
  /-- The output of the first command is the input of the second. -/
  | pipe (first second : Command)
  /-- A command that is not waited for. -/
  | background (command : Command)
  /-- A command in a shell of its own. -/
  | subshell (command : Command)
  /-- A command for each of some words. -/
  | each (name : String) (words : List Word) (body : Command)
  /-- A command again and again, as long as a condition succeeds, or fails. -/
  | loop (whileSucceeds : Bool) (condition body : Command)
  /-- A command if a condition succeeds, and else another one. -/
  | choose (condition first second : Command)
  /-- A command with redirections. -/
  | redirected (command : Command) (redirections : List Redirection)
deriving DecidableEq, Repr

end DeviceTrial.Sandbox
