/-
**The commands that a shell carries out by itself.**

Each command is given its arguments, and changes the state of the shell: what is written, the files,
the status. Commands that the system would start as programs are among them.

* `runBuiltin` — the command of a name, if it is known.
-/

import DeviceTrial.Sandbox.Format
import DeviceTrial.Sandbox.Shell

namespace DeviceTrial.Sandbox

namespace Shell

/-! ### Printing -/

/-- Says that a command failed, and how. -/
def complain (shell : Shell) (status : Nat) (text : String) : Shell :=
  (shell.sayErr ("sh: 1: " ++ text ++ "\n")).withStatus status

/-- Prints bytes, and the end of the line unless all output has ended. -/
def printUnescaped (shell : Shell) (ends : Bool) (unescaped : Unescaped) : Shell :=
  shell.writeOut (unescaped.bytes ++ if ends && !unescaped.stops then [10] else [])
    |>.withStatus 0

/-- Prints arguments with blanks between them, with the escapes that the shell's own command knows. -/
def runEcho (shell : Shell) (arguments : List String) : Shell :=
  match arguments with
  | "-n" :: rest => shell.printUnescaped false (unescapeText (" ".intercalate rest))
  | rest => shell.printUnescaped true (unescapeText (" ".intercalate rest))

/-- Whether an option consists of the letters that printing knows. -/
def isEchoOption (text : String) : Bool :=
  match text.toList with
  | '-' :: c :: rest => (c :: rest).all fun c => c == 'n' || c == 'e' || c == 'E'
  | _ => false

/-- Takes options of printing off: whether the line is ended, whether there are escapes. -/
def echoOptions : Bool → Bool → List String → Bool × Bool × List String
  | ends, escapes, [] => (ends, escapes, [])
  | ends, escapes, text :: rest =>
    if isEchoOption text then
      let ends := ends && !text.toList.contains 'n'
      let escapes := text.toList.foldl (fun escapes c =>
        if c == 'e' then true else if c == 'E' then false else escapes) escapes
      echoOptions ends escapes rest
    else (ends, escapes, text :: rest)

/-- Prints arguments as the program of that name does. -/
def runEchoProgram (shell : Shell) (arguments : List String) : Shell :=
  let (ends, escapes, arguments) := echoOptions true false arguments
  let text := " ".intercalate arguments
  shell.printUnescaped ends (if escapes then unescapeText text else ⟨textBytes text, false⟩)

/-- Says what is wrong with the arguments of a format. -/
def complainOfFormat (shell : Shell) (complaints : List String) : Shell :=
  complaints.foldl (fun shell text => shell.complain 1 ("printf: " ++ text)) shell

/-- Prints arguments as a format says. -/
def runPrintf (shell : Shell) : List String → Shell
  | [] => shell.complain 2 "printf: usage: printf format [arg ...]"
  | format :: arguments =>
    let formatted := formatAll format (arguments.length + 1) arguments
    ((shell.writeOut formatted.bytes).withStatus 0).complainOfFormat formatted.complaints

/-! ### Ending -/

/-- Ends the process with a code. -/
def runExit (shell : Shell) : List String → Shell
  | [] => { shell with ending := some (.exited shell.status) }
  | code :: _ =>
    match code.toNat? with
    | some n => { shell with status := n % 256, ending := some (.exited (n % 256)) }
    | none =>
      { shell.complain 2 ("exit: Illegal number: " ++ code) with ending := some (.exited 2) }

/-- The names and numbers of the signals that end a process. -/
def signals : List (String × String) :=
  [("1", "HUP"), ("2", "INT"), ("3", "QUIT"), ("6", "ABRT"), ("9", "KILL"), ("13", "PIPE"),
   ("14", "ALRM"), ("15", "TERM")]

/-- The name of a signal given by name or number. -/
def signalName? (text : String) : Option String :=
  let plain := if text.startsWith "SIG" then (text.drop 3).toString else text
  (signals.find? fun entry => entry.1 == plain || entry.2 == plain).map Prod.snd

/-- Sends a signal to the process itself. -/
def signal (shell : Shell) (name : String) : Shell :=
  if name != "KILL" && shell.ignored.contains name then shell.withStatus 0
  else { shell with ending := some .signalled }

/-- Sends a signal to processes, of which only the script's own exists. -/
def runKill (shell : Shell) (arguments : List String) : Shell :=
  let (name, targets) := match arguments with
    | "-s" :: name :: rest => (signalName? name, rest)
    | option :: rest =>
      if option.startsWith "-" then (signalName? (option.drop 1).toString, rest)
      else (some "TERM", option :: rest)
    | [] => (none, [])
  match name with
  | none => shell.complain 2 "kill: bad signal"
  | some name =>
    if targets.contains (toString processNumber) then shell.signal name
    else shell.complain 1 "kill: No such process"

/-! ### Time -/

/-- The milliseconds of a number of seconds with a fraction. -/
def milliseconds? (text : String) : Option Nat :=
  match Text.splitOn '.' text with
  | [whole] => whole.toNat?.map (· * 1000)
  | [whole, fraction] => do
    let seconds ← if whole.isEmpty then some 0 else whole.toNat?
    let part ← ((fraction ++ "000").take 3).toString.toNat?
    return seconds * 1000 + part
  | _ => none

/-- Lets time pass. -/
def runSleep (shell : Shell) (arguments : List String) : Shell :=
  match arguments.mapM milliseconds? with
  | none => shell.complain 1 "sleep: invalid time interval"
  | some times =>
    let clock := shell.clock + times.foldl (· + ·) 0
    let ending := if shell.budget ≤ clock then some Ending.expired else none
    { shell with clock := clock, ending := ending, status := 0 }

/-! ### Files -/

/-- Prints the input or files. -/
def runCat (shell : Shell) (arguments : List String) : Shell :=
  if arguments.isEmpty then (shell.writeOut shell.input).withStatus 0
  else arguments.foldl (fun shell path =>
    match shell.entryAt? path with
    | some (.file content _) => shell.writeOut content.data.toList
    | some .directory =>
      (shell.sayErr ("cat: " ++ path ++ ": Is a directory\n")).withStatus 1
    | none => (shell.sayErr ("cat: " ++ path ++ ": No such file or directory\n")).withStatus 1)
    (shell.withStatus 0)

/-- Changes the current directory. -/
def runCd (shell : Shell) (arguments : List String) : Shell :=
  let target := arguments.headD ((shell.valueOf? "HOME").getD "/")
  match shell.locate target with
  | .ok place =>
    if shell.files.isDirectoryAt place then
      let moved := { shell with directory := place, status := 0 }
      moved.assign "PWD" moved.directoryText
    else shell.complain 2 ("cd: can't cd to " ++ target)
  | .error _ => shell.complain 2 ("cd: can't cd to " ++ target)

/-- Makes directories. -/
def runMkdir (shell : Shell) (arguments : List String) : Shell :=
  let withParents := arguments.contains "-p"
  let targets := arguments.filter fun text => !text.startsWith "-"
  targets.foldl (fun shell path =>
    let fail (shell : Shell) : Shell :=
      (shell.sayErr ("mkdir: cannot create directory '" ++ path ++ "'\n")).withStatus 1
    let make (start : Place) (names : List String) : Shell :=
      let (outcome, files) := shell.files.makeAlong false start names
      let after := { shell with files := files }
      if outcome.isOk then after else fail after
    let start := if (Path.mk path).isAbsolute then [] else shell.directory
    match shell.locate path with
    | .ok place =>
      if withParents || (shell.files.found? place).isNone then make [] place else fail shell
    | .error _ =>
      if withParents then make start (Path.mk path).pieces else fail shell) (shell.withStatus 0)

/-- Makes files that do not exist yet. -/
def runTouch (shell : Shell) (arguments : List String) : Shell :=
  arguments.foldl (fun shell path =>
    match shell.locate path with
    | .ok place =>
      if (shell.files.found? place).isSome then shell
      else { shell with files := appendTo shell.files place [] }
    | .error _ =>
      (shell.sayErr ("touch: cannot touch '" ++ path ++ "': No such file or directory\n"))
        |>.withStatus 1) (shell.withStatus 0)

/-- Lists a directory. -/
def runLs (shell : Shell) (arguments : List String) : Shell :=
  let target := (arguments.filter fun text => !text.startsWith "-").headD "."
  match shell.locate target with
  | .error _ => (shell.sayErr ("ls: cannot access '" ++ target ++ "': No such file or directory\n"))
      |>.withStatus 2
  | .ok place =>
    match shell.files.found? place with
    | none => (shell.sayErr ("ls: cannot access '" ++ target ++
        "': No such file or directory\n")).withStatus 2
    | some (.file _ _) => (shell.sayOut (target ++ "\n")).withStatus 0
    | some .directory =>
      let names := (shell.files.listing place).filterMap fun entry =>
        match entry.1 with
        | [name] => if name.startsWith "." then none else some (name ++ "\n")
        | _ => none
      (shell.sayOut (String.join names)).withStatus 0

/-- Removes files. -/
def runRm (shell : Shell) (arguments : List String) : Shell :=
  let force := arguments.any fun text => text.startsWith "-" && text.toList.contains 'f'
  let targets := arguments.filter fun text => !text.startsWith "-"
  targets.foldl (fun shell path =>
    match shell.locate path with
    | .ok place =>
      match shell.files.found? place with
      | some (.file _ _) => { shell with files := ⟨shell.files.entries.erase place⟩ }
      | some .directory =>
        (shell.sayErr ("rm: cannot remove '" ++ path ++ "': Is a directory\n")).withStatus 1
      | none =>
        if force then shell
        else (shell.sayErr ("rm: cannot remove '" ++ path ++
          "': No such file or directory\n")).withStatus 1
    | .error _ =>
      if force then shell
      else (shell.sayErr ("rm: cannot remove '" ++ path ++
        "': No such file or directory\n")).withStatus 1) (shell.withStatus 0)

/-! ### Conditions -/

/-- The truth of a condition. -/
def condition (shell : Shell) : List String → Bool
  | [] => false
  | [text] => !text.isEmpty
  | ["!", text] => text.isEmpty
  | ["-n", text] => !text.isEmpty
  | ["-z", text] => text.isEmpty
  | ["-e", path] => (shell.entryAt? path).isSome
  | ["-f", path] => match shell.entryAt? path with
    | some (.file _ _) => true
    | _ => false
  | ["-d", path] => shell.entryAt? path = some .directory
  | ["-s", path] => match shell.entryAt? path with
    | some (.file content _) => 0 < content.size
    | some .directory => true
    | none => false
  | ["-r", path] => (shell.entryAt? path).isSome
  | "!" :: rest => !shell.condition rest
  | [a, b, "-a", c, d] => shell.condition [a, b] && shell.condition [c, d]
  | [a, b, "-o", c, d] => shell.condition [a, b] || shell.condition [c, d]
  | [left, "=", right] => left == right
  | [left, "!=", right] => left != right
  | [left, "-eq", right] => left.toInt? == right.toInt?
  | [left, "-ne", right] => left.toInt? != right.toInt?
  | [left, "-lt", right] => (left.toInt?.getD 0) < (right.toInt?.getD 0)
  | [left, "-le", right] => (left.toInt?.getD 0) ≤ (right.toInt?.getD 0)
  | [left, "-gt", right] => (right.toInt?.getD 0) < (left.toInt?.getD 0)
  | [left, "-ge", right] => (right.toInt?.getD 0) ≤ (left.toInt?.getD 0)
  | _ => false

/-- Decides a condition. -/
def runTest (shell : Shell) (arguments : List String) : Shell :=
  shell.withStatus (if shell.condition arguments then 0 else 1)

/-! ### The state of the shell -/

/-- Ignores signals, when the action for them is empty. -/
def runTrap (shell : Shell) : List String → Shell
  | "" :: names => { shell with ignored := shell.ignored ++ names.filterMap signalName?, status := 0 }
  | _ => shell.withStatus 0

/-- Gives variables to the programs that are started. -/
def runExport (shell : Shell) (arguments : List String) : Shell :=
  arguments.foldl (fun shell text =>
    match Text.cut "=" text with
    | some (name, value) => shell.assign name value
    | none => shell) (shell.withStatus 0)

/-- Takes the values of variables away. -/
def runUnset (shell : Shell) (arguments : List String) : Shell :=
  { shell with
    environment := shell.environment.filter fun entry => !arguments.contains entry.1
    status := 0 }

/-- Sets the arguments of the script; other settings of the shell have no effect. -/
def runSet (shell : Shell) : List String → Shell
  | "--" :: arguments => { shell with arguments := arguments, status := 0 }
  | _ => shell.withStatus 0

/-- Takes arguments of the script off. -/
def runShift (shell : Shell) (arguments : List String) : Shell :=
  let count := (arguments.head?.bind String.toNat?).getD 1
  if shell.arguments.length < count then
    { shell.complain 2 "shift: can't shift that many" with ending := some (.exited 2) }
  else { shell with arguments := shell.arguments.drop count, status := 0 }

/-- Reads a line of the input into variables; the last one takes all that is left. -/
def assignWords (shell : Shell) : List String → List String → Shell
  | [], _ => shell
  | [name], words => shell.assign name (" ".intercalate words)
  | name :: names, words => assignWords (shell.assign name (words.headD "")) names words.tail

/-- Reads a line of the input. -/
def runRead (shell : Shell) (arguments : List String) : Shell :=
  let names := arguments.filter fun text => !text.startsWith "-"
  let line := shell.input.takeWhile (· != 10)
  let rest := shell.input.dropWhile (· != 10)
  let text := (String.fromUTF8? ⟨line.toArray⟩).getD ""
  let words := (text.splitOn " ").filter fun word => !word.isEmpty
  let after := { shell with input := rest.drop 1 }.assignWords names words
  after.withStatus (if rest.isEmpty then 1 else 0)

/-- Prints numbers, line by line. -/
def runSeq (shell : Shell) (arguments : List String) : Shell :=
  let range (first last : Nat) : String :=
    String.join ((List.range (last + 1 - first)).map fun i => toString (first + i) ++ "\n")
  match arguments.mapM String.toNat? with
  | some [last] => (shell.sayOut (range 1 last)).withStatus 0
  | some [first, last] => (shell.sayOut (range first last)).withStatus 0
  | _ => (shell.sayErr "seq: invalid argument\n").withStatus 1

/-- The lines of bytes, with their ends. -/
def linesOf (bytes : List UInt8) : List (List UInt8) :=
  let (lines, last) := bytes.foldl (fun (lines, line) byte =>
    if byte == 10 then (lines ++ [line ++ [byte]], []) else (lines, line ++ [byte])) ([], [])
  if last.isEmpty then lines else lines ++ [last]

/-- Prints the first lines or bytes of the input. -/
def runHead (shell : Shell) (arguments : List String) : Shell :=
  let lines (count : Nat) : Shell :=
    (shell.writeOut ((linesOf shell.input).take count).flatten).withStatus 0
  let numberOf (text : String) : Nat := text.toNat?.getD 10
  match arguments with
  | [] => lines 10
  | "-n" :: count :: _ => lines (numberOf count)
  | "-c" :: count :: _ => (shell.writeOut (shell.input.take (numberOf count))).withStatus 0
  | option :: _ => lines (numberOf (option.drop (if option.startsWith "-n" then 2 else 1)).toString)

/-- Prints the last lines of the input. -/
def runTail (shell : Shell) (arguments : List String) : Shell :=
  let numberOf (text : String) : Nat := text.toNat?.getD 10
  let count := match arguments with
    | "-n" :: count :: _ => numberOf count
    | option :: _ => numberOf (option.drop 1).toString
    | [] => 10
  let lines := linesOf shell.input
  (shell.writeOut (lines.drop (lines.length - count)).flatten).withStatus 0

/-- Counts the lines or bytes of the input. -/
def runWc (shell : Shell) (arguments : List String) : Shell :=
  let count := if arguments.contains "-l" then shell.input.count 10 else shell.input.length
  (shell.sayOut (toString count ++ "\n")).withStatus 0

/-- Runs a command that the shell knows; `none` when it does not know it. -/
def runBuiltin (shell : Shell) (name : String) (arguments : List String) : Option Shell :=
  match name with
  | ":" | "true" | "wait" => some (shell.withStatus 0)
  | "false" => some (shell.withStatus 1)
  | "echo" => some (shell.runEcho arguments)
  | "printf" => some (shell.runPrintf arguments)
  | "exit" => some (shell.runExit arguments)
  | "kill" => some (shell.runKill arguments)
  | "sleep" => some (shell.runSleep arguments)
  | "cat" => some (shell.runCat arguments)
  | "cd" => some (shell.runCd arguments)
  | "pwd" => some ((shell.sayOut (shell.directoryText ++ "\n")).withStatus 0)
  | "ls" => some (shell.runLs arguments)
  | "rm" => some (shell.runRm arguments)
  | "mkdir" => some (shell.runMkdir arguments)
  | "touch" => some (shell.runTouch arguments)
  | "test" => some (shell.runTest arguments)
  | "[" => some (shell.runTest arguments.dropLast)
  | "trap" => some (shell.runTrap arguments)
  | "export" => some (shell.runExport arguments)
  | "unset" => some (shell.runUnset arguments)
  | "set" => some (shell.runSet arguments)
  | "shift" => some (shell.runShift arguments)
  | "read" => some (shell.runRead arguments)
  | "umask" => some ((shell.sayOut "0022\n").withStatus 0)
  | "seq" => some (shell.runSeq arguments)
  | "head" => some (shell.runHead arguments)
  | "tail" => some (shell.runTail arguments)
  | "wc" => some (shell.runWc arguments)
  | _ => none

end Shell

end DeviceTrial.Sandbox
