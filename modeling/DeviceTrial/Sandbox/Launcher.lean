/-
**Simulated processes.**

A `Launch` is carried out without an operating system: a handful of programs is known, among them a
shell, and they work on a `FileSystem`. The launch fails as it would for a program, a directory or a
text that the system does not take.

The sandbox stands beside the program and is no part of it. Nothing outside of `DeviceTrial.Sandbox`
imports it, and no theorem speaks of it: a `Host` may launch processes in any way, and what is proved
of the program is proved of all hosts. It is there so that the program can be tried out with processes
that write, wait and fail.

* `launch` — what a launch gives, and the files after it.
-/

import DeviceTrial.Sandbox.Evaluation

namespace DeviceTrial.Sandbox

/-- The programs that are known. -/
def programs : List String :=
  ["sh", "echo", "printf", "true", "false", "cat", "sleep", "pwd", "ls", "rm", "mkdir", "touch",
   "test", "[", "kill", "seq", "head", "tail", "wc"]

/-- The directories in which the known programs are. -/
def programDirectories : List String := ["/bin", "/usr/bin"]

/-- Where programs are looked for when no variable says so. -/
def defaultSearch : List String := ["/usr/local/sbin", "/usr/local/bin"] ++ programDirectories

/-- The directories in which a launch looks for its program. -/
def searchPath (launch : Launch) : List String :=
  match launch.valueOf? "PATH" with
  | some text => Text.splitOn ':' text
  | none => defaultSearch

/-- The known program that a launch is for, or why there is none. -/
def programOf (launch : Launch) (files : FileSystem) : Except FileFault String :=
  if launch.program.toList.contains '/' then
    let parts := (Text.splitOn '/' launch.program).filter fun part => !part.isEmpty
    match parts.reverse with
    | name :: above =>
      let directory := "/" ++ "/".intercalate above.reverse
      if programDirectories.contains directory && programs.contains name then .ok name
      else
        match files.locate ⟨launch.program⟩ with
        | .ok place =>
          match files.found? place with
          | none => .error .notFound
          | some _ => .error (.other "Permission denied (os error 13)")
        | .error fault => .error fault
    | [] => .error (.other "Permission denied (os error 13)")
  else if programs.contains launch.program &&
      (searchPath launch).any fun directory => programDirectories.contains directory then
    .ok launch.program
  else .error .notFound

/-- Whether a text can be handed to a process. -/
def isPassable (text : String) : Bool := !text.toList.contains '\x00'

/-- The directory that a launch starts in. -/
def startDirectory (launch : Launch) (files : FileSystem) : Except FileFault Place :=
  match launch.directory with
  | none => .ok []
  | some path => do
    let place ← files.locate path
    files.needDirectory place
    return place

/-- The shell of a process before its first step. -/
def startShell (launch : Launch) (directory : Place) (files : FileSystem) : Shell where
  environment := launch.environment ++ [("PWD", "/" ++ "/".intercalate directory)]
  zero := launch.program
  arguments := []
  directory := directory
  files := files
  out := .channel .out
  err := .channel .err
  input := []
  written := []
  piped := []
  clock := 0
  budget := launch.budget
  status := 0
  ignored := []
  ending := none

/-- Runs the shell with its arguments. -/
def runShellProgram (shell : Shell) : List String → Shell
  | "-c" :: script :: rest =>
    match rest with
    | [] => shell.runScript script
    | zero :: arguments => { shell with zero := zero, arguments := arguments }.runScript script
  | "-c" :: [] =>
    { shell.sayErr "sh: 0: -c requires an argument\n" with ending := some (.exited 2) }
  | [] => shell.finish
  | path :: arguments =>
    match shell.entryAt? path with
    | some (.file content _) =>
      match String.fromUTF8? content with
      | some script => { shell with zero := path, arguments := arguments }.runScript script
      | none => { shell with ending := some (.exited 2) }
    | _ =>
      { shell.sayErr ("sh: 0: cannot open " ++ path ++ ": No such file\n") with
        ending := some (.exited 2) }

/-- Runs a known program. -/
def runProgram (shell : Shell) (name : String) (arguments : List String) : Shell :=
  if shell.budget = 0 then { shell with ending := some .expired }
  else if name = "sh" then runShellProgram shell arguments
  else if name = "echo" then (shell.runEchoProgram arguments).finish
  else ((shell.runBuiltin name arguments).getD shell).finish

/-- The bytes that were written to a channel. -/
def bytesTo (channel : Channel) (written : List (Channel × List UInt8)) : ByteArray :=
  ⟨((written.filter fun entry => entry.1 == channel).flatMap Prod.snd).toArray⟩

/-- The order in which the lines of the channels were finished. -/
def lineOrder (written : List (Channel × List UInt8)) : List Channel :=
  written.flatMap fun entry => (entry.2.filter (· == 10)).map fun _ => entry.1

/-- What a shell that is over amounts to. -/
def finishOf (shell : Shell) : Finish where
  out := bytesTo .out shell.written
  err := bytesTo .err shell.written
  order := lineOrder shell.written
  ending := shell.ending.getD (.exited shell.status)

/-- Carries out a launch. -/
def launch (request : Launch) (files : FileSystem) : Except String Finish × FileSystem :=
  let texts := request.program :: request.arguments ++
    request.environment.flatMap fun entry => [entry.1, entry.2]
  if !texts.all isPassable then (.error FileFault.invalidPath.message, files)
  else
    match startDirectory request files, programOf request files with
    | .error fault, _ => (.error fault.message, files)
    | _, .error fault => (.error fault.message, files)
    | .ok directory, .ok name =>
      let shell := runProgram (startShell request directory files) name request.arguments
      (.ok (finishOf shell), shell.files)

end DeviceTrial.Sandbox
