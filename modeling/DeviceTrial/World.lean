/-
**The surroundings of a program as a value.**

A `World` is the state that a program works on: a control plane, files, and what was logged, recorded
and printed so far. A `Host` says how the outside answers: the control plane, the processes and the
source of random tags.

* `handle` — the answer to each effect and the world after it;
* `Program.runIn` — a program run in a world.
-/

import DeviceTrial.Program

namespace DeviceTrial

/-- The state that a program works on. -/
structure World (σ : Type) where
  /-- The state of the control plane. -/
  plane : σ
  /-- The files. -/
  files : FileSystem
  /-- The events that were logged, in order. -/
  events : List Event
  /-- The metrics that were recorded, in order. -/
  samples : List Sample
  /-- The lines that were printed, in order. -/
  printed : List (Channel × String)
  /-- The number of random tags that were drawn. -/
  drawn : Nat

/-- A world in which nothing has happened yet. -/
def World.start {σ : Type} (plane : σ) (files : FileSystem) : World σ :=
  ⟨plane, files, [], [], [], 0⟩

/-- How the outside answers. -/
structure Host (σ : Type) where
  /-- The control plane. -/
  plane : Plane σ
  /-- Connecting to the control plane of a region, which finds its data endpoint. -/
  connect : String → σ → Reply String × σ
  /-- What a process does to the files, and how it ends; an error when it cannot be started. -/
  launch : Launch → FileSystem → Except String Finish × FileSystem
  /-- The random tags. -/
  tag : Nat → RunTag

/-- The outcome of an operation that changes the files; `files` is what stays when it fails. -/
def FileSystem.commit (files : FileSystem) (changed : Except FileFault FileSystem) :
    Except FileFault Unit × FileSystem :=
  match changed with
  | .ok after => (.ok (), after)
  | .error fault => (.error fault, files)

/-- Answers an operation on files. -/
def FileSystem.answer (files : FileSystem) : (request : FileRequest) → request.Answer × FileSystem
  | .read path => (files.readText path, files)
  | .write path content => files.commit (files.write path content.toUTF8)
  | .makeDirectories path => (files.attemptDirectories path).2.commit (files.makeDirectories path)
  | .restrict path => files.commit (files.restrict path)
  | .remove path => files.commit (files.remove path)
  | .rename source target => files.commit (files.rename source target)

/-- What was made before a fault stays. -/
theorem FileSystem.answer_makeDirectories (files : FileSystem) (path : Path) :
    files.answer (.makeDirectories path) = files.attemptDirectories path := by
  show (files.attemptDirectories path).2.commit (files.makeDirectories path) = _
  unfold FileSystem.makeDirectories
  generalize files.attemptDirectories path = attempt
  obtain ⟨_ | _, after⟩ := attempt <;> rfl

/-- Answers an effect in a world. -/
def Host.handle {σ : Type} (host : Host σ) : Program.Handler (World σ)
  | .call request, world =>
    let answered := host.plane.answer request world.plane
    (answered.1, { world with plane := answered.2 })
  | .connect region, world =>
    let answered := host.connect region world.plane
    (answered.1, { world with plane := answered.2 })
  | .file request, world =>
    let answered := world.files.answer request
    (answered.1, { world with files := answered.2 })
  | .launch launch, world =>
    let answered := host.launch launch world.files
    (answered.1, { world with files := answered.2 })
  | .log event, world => ((), { world with events := world.events ++ [event] })
  | .record sample, world => ((), { world with samples := world.samples ++ [sample] })
  | .recorded, world => (world.samples, world)
  | .print channel line, world =>
    ((), { world with printed := world.printed ++ [(channel, line)] })
  | .drawTag, world => (host.tag world.drawn, { world with drawn := world.drawn + 1 })

/-- Runs a program in a world. -/
def Program.runIn {σ α : Type} (host : Host σ) (program : Program α) (world : World σ) :
    α × World σ :=
  program.run host.handle world

/-- Runs an action in a world. -/
def Action.runIn {σ ε α : Type} (host : Host σ) (action : Action ε α) (world : World σ) :
    Fate ε α × World σ :=
  Program.runIn host action.program world

theorem Program.runIn_bind {σ α β : Type} (host : Host σ) (program : Program α)
    (next : α → Program β) (world : World σ) :
    (program >>= next).runIn host world =
      (next (program.runIn host world).1).runIn host (program.runIn host world).2 :=
  Program.run_bind host.handle program next world

end DeviceTrial
