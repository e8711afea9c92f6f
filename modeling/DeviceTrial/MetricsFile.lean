/-
**Handing the metrics on.**

The recorded metrics are written to a file beside the one they are meant for, which then takes its
place, so that nobody reads half of them. That this fails is logged and changes nothing else.

* `partialPath` — the file that is written first;
* `handOn` — the writing, which cannot fail.
-/

import DeviceTrial.Program

namespace DeviceTrial

namespace MetricsFile

/-- The file that is written first. -/
def partialPath (path : Path) : Path := ⟨path.text ++ ".tmp"⟩

/-- Writes the recorded metrics to a path. -/
def write (path : Path) : Action FileFault Unit := do
  let samples ← Action.ask .recorded
  Action.makeParent path
  Action.fileStep (Action.file (.write (partialPath path) (exposition samples)))
  Action.fileStep (Action.file (.rename (partialPath path) path))
  Action.log .info .exposition "metrics written" [("path", path.text)]

/-- Writes the recorded metrics to a path; that it fails is only logged. -/
def handOn {ε : Type} (path : Path) : Action ε Unit := do
  match ← (write path).attempt with
  | .ok () => return ()
  | .error fault =>
    Action.log .warn .program "failed to write metrics file"
      [("path", path.text), ("error", fault.message)]

end MetricsFile

end DeviceTrial
