/-
**From a selection to a plan.**

Before the control plane is asked for anything, the settings are loaded, the command line is laid over
them, the whole is checked, and the plan is made. Everything that goes wrong here ends the program.

* `layered` — the settings with the command line above them;
* `prepare` — the settings and the plan.
-/

import DeviceTrial.CommandLine.Selection
import DeviceTrial.Error.Abort
import DeviceTrial.Settings.Load

namespace DeviceTrial

/-- What the program finds around it. -/
structure Surroundings where
  /-- The variables that are set. -/
  environment : Variables
  /-- The directory that relative paths are seen from. -/
  directory : Path

/-- What is known before the control plane is asked for anything. -/
structure Prepared where
  /-- The settings. -/
  settings : Settings
  /-- The plan. -/
  plan : Plan

namespace Preparation

/-- The abort for a wrong setting that was met after the settings were loaded and checked. -/
def wrongSelection (fault : SettingError) : Abort := .settings fault.message

/-- The settings with the command line above them, which must be acceptable. -/
def layered (selection : CommandLine.Selection) (loaded : Settings) :
    Except SettingError Settings := do
  let settings := Settings.overlay selection.layer loaded
  settings.check
  return settings

/-- The tag of the run: the one that was given, or else a random one. -/
def tagOf : Option String → Action Abort RunTag
  | some text => (Action.ofExcept (RunTag.read text)).mapError wrongSelection
  | none => Action.ask .drawTag

/-- Loads the settings and makes the plan. -/
def prepare (selection : CommandLine.Selection) (around : Surroundings) :
    Action Abort Prepared := do
  let loaded ← (Settings.load selection.config around.environment).mapError .ofTrialError
  let settings ← (Action.ofExcept (layered selection loaded)).mapError fun fault =>
    .ofTrialError (.settings fault)
  let tag ← tagOf selection.tag
  let plan ← (Action.ofExcept (Plan.build around.directory settings
    (selection.request settings tag))).mapError wrongSelection
  return ⟨settings, plan⟩

end Preparation

end DeviceTrial
