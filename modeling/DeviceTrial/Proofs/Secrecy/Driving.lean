/-
**A process that is run twice with other secrets.**

Secrets go into the arguments of the process, and what the process then does is its own affair: it may
print, end and treat the files as it likes. What is logged of it apart from its output is `lastEvents`,
and two ends that look the same in a slot are followed by the same.

* `runIn_execute` — what becomes of a process, and what is logged of it;
* `lastEvents_eq` — ends that look the same in a slot look the same in the log;
* `paired_run` — **two runs of a descriptor**, from its file to the end of the process.
-/

import DeviceTrial.Proofs.Secrecy.Work
import DeviceTrial.Proofs.Trial.Record

namespace DeviceTrial

open DeviceTrial.Action DeviceTrial.Trial

variable {standing : Standing}

namespace Drive

/-- The faults with which a process can end, and those without an end of it. -/
inductive IsFault : TrialError → Prop where
  | launch (reason : String) : IsFault (.launchFailed reason)
  | system (reason : String) : IsFault (.system reason)
  | exit (code : Option Int) : IsFault (.driveFailed code)
  | timeout (seconds : Nat) : IsFault (.driveTimedOut seconds)

/-- The event that tells how a process ended. -/
def endEvent (program : String) (status : DriveStatus) (code : Option Int) : Event :=
  ⟨.info, .drive, Event.driveEnd,
    [("program", program), ("status", status.logName), ("exit_code", codeText code)]⟩

/-- What is logged at the end of a process with a fault. -/
def faultEvents (launch : Launch) : TrialError → List Event
  | .driveFailed code => [endEvent launch.program .nonZeroExit code]
  | .driveTimedOut _ =>
    [⟨.warn, .drive, "driven process timed out, killing it",
      [("program", launch.program), ("timeout_secs", toString launch.budgetSeconds)]⟩,
     endEvent launch.program .timeout none]
  | _ => []

/-- What a reason says of a code is all that the log says of it. -/
theorem codeText_of_exitText {code other : Option Int} (same : exitText code = exitText other) :
    codeText code = codeText other := by
  cases code with
  | none =>
    cases other with
    | none => rfl
    | some n =>
      have heads := congrArg (fun text => text.toList.head?) same
      simp [exitText, toString] at heads
  | some m =>
    cases other with
    | none =>
      have heads := congrArg (fun text => text.toList.head?) same
      simp [exitText, toString] at heads
    | some n =>
      have digits : toString m = toString n := (String.append_right_inj "code ").mp same
      rw [codeText, codeText, digits]

/-- **Faults that look the same in a slot look the same in the log.** -/
theorem faultEvents_eq (launch : Launch) {fault other : TrialError} (one : IsFault fault)
    (two : IsFault other) (same : fault.message = other.message) :
    faultEvents launch fault = faultEvents launch other := by
  obtain ⟨rest, opens⟩ := fault.exists_opening
  obtain ⟨more, opensToo⟩ := other.exists_opening
  have letters : ∀ n : Nat, (fault.opening ++ rest).toList[n]? = (other.opening ++ more).toList[n]? := by
    intro n
    rw [← opens, ← opensToo, same]
  -- the first letters tell whether there was an end, and the sixteenth which one
  have first := letters 0
  have later := letters 15
  cases one with
  | launch reason | system reason =>
    cases two with
    | launch _ | system _ => rfl
    | exit _ | timeout _ => simp [TrialError.opening] at first
  | exit code =>
    cases two with
    | launch _ | system _ => simp [TrialError.opening] at first
    | timeout _ => simp [TrialError.opening] at later
    | exit other =>
      have texts := (String.append_right_inj "driven process exited with ").mp same
      rw [faultEvents, faultEvents, endEvent, endEvent, codeText_of_exitText texts]
  | timeout seconds =>
    cases two with
    | launch _ | system _ => simp [TrialError.opening] at first
    | exit _ => simp [TrialError.opening] at later
    | timeout _ => rfl

/-- The fault with which a process ended, or without which it has no end. -/
def fault? (launch : Launch) : Except String Finish → Option TrialError
  | .error reason => some (.launchFailed (launch.program ++ ": " ++ reason))
  | .ok finish =>
    match finish.ending with
    | .exited code => if code = 0 then none else some (.driveFailed (some code))
    | .signalled => some (.driveFailed none)
    | .expired => some (.driveTimedOut launch.budgetSeconds)
    | .lost reason => some (.system reason)

theorem isFault_of_fault? {launch : Launch} {answer : Except String Finish} {fault : TrialError}
    (found : fault? launch answer = some fault) : IsFault fault := by
  unfold fault? at found
  repeat' split at found
  all_goals cases found
  all_goals constructor

/-- What is logged when a process has ended. -/
def lastEvents (launch : Launch) (answer : Except String Finish) : List Event :=
  match fault? launch answer with
  | none => [endEvent launch.program .passed (some 0)]
  | some fault => faultEvents launch fault

/-- The event about a part of the output. -/
def readingEvent : Channel × Reading → Event
  | (channel, .line text) => ⟨.info, .output, text, [("stream", channel.name)]⟩
  | (channel, .unreadable) => ⟨.warn, .drive, "stopped reading driven process output",
      [("stream", channel.name), ("error", "stream did not contain valid UTF-8")]⟩

/-- What is logged of the output of a process. -/
def readingEvents : Except String Finish → List Event
  | .error _ => []
  | .ok finish => finish.readings.map readingEvent

theorem only_readingEvents (answer : Except String Finish) :
    Log.Only .garbled (readingEvents answer) := by
  cases answer with
  | error reason => nofun
  | ok finish =>
    intro event inside
    obtain ⟨⟨channel, reading⟩, -, rfl⟩ := List.mem_map.mp inside
    cases reading with
    | line text => exact .inl rfl
    | unreadable => exact .inr rfl

/-- That an action ended as the process did. -/
inductive Judges (launch : Launch) (answer : Except String Finish)
    (fate : Fate TrialError DriveReport) : Prop where
  | passed (clean : fault? launch answer = none) (ended : judged fate = .done ()) :
    Judges launch answer fate
  | failed {fault : TrialError} (found : fault? launch answer = some fault)
      (ended : judged fate = .failed fault) : Judges launch answer fate

/-- **Ends that look the same in a slot look the same in the log.** -/
theorem lastEvents_eq {launch : Launch} {answer also : Except String Finish}
    {fate other : Fate TrialError DriveReport} (one : Judges launch answer fate)
    (two : Judges launch also other) (like : LikeEnds (judged fate) (judged other)) :
    lastEvents launch answer = lastEvents launch also := by
  unfold lastEvents
  cases one with
  | passed clean ended =>
    cases two with
    | passed cleanToo _ => rw [clean, cleanToo]
    | failed _ endedToo =>
      rw [ended, endedToo] at like
      cases like
  | failed found ended =>
    cases two with
    | passed _ endedToo =>
      rw [ended, endedToo] at like
      cases like
    | failed foundToo endedToo =>
      rw [ended, endedToo] at like
      rw [found, foundToo]
      cases like with
      | failed same =>
        exact faultEvents_eq launch (isFault_of_fault? found) (isFault_of_fault? foundToo) same

theorem Judges.with_arguments {launch : Launch} {answer : Except String Finish}
    {fate : Fate TrialError DriveReport} (judges : Judges launch answer fate)
    (others : List String) : Judges { launch with arguments := others } answer fate := by
  cases judges with
  | passed clean ended => exact .passed clean ended
  | failed found ended => exact .failed found ended

/-- What is done when a process was started, or could not be. -/
def afterLaunch (launch : Launch) (tailLimit : Nat) :
    Except String Finish → Action TrialError DriveReport
  | .error reason => Action.fail (.launchFailed (launch.program ++ ": " ++ reason))
  | .ok finish => do
    logReadings finish.readings
    let (status, code) ← Action.ofExcept (statusOf finish.ending)
    logExpiry launch finish.ending
    Action.log .info .drive Event.driveEnd
      [("program", launch.program), ("status", status.logName), ("exit_code", codeText code)]
    return ⟨status, code, tailOf tailLimit finish.readings, launch.budget⟩

theorem execute_eq (launch : Launch) (tailLimit : Nat) :
    execute launch tailLimit = Action.ask (.launch launch) >>= afterLaunch launch tailLimit := by
  refine congrArg (Action.ask (.launch launch) >>= ·) (funext fun answer => ?_)
  cases answer <;> rfl

section Runs

variable {σ : Type} (host : Host σ) (world : World σ)

theorem runIn_logReadings (readings : List (Channel × Reading)) :
    (logReadings readings).runIn host world =
      (.done (), { world with events := world.events ++ readings.map readingEvent }) := by
  induction readings generalizing world with
  | nil => rw [List.map_nil, List.append_nil]; rfl
  | cons entry rest step =>
    obtain ⟨channel, reading⟩ := entry
    rw [List.map_cons, List.append_cons]
    cases reading with
    | line text => exact step _
    | unreadable => exact step _

/-- **What becomes of a process**, and what is logged of it. -/
theorem runIn_afterLaunch (launch : Launch) (tailLimit : Nat) (answer : Except String Finish) :
    ∃ fate, (afterLaunch launch tailLimit answer).runIn host world = (fate,
        { world with events := world.events ++ readingEvents answer ++ lastEvents launch answer }) ∧
      Judges launch answer fate := by
  cases answer with
  | error reason =>
    refine ⟨.failed (.launchFailed (launch.program ++ ": " ++ reason)), ?_, .failed rfl rfl⟩
    show _ = (_, { world with events := world.events ++ [] ++ [] })
    rw [List.append_nil, List.append_nil]
    rfl
  | ok finish =>
    unfold afterLaunch
    rw [runIn_bind, runIn_logReadings, Fate.onward]
    obtain ⟨out, err, order, ending⟩ := finish
    cases ending with
    | exited code =>
      by_cases good : code = 0
      · subst good
        exact ⟨.done _, rfl, .passed rfl rfl⟩
      · have fault : fault? launch (.ok ⟨out, err, order, .exited code⟩) =
            some (.driveFailed (some code)) := if_neg good
        have status : statusOf (.exited code) = .ok (.nonZeroExit, some code) := by
          rw [statusOf, if_neg good]
        dsimp only
        rw [lastEvents, fault, status]
        exact ⟨.done _, rfl, .failed fault rfl⟩
    | signalled => exact ⟨.done _, rfl, .failed rfl rfl⟩
    | expired =>
      refine ⟨.done ⟨.timeout, none, tailOf tailLimit (Finish.mk out err order .expired).readings,
        launch.budget⟩, ?_, .failed rfl rfl⟩
      show _ = (_, { world with events := world.events ++ _ ++ [_, _] })
      rw [List.append_cons]
      rfl
    | lost reason =>
      refine ⟨.failed (.system reason), ?_, .failed rfl rfl⟩
      show _ = (_, { world with events := world.events ++ _ ++ [] })
      rw [List.append_nil]
      rfl

/-- **What becomes of a process**, and what it leaves. -/
theorem runIn_execute (launch : Launch) (tailLimit : Nat) :
    ∃ fate, (execute launch tailLimit).runIn host world = (fate,
        { (host.handle (.launch launch) world).2 with
          events := (host.handle (.launch launch) world).2.events ++
            readingEvents (host.handle (.launch launch) world).1 ++
            lastEvents launch (host.handle (.launch launch) world).1 }) ∧
      Judges launch (host.handle (.launch launch) world).1 fate := by
  rw [execute_eq]
  exact runIn_afterLaunch host _ launch tailLimit _

end Runs

/-- **Running a process**, of which the arguments may differ. -/
theorem paired_execute (launch : Launch) (others : List String) (tailLimit : Nat)
    (clean : .garbled ∉ standing.strayed) :
    Paired (World.Twins standing) (execute launch tailLimit)
      (execute { launch with arguments := others } tailLimit) fun fate one other two =>
        LikeEnds (judged fate) (judged other) → World.Twins (standing.astray .garbled) one two := by
  intro connect start process tag one two twins
  generalize same : { launch with arguments := others } = changed
  obtain ⟨fate, run, judges⟩ := runIn_execute (.inMemory connect start tag) one launch tailLimit
  obtain ⟨other, runToo, judgesToo⟩ :=
    runIn_execute (.inMemory connect process tag) two changed tailLimit
  rw [run, runToo]
  subst same
  intro like
  -- nothing that is logged of an end depends on the arguments
  have ends := lastEvents_eq judges (judgesToo.with_arguments launch.arguments) like
  have strays := twins.stray clean (only_readingEvents (start launch one.files).1)
    (only_readingEvents (process { launch with arguments := others } two.files).1)
    (start launch one.files).2 (process { launch with arguments := others } two.files).2
  exact { strays with logs := ends ▸ strays.logs.append _ }

/-! ### Before the process -/

theorem paired_resolveArguments (bindings : Bindings) (arguments : List Argument) :
    Paired (World.Twins standing) (resolveArguments bindings arguments)
      (resolveArguments bindings arguments) standing.Kept := by
  have one : ∀ argument, Paired (World.Twins standing) (resolveArgument bindings argument)
      (resolveArgument bindings argument) standing.Kept := by
    intro argument
    unfold resolveArgument
    split
    · exact (paired_resolveSecret _).bind
        (fun _ _ => .assume fun _ => .of_pure fun twins => .done twins) .stopped
    · exact .of_pure fun twins => .done twins
    · exact .of_pure fun twins => .done twins
  induction arguments with
  | nil => exact .of_pure fun twins => .done twins
  | cons argument rest step =>
    refine (one argument).bind (fun _ _ => ?_) .stopped
    exact step.bind (fun _ _ => .of_pure fun twins => .done twins) .stopped

/-- What is launched differs in its arguments alone. -/
theorem paired_prepare (descriptor : Descriptor) (bindings : Bindings) (defaultSeconds : Nat) :
    Paired (World.Twins standing) (prepare descriptor bindings defaultSeconds)
      (prepare descriptor bindings defaultSeconds)
      (Both (fun launch other one two =>
          (∃ others, other = { launch with arguments := others }) ∧ World.Twins standing one two)
        (World.Twins standing)) :=
  (paired_resolveArguments bindings descriptor.arguments).bind
    (fun _ others => .of_pure fun twins => .done ⟨⟨others, rfl⟩, twins⟩) .stopped

/-- **Two runs of a descriptor.** -/
theorem paired_run (path : Path) (bindings : Bindings) (defaultSeconds tailLimit : Nat)
    (together : standing.parted = false) (clean : .garbled ∉ standing.strayed) :
    Paired (World.Twins standing) (run path bindings defaultSeconds tailLimit)
      (run path bindings defaultSeconds tailLimit) fun fate one other two =>
        LikeEnds (judged fate) (judged other) → World.Twins (standing.astray .garbled) one two := by
  have strays : ∀ {one two}, World.Twins standing one two →
      ∀ {stop halt : Fate TrialError DriveReport}, LikeEnds (judged stop) (judged halt) →
        World.Twins (standing.astray .garbled) one two :=
    fun twins _ _ _ => twins.astray .garbled
  have upkeep := allowsUpkeep_open standing.parted
  refine .same_bind (within_load (fun _ => Standing.files together _) path) (fun descriptor => ?_)
    fun _ twins => strays twins
  refine (paired_prepare descriptor bindings defaultSeconds).bind (fun launch other => ?_)
    fun _ twins => strays twins
  refine .assume fun ⟨others, same⟩ => ?_
  subst same
  refine .same_bind (.of_log upkeep.events (by nofun)) (fun _ => ?_) fun _ twins => strays twins
  exact paired_execute launch others tailLimit clean

end Drive

end DeviceTrial
