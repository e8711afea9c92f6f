/-
**Runs side by side in worlds that differ in their secrets.**

Two runs that start in such worlds may part where a value came from a secret, and come together again
after it. `Action.Paired` says of two actions what holds of their ends, wherever they are run side by
side; it is put together along the actions like a triple of one run. An action that neither reads a
secret nor starts a process is told nothing that is different in the two worlds, so that two runs of it
go alike.

* `World.Twins` — worlds in which two runs can go on alike, and what is known of their logs;
* `World.Twins.handle`, `Action.paired_same` — **one effect**, and an action, in two such worlds;
* `Action.paired_call` — calls that come out alike, be they the same or not;
* `Action.Paired.bind` — one after the other.
-/

import DeviceTrial.Proofs.Run.Confinement
import DeviceTrial.Proofs.Secrecy.Telling
import DeviceTrial.Proofs.Secrecy.Twins

namespace DeviceTrial

/-- What is known of two runs side by side. -/
structure Standing where
  /-- The secrets of the first run. -/
  secrets : Table String String
  /-- The secrets of the second run. -/
  others : Table String String
  /-- The condition under which they have logged the same. -/
  condition : Prop
  /-- Whether their files may differ. -/
  parted : Bool
  /-- The kinds of traces in which their logs may differ. -/
  strayed : List Trace

/-- What is known when the processes, or their files, have left traces of a kind. -/
def Standing.astray (trace : Trace) (standing : Standing) : Standing :=
  { standing with parted := true, strayed := trace :: standing.strayed }

/-- **That two worlds differ in their secrets alone**, and in what is known to have come of them. -/
structure World.Twins (standing : Standing) (one two : World (Interrupted Registry)) : Prop where
  absent : one.plane.meddling.IsAbsent
  absentToo : two.plane.meddling.IsAbsent
  planes : one.plane.state.contents.Twins two.plane.state.contents
  secrets : one.plane.state.secrets = standing.secrets
  others : two.plane.state.secrets = standing.others
  files : standing.parted = false → one.files = two.files
  logs : Log.Compares standing.condition standing.strayed one.events two.events

theorem World.Twins.astray {standing : Standing} {one two : World (Interrupted Registry)}
    (twins : World.Twins standing one two) (trace : Trace) :
    World.Twins (standing.astray trace) one two :=
  { twins with files := nofun, logs := twins.logs.mono (List.subset_cons_self _ _) }

theorem World.Twins.congr {standing : Standing} {one two : World (Interrupted Registry)}
    (twins : World.Twins standing one two) {condition : Prop}
    (same : standing.condition ↔ condition) :
    World.Twins { standing with condition := condition } one two :=
  { twins with logs := twins.logs.congr same }

/-- What each of the two runs did to its files, and the traces that it left. -/
theorem World.Twins.stray {standing : Standing} {one two : World (Interrupted Registry)}
    (twins : World.Twins standing one two) {trace : Trace} (clean : trace ∉ standing.strayed)
    {told others : List Event} (only : Log.Only trace told) (also : Log.Only trace others)
    (files filesToo : FileSystem) :
    World.Twins (standing.astray trace)
      { one with files := files, events := one.events ++ told }
      { two with files := filesToo, events := two.events ++ others } :=
  { twins with files := nofun, logs := twins.logs.stray clean only also }

/-- Whether the answer to an effect is the same in two such worlds. -/
def Effect.IsOpen (parted : Bool) : Effect → Prop
  | .call request => request.operation ≠ .getSecret
  | .file _ => parted = false
  | .log _ | .record _ | .print _ _ => True
  | .connect _ | .launch _ | .recorded | .drawTag => False

namespace World.Twins

variable {standing : Standing} {one two : World (Interrupted Registry)}
  (connect : String → Reply String)
  (launch process : Launch → FileSystem → Except String Finish × FileSystem) (tag : Nat → RunTag)

/-- **One call** that comes out alike. -/
theorem call (twins : World.Twins standing one two) (call other : Call)
    {agree : call.Answer → other.Answer → Prop}
    (agreed : Registry.Agreed agree (one.plane.state.contents.step call)
      (two.plane.state.contents.step other)) :
    Registry.Answers agree ((Host.inMemory connect launch tag).handle (.call call) one).1
        ((Host.inMemory connect process tag).handle (.call other) two).1 ∧
      World.Twins standing ((Host.inMemory connect launch tag).handle (.call call) one).2
        ((Host.inMemory connect process tag).handle (.call other) two).2 := by
  obtain ⟨answers, planes, secrets, others⟩ := twins.planes.served agreed twins.absent
    twins.absentToo (Interrupted.serves_answer one.plane call)
    (Interrupted.serves_answer two.plane other)
  refine ⟨answers, ?_, ?_, planes, secrets.trans twins.secrets, others.trans twins.others,
    twins.files, twins.logs⟩
  · have kept := Interrupted.meddling_answer one.plane call
    exact fun operation interruption meddles =>
      twins.absent operation interruption (kept ▸ meddles)
  · have kept := Interrupted.meddling_answer two.plane other
    exact fun operation interruption meddles =>
      twins.absentToo operation interruption (kept ▸ meddles)

/-- **One effect** that is answered the same. -/
theorem handle (twins : World.Twins standing one two) {effect : Effect}
    (same : effect.IsOpen standing.parted) :
    ((Host.inMemory connect launch tag).handle effect one).1 =
        ((Host.inMemory connect process tag).handle effect two).1 ∧
      World.Twins standing ((Host.inMemory connect launch tag).handle effect one).2
        ((Host.inMemory connect process tag).handle effect two).2 := by
  cases effect with
  | call call =>
    obtain ⟨answers, after⟩ :=
      twins.call connect launch process tag call call (twins.planes.step same)
    exact ⟨answers.eq, after⟩
  | file request =>
    have files := twins.files same
    refine ⟨?_, { twins with files := fun _ => ?_ }⟩
    · show (one.files.answer request).1 = (two.files.answer request).1
      rw [files]
    · show (one.files.answer request).2 = (two.files.answer request).2
      rw [files]
  | log event => exact ⟨rfl, { twins with logs := twins.logs.append [event] }⟩
  | record sample => exact ⟨rfl, { twins with }⟩
  | print channel line => exact ⟨rfl, { twins with }⟩
  | _ => cases same

/-- **A program** whose effects are all answered the same. -/
theorem run {α : Type} {program : Program α}
    (within : program.Within (Effect.IsOpen standing.parted))
    (twins : World.Twins standing one two) :
    (program.runIn (.inMemory connect launch tag) one).1 =
        (program.runIn (.inMemory connect process tag) two).1 ∧
      World.Twins standing (program.runIn (.inMemory connect launch tag) one).2
        (program.runIn (.inMemory connect process tag) two).2 := by
  induction within generalizing one two with
  | done value => exact ⟨rfl, twins⟩
  | @perform effect next here _ step =>
    obtain ⟨same, after⟩ := twins.handle connect launch process tag here
    have second : (Program.perform effect next).runIn (.inMemory connect process tag) two =
        (next ((Host.inMemory connect launch tag).handle effect one).1).runIn
          (.inMemory connect process tag)
          ((Host.inMemory connect process tag).handle effect two).2 := by
      rw [same]
      rfl
    rw [second]
    exact step _ after

end World.Twins

/-! ### Actions side by side -/

/-- What may hold of the worlds of two runs. -/
abbrev WorldRelation := World (Interrupted Registry) → World (Interrupted Registry) → Prop

/-- What may hold of the ends of two runs. -/
abbrev EndRelation (ε α β : Type) :=
  Fate ε α → World (Interrupted Registry) → Fate ε β → World (Interrupted Registry) → Prop

/-- **What holds of the ends of two actions**, wherever they are run side by side. -/
def Action.Paired {ε α β : Type} (before : WorldRelation) (first : Action ε α) (second : Action ε β)
    (after : EndRelation ε α β) : Prop :=
  ∀ (connect : String → Reply String)
    (launch process : Launch → FileSystem → Except String Finish × FileSystem)
    (tag : Nat → RunTag) (one two : World (Interrupted Registry)), before one two →
    after (first.runIn (.inMemory connect launch tag) one).1
      (first.runIn (.inMemory connect launch tag) one).2
      (second.runIn (.inMemory connect process tag) two).1
      (second.runIn (.inMemory connect process tag) two).2

/-- That two actions end with values of which something holds, or stop alike. -/
inductive Both {ε α β : Type} (valued : α → β → WorldRelation) (stopped : WorldRelation) :
    EndRelation ε α β where
  | done {value : α} {other : β} {one two : World (Interrupted Registry)}
      (holds : valued value other one two) : Both valued stopped (.done value) one (.done other) two
  | stopped {stop : Fate ε α} {halt : Fate ε β} {one two : World (Interrupted Registry)}
      (stops : stop.Stops halt) (holds : stopped one two) : Both valued stopped stop one halt two

/-- That two actions end with values, or stop alike, and that no more is known of the worlds. -/
abbrev Standing.Kept {ε α β : Type} (standing : Standing) : EndRelation ε α β :=
  Both (fun _ _ => World.Twins standing) (World.Twins standing)

/-- That two actions end with the same value, or stop alike, and that no more is known of the worlds. -/
abbrev Standing.Same {ε α : Type} (standing : Standing) : EndRelation ε α α :=
  Both (fun value other one two => value = other ∧ World.Twins standing one two)
    (World.Twins standing)

theorem Both.mono {ε α β : Type} {valued wanted : α → β → WorldRelation} {stopped : WorldRelation}
    (weaker : ∀ {value other one two}, valued value other one two → wanted value other one two)
    {fate : Fate ε α} {other : Fate ε β} {one two : World (Interrupted Registry)}
    (both : Both valued stopped fate one other two) : Both wanted stopped fate one other two := by
  cases both with
  | done holds => exact .done (weaker holds)
  | stopped stops holds => exact .stopped stops holds

/-- Two actions that give the same, if they give anything, have the same fate. -/
theorem Standing.same_iff {ε α : Type} {standing : Standing} {fate other : Fate ε α}
    {one two : World (Interrupted Registry)} :
    standing.Same fate one other two ↔ fate = other ∧ World.Twins standing one two := by
  constructor
  · rintro (⟨rfl, twins⟩ | ⟨stops, twins⟩)
    · exact ⟨rfl, twins⟩
    · exact ⟨stops.eq.symm, twins⟩
  · rintro ⟨rfl, twins⟩
    cases fate with
    | done value => exact .done ⟨rfl, twins⟩
    | failed fault => exact .stopped (.failed fault) twins
    | panicked message => exact .stopped (.panicked message) twins
    | hung => exact .stopped .hung twins

namespace Action

variable {ε δ α β γ ω : Type} {before : WorldRelation} {standing : Standing}

theorem paired_same {action : Action ε α}
    (within : action.Within (Effect.IsOpen standing.parted)) :
    Paired (World.Twins standing) action action standing.Same :=
  fun connect launch process tag _ _ twins =>
    Standing.same_iff.mpr (twins.run connect launch process tag within)

/-- **Calls that come out alike.** -/
theorem paired_call {call other : Call} {agree : call.Answer → other.Answer → Prop}
    (agreed : ∀ {one two : Registry}, one.Twins two → one.secrets = standing.secrets →
      two.secrets = standing.others → Registry.Agreed agree (one.step call) (two.step other)) :
    Paired (World.Twins standing) (Action.call call) (Action.call other)
      (Both (fun value also one two => agree value also ∧ World.Twins standing one two)
        (World.Twins standing)) := by
  intro connect launch process tag one two twins
  obtain ⟨answers, after⟩ := twins.call connect launch process tag call other
    (agreed twins.planes twins.secrets twins.others)
  rw [runIn_call, runIn_call]
  generalize ((Host.inMemory connect launch tag).handle (.call call) one).1 = reply at answers
  generalize ((Host.inMemory connect process tag).handle (.call other) two).1 = answer at answers
  cases answers with
  | ok agrees => exact .done ⟨agrees, after⟩
  | error fault => exact .stopped (.failed fault) after

namespace Paired

variable {front : Action ε α} {back : Action ε β} {next : α → Action ε γ}
  {following : β → Action ε ω}
  {middle : EndRelation ε α β} {after : EndRelation ε γ ω} {valued : α → β → WorldRelation}
  {stopped : WorldRelation}

theorem mono {earlier : WorldRelation} {later : EndRelation ε α β}
    (paired : Paired before front back middle) (enter : ∀ {one two}, earlier one two → before one two)
    (leave : ∀ {fate one other two}, middle fate one other two → later fate one other two) :
    Paired earlier front back later :=
  fun connect launch process tag one two holds =>
    leave (paired connect launch process tag one two (enter holds))

theorem of_pure {value : α} {other : β} (holds : ∀ {one two}, before one two →
    middle (.done value) one (.done other) two) :
    Paired before (pure value) (pure other) middle :=
  fun _ _ _ _ _ _ entered => holds entered

theorem of_fail {fault other : ε} (holds : ∀ {one two}, before one two →
    middle (.failed fault) one (.failed other) two) :
    Paired before (fail fault : Action ε α) (fail other : Action ε β) middle :=
  fun _ _ _ _ _ _ entered => holds entered

/-- What is known beforehand. -/
theorem assume {fact : Prop} (rest : fact → Paired before front back middle) :
    Paired (fun one two => fact ∧ before one two) front back middle :=
  fun connect launch process tag one two holds =>
    rest holds.1 connect launch process tag one two holds.2

/-- **What comes after two actions**, be it that they gave values or that they stopped. -/
theorem onward {next : Fate ε α → Action δ γ} {following : Fate ε β → Action δ ω}
    {after : EndRelation δ γ ω} (first : Paired before front back middle)
    (rest : ∀ fate other, Paired (fun one two => middle fate one other two) (next fate)
      (following other) after) :
    Paired before (Program.bind front next : Action δ γ) (Program.bind back following : Action δ ω)
      after := by
  intro connect launch process tag one two holds
  have run := runIn_onward (.inMemory connect launch tag) front next one
  have runToo := runIn_onward (.inMemory connect process tag) back following two
  rw [run, runToo]
  exact rest _ _ connect launch process tag _ _ (first connect launch process tag one two holds)

/-- **What comes after two actions** that give values or stop alike. -/
theorem onward_both {next : Fate ε α → Action δ γ} {following : Fate ε β → Action δ ω}
    {after : EndRelation δ γ ω} (first : Paired before front back (Both valued stopped))
    (rest : ∀ value other, Paired (valued value other) (next (.done value)) (following (.done other))
      after)
    (stops : ∀ {stop halt}, stop.Stops halt → Paired stopped (next stop) (following halt) after) :
    Paired before (Program.bind front next : Action δ γ) (Program.bind back following : Action δ ω)
      after := by
  refine first.onward fun fate other => ?_
  intro connect launch process tag one two both
  cases both with
  | done holds => exact rest _ _ connect launch process tag one two holds
  | stopped halts holds => exact stops halts connect launch process tag one two holds

/-- **One after the other**, when the first give values or stop alike. -/
theorem bind (first : Paired before front back (Both valued stopped))
    (rest : ∀ value other, Paired (valued value other) (next value) (following other) after)
    (stops : ∀ {stop halt one two}, stop.Stops halt → stopped one two → after stop one halt two) :
    Paired before (front >>= next) (back >>= following) after := by
  refine first.onward_both rest fun halts => ?_
  intro connect launch process tag one two holds
  cases halts with
  | failed fault => exact stops (.failed fault) holds
  | panicked message => exact stops (.panicked message) holds
  | hung => exact stops .hung holds

/-- What comes after an action that goes alike in both. -/
theorem same_bind {action : Action ε α} {next : α → Action ε γ} {following : α → Action ε ω}
    (within : action.Within (Effect.IsOpen standing.parted))
    (rest : ∀ value, Paired (World.Twins standing) (next value) (following value) after)
    (stops : ∀ {stop halt one two}, stop.Stops halt → World.Twins standing one two →
      after stop one halt two) :
    Paired (World.Twins standing) (action >>= next) (action >>= following) after :=
  (paired_same within).bind (fun value _ => .assume fun same => same ▸ rest value) stops

/-- An action that goes alike in both. -/
theorem of_same {action : Action ε α} (within : action.Within (Effect.IsOpen standing.parted)) :
    Paired (World.Twins standing) action action standing.Kept :=
  (paired_same within).mono id (.mono And.right)

/-- What comes after actions of which the failures were made into values. -/
theorem attempt_bind {next : Except ε α → Action δ γ} {following : Except ε β → Action δ ω}
    {after : EndRelation δ γ ω} (paired : Paired before front back (Both valued stopped))
    (rest : ∀ value other, Paired (valued value other) (next (.ok value)) (following (.ok other))
      after)
    (fails : ∀ fault, Paired stopped (next (.error fault)) (following (.error fault)) after)
    (stops : ∀ {stop halt one two}, stop.Stops halt → stopped one two → after stop one halt two) :
    Paired before (front.attempt >>= next) (back.attempt >>= following) after := by
  rw [attempt_bind_eq, attempt_bind_eq]
  refine paired.onward_both rest fun halts => ?_
  cases halts with
  | failed fault => exact fails fault
  | panicked message => exact fun _ _ _ _ _ _ holds => stops (.panicked message) holds
  | hung => exact fun _ _ _ _ _ _ holds => stops .hung holds

theorem mapError (change : ε → δ) (paired : Paired before front back (Both valued stopped)) :
    Paired before (front.mapError change) (back.mapError change) (Both valued stopped) := by
  rw [mapError_eq_bind, mapError_eq_bind]
  refine paired.onward_both (fun _ _ => .of_pure .done) fun halts => ?_
  cases halts with
  | failed fault => exact fun _ _ _ _ _ _ holds => .stopped (.failed _) holds
  | panicked message => exact fun _ _ _ _ _ _ holds => .stopped (.panicked message) holds
  | hung => exact fun _ _ _ _ _ _ holds => .stopped .hung holds

end Paired

end Action

end DeviceTrial
