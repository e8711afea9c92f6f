/-
**The errands of a run.**

An errand is something that a program has others do, together with what came of it: a call to the
control plane, a text that is read, a process. Log events, metrics and writing to files are no
errands.

* `Breaks seen script` — errands that went as a script has it up to one that failed, with which they
  end; `Follows` also allows to stop before anything failed;
* `shows_call_iff` — a call is one errand, and its reply decides the fate of the call;
* `shows_log_bind_iff` and its like — what is no errand is not seen.
-/

import DeviceTrial.Descriptor
import DeviceTrial.Proofs.Run.History

namespace DeviceTrial

/-- Whether an operation is one of the five that take an identity away. -/
def Operation.isTeardown : Operation → Bool
  | .listPrincipals | .detachPrincipal | .deactivateCertificate | .deleteCertificate
  | .deleteThing => true
  | _ => false

/-- Whether an operation only looks at the control plane. -/
def Operation.isReading : Operation → Bool
  | .getSecret | .describeThing | .describeJob | .fetchShadow => true
  | _ => false

/-- Something that a program has others do, and what came of it. -/
inductive Errand where
  /-- A call to the control plane. -/
  | call (call : Call) (reply : Reply call.Answer)
  /-- Connecting to the control plane of a region. -/
  | connect (region : String) (reply : Reply String)
  /-- Reading a text. -/
  | reading (path : Path) (content : Except FileFault String)
  /-- A process, started and waited for. -/
  | process (launch : Launch) (outcome : Except String Finish)

namespace Errand

/-- What an errand asks for. -/
def effect : Errand → Effect
  | call request _ => .call request
  | connect region _ => .connect region
  | reading path _ => .file (.read path)
  | process launch _ => .launch launch

/-- The operation of the control plane that an errand calls. -/
def operation? : Errand → Option Operation
  | call request _ => some request.operation
  | _ => none

theorem operation?_eq {left right : Errand} (same : left.effect = right.effect) :
    left.operation? = right.operation? := by
  cases left <;> cases right <;> cases same <;> rfl

theorem exists_reply {errand : Errand} {request : Call} {expected : Reply request.Answer}
    (same : errand.effect = (call request expected).effect) :
    ∃ reply, errand = .call request reply := by
  cases errand <;> cases same
  exact ⟨_, rfl⟩

/-- That an errand calls none of the operations that take an identity away. -/
def IsForward (errand : Errand) : Prop :=
  ∀ operation, errand.operation? = some operation → operation.isTeardown = false

/-- That an errand calls nothing but operations that look at the control plane. -/
def IsReading (errand : Errand) : Prop :=
  ∀ operation, errand.operation? = some operation → operation.isReading = true

theorem IsReading.forward {errand : Errand} (reading : errand.IsReading) : errand.IsForward := by
  intro operation called
  have reads := reading operation called
  cases operation <;> simp [Operation.isReading, Operation.isTeardown] at reads ⊢

/-- That an errand takes nothing away, or nothing but a certificate. -/
def OnlyDiscards (errand : Errand) : Prop :=
  ∀ operation, errand.operation? = some operation → operation.isTeardown = true →
    operation = .deactivateCertificate ∨ operation = .deleteCertificate

theorem IsForward.onlyDiscards {errand : Errand} (forward : errand.IsForward) :
    errand.OnlyDiscards := by
  intro operation called teardown
  cases (forward operation called).symm.trans teardown

theorem OnlyDiscards.ne {errand : Errand} (discards : errand.OnlyDiscards) {operation : Operation}
    (teardown : operation.isTeardown = true)
    (other : operation ≠ .deactivateCertificate ∧ operation ≠ .deleteCertificate) :
    errand.operation? ≠ some operation := by
  intro called
  exact (discards operation called teardown).elim other.1 other.2

@[simp] theorem isForward_call_iff (request : Call) (reply : Reply request.Answer) :
    (call request reply).IsForward ↔ request.operation.isTeardown = false := by
  simp [IsForward, operation?]

@[simp] theorem isReading_call_iff (request : Call) (reply : Reply request.Answer) :
    (call request reply).IsReading ↔ request.operation.isReading = true := by
  simp [IsReading, operation?]

@[simp] theorem isReading_reading (path : Path) (content : Except FileFault String) :
    (reading path content).IsReading := nofun

@[simp] theorem isReading_process (launch : Launch) (outcome : Except String Finish) :
    (process launch outcome).IsReading := nofun

/-- Looking at errands. -/
def view : View Errand
  | .call request, reply => some (call request reply)
  | .connect region, reply => some (connect region reply)
  | .file (.read path), content => some (reading path content)
  | .launch launch, outcome => some (process launch outcome)
  | _, _ => none

/-- Whether an errand came out as it should: a call gave its answer, a descriptor could be read, a
process ended with code zero in time. -/
def Succeeds : Errand → Prop
  | call _ reply => ∃ value, reply = .ok value
  | connect _ reply => ∃ value, reply = .ok value
  | reading _ content => ∃ text descriptor, content = .ok text ∧
      Descriptor.read text = .ok descriptor
  | process _ outcome => ∃ finish, outcome = .ok finish ∧ finish.ending = .exited 0

@[simp] theorem succeeds_call_iff (request : Call) (reply : Reply request.Answer) :
    (call request reply).Succeeds ↔ ∃ value, reply = .ok value := Iff.rfl

/-! ### Scripts -/

/-- That errands go as a script has it up to one that fails, and end there. -/
inductive Breaks : List Errand → List Errand → Prop where
  | here {failed meant : Errand} {rest : List Errand} (same : failed.effect = meant.effect)
      (fails : ¬ failed.Succeeds) : Breaks [failed] (meant :: rest)
  | later (errand : Errand) {seen script : List Errand} (rest : Breaks seen script) :
      Breaks (errand :: seen) (errand :: script)

/-- That errands go as a script has it until they stop, or until one fails. -/
def Follows (seen script : List Errand) : Prop := seen <+: script ∨ Breaks seen script

theorem Breaks.after (front : List Errand) {seen script : List Errand}
    (breaks : Breaks seen script) :
    Breaks (front ++ seen) (front ++ script) := by
  induction front with
  | nil => exact breaks
  | cons errand _ step => exact .later errand step

theorem Breaks.extend {seen script : List Errand} (breaks : Breaks seen script)
    (more : List Errand) : Breaks seen (script ++ more) := by
  induction breaks with
  | here same fails => exact .here same fails
  | later errand _ step => exact .later errand step

/-- A script that breaks has an errand that failed. -/
theorem Breaks.fails {seen script : List Errand} (breaks : Breaks seen script) :
    ∃ errand ∈ seen, ¬ errand.Succeeds := by
  induction breaks with
  | here same fails => exact ⟨_, List.mem_cons_self, fails⟩
  | later errand _ step =>
    obtain ⟨failed, inside, fails⟩ := step
    exact ⟨failed, List.mem_cons_of_mem _ inside, fails⟩

/-- A script breaks at its first errand or after it. -/
theorem breaks_cons_iff {seen rest : List Errand} {meant : Errand} :
    Breaks seen (meant :: rest) ↔
      (∃ failed, seen = [failed] ∧ failed.effect = meant.effect ∧ ¬ failed.Succeeds) ∨
        ∃ more, seen = meant :: more ∧ Breaks more rest := by
  constructor
  · intro breaks
    cases breaks with
    | here same fails => exact .inl ⟨_, rfl, same, fails⟩
    | later errand deeper => exact .inr ⟨_, rfl, deeper⟩
  · rintro (⟨failed, rfl, same, fails⟩ | ⟨more, rfl, deeper⟩)
    · exact .here same fails
    · exact .later meant deeper

/-- Two scripts one after the other break in the first or in the second. -/
theorem breaks_append_iff {seen first second : List Errand} :
    Breaks seen (first ++ second) ↔
      Breaks seen first ∨ ∃ more, seen = first ++ more ∧ Breaks more second := by
  constructor
  · intro breaks
    induction first generalizing seen with
    | nil => exact .inr ⟨seen, rfl, breaks⟩
    | cons meant rest step =>
      rcases breaks_cons_iff.mp breaks with ⟨failed, rfl, same, fails⟩ | ⟨more, rfl, deeper⟩
      · exact .inl (.here same fails)
      · rcases step deeper with early | ⟨last, rfl, late⟩
        · exact .inl (.later meant early)
        · exact .inr ⟨last, rfl, late⟩
  · rintro (early | ⟨more, rfl, late⟩)
    · exact early.extend second
    · exact late.after first

theorem Follows.after (front : List Errand) {seen script : List Errand}
    (follows : Follows seen script) : Follows (front ++ seen) (front ++ script) :=
  follows.imp (List.prefix_append_right_inj front).mpr (Breaks.after front)

/-- Every errand asks for something that the script asks for. -/
theorem Follows.effect_mem {seen script : List Errand} (follows : Follows seen script) :
    ∀ errand ∈ seen, ∃ meant ∈ script, errand.effect = meant.effect := by
  rcases follows with initial | breaks
  · exact fun errand inside => ⟨errand, initial.subset inside, rfl⟩
  · induction breaks with
    | here same fails =>
      intro errand inside
      obtain rfl := List.mem_singleton.mp inside
      exact ⟨_, List.mem_cons_self, same⟩
    | later first _ step =>
      intro errand inside
      rcases List.mem_cons.mp inside with rfl | deeper
      · exact ⟨_, List.mem_cons_self, rfl⟩
      · obtain ⟨meant, found, same⟩ := step errand deeper
        exact ⟨meant, List.mem_cons_of_mem _ found, same⟩

/-- What is true of the operations of a script is true of what follows it. -/
theorem Follows.operations {seen script : List Errand} (follows : Follows seen script)
    (allowed : Option Operation → Prop) (all : ∀ errand ∈ script, allowed errand.operation?) :
    ∀ errand ∈ seen, allowed errand.operation? := by
  intro errand inside
  obtain ⟨meant, found, same⟩ := follows.effect_mem errand inside
  rw [operation?_eq same]
  exact all meant found

theorem Follows.forward {seen script : List Errand} (follows : Follows seen script)
    (all : ∀ errand ∈ script, errand.IsForward) : ∀ errand ∈ seen, errand.IsForward :=
  follows.operations (∀ operation, · = some operation → operation.isTeardown = false) all

theorem Follows.reading {seen script : List Errand} (follows : Follows seen script)
    (all : ∀ errand ∈ script, errand.IsReading) : ∀ errand ∈ seen, errand.IsReading :=
  follows.operations (∀ operation, · = some operation → operation.isReading = true) all

/-- An errand that fails is no part of errands that come out as they should. -/
theorem refused_notMem {errands : List Errand} (succeeds : ∀ errand ∈ errands, errand.Succeeds)
    (request : Call) (fault : PlaneError) : .call request (.error fault) ∉ errands := by
  intro inside
  obtain ⟨_, same⟩ := succeeds _ inside
  cases same

end Errand

/-! ### Fates -/

/-- What a reply makes of the call. -/
def Reply.fate {α : Type} : Reply α → Fate PlaneError α
  | .ok value => .done value
  | .error fault => .failed fault
  | .panic message => .panicked message
  | .hang => .hung

/-- Whether a call gave its answer. -/
def Reply.IsOk {α : Type} (reply : Reply α) : Prop := ∃ value, reply = .ok value

/-- That a call broke down or never came back. -/
inductive Reply.IsCrash {α : Type} : Reply α → Prop where
  | panic (message : String) : IsCrash (.panic message)
  | hang : IsCrash .hang

theorem Reply.IsCrash.not_ok {α : Type} {reply : Reply α} (crash : reply.IsCrash) :
    ¬ reply.IsOk := by
  rintro ⟨value, rfl⟩
  cases crash

namespace Fate

variable {ε δ α β : Type}

/-- The fate with another value. -/
def map (change : α → β) : Fate ε α → Fate ε β
  | .done value => .done (change value)
  | .failed fault => .failed fault
  | .panicked message => .panicked message
  | .hung => .hung

theorem Stops.eq_map {stop : Fate ε α} {fate : Fate ε β} (stops : stop.Stops fate)
    (change : α → β) : fate = stop.map change := by
  cases stops <;> rfl

/-- The fate with another failure. -/
def mapError (change : ε → δ) : Fate ε α → Fate δ α
  | .done value => .done value
  | .failed fault => .failed (change fault)
  | .panicked message => .panicked message
  | .hung => .hung

/-- The fate with a failure turned into a value. -/
def attempted : Fate ε α → Fate δ (Except ε α)
  | .done value => .done (.ok value)
  | .failed fault => .done (.error fault)
  | .panicked message => .panicked message
  | .hung => .hung

/-- The fate with failures and breakdowns turned into values. -/
def contained : Fate ε α → Fate δ (Except (Mishap ε) α)
  | .done value => .done (.ok value)
  | .failed fault => .done (.error (.failure fault))
  | .panicked message => .done (.error (.breakdown message))
  | .hung => .hung

/-- What is known of a fate after a limited time. -/
def limited : Fate ε α → Option (Except (Mishap ε) α)
  | .done value => some (.ok value)
  | .failed fault => some (.error (.failure fault))
  | .panicked message => some (.error (.breakdown message))
  | .hung => none

end Fate

/-- That an action which broke down or hangs ends what it is part of in the same way. -/
inductive Fate.Crashes {ε δ α β : Type} : Fate ε α → Fate δ β → Prop where
  | panicked (message : String) : Crashes (.panicked message) (.panicked message)
  | hung : Crashes .hung .hung

theorem Fate.Crashes.not_done {ε δ α β : Type} {stop : Fate ε α} {fate : Fate δ β}
    (crashes : stop.Crashes fate) (value : β) : fate ≠ .done value := by
  cases crashes <;> nofun

/-- That an action stopped without a value; it broke down or hangs only if a call did. -/
inductive Halts {ε α : Type} (seen : List Errand) : Fate ε α → Prop where
  | failed (fault : ε) : Halts seen (.failed fault)
  | panicked {message : String} {request : Call}
      (called : .call request (.panic message) ∈ seen) : Halts seen (.panicked message)
  | hung {request : Call} (called : .call request .hang ∈ seen) : Halts seen .hung

namespace Halts

variable {ε δ α β : Type} {seen : List Errand}

theorem mono {more : List Errand} {fate : Fate ε α} (halts : Halts seen fate)
    (inside : ∀ errand ∈ seen, errand ∈ more) : Halts more fate := by
  cases halts with
  | failed fault => exact .failed fault
  | panicked called => exact .panicked (inside _ called)
  | hung called => exact .hung (inside _ called)

theorem stops {stop : Fate ε α} {fate : Fate ε β} (halts : Halts seen stop)
    (stopped : stop.Stops fate) : Halts seen fate := by
  cases stopped with
  | failed fault => exact .failed fault
  | panicked message =>
    cases halts with
    | panicked called => exact .panicked called
  | hung =>
    cases halts with
    | hung called => exact .hung called

theorem crashes {stop : Fate ε α} {fate : Fate δ β} (halts : Halts seen stop)
    (crashed : stop.Crashes fate) : Halts seen fate := by
  cases crashed with
  | panicked message =>
    cases halts with
    | panicked called => exact .panicked called
  | hung =>
    cases halts with
    | hung called => exact .hung called

/-- What never comes back waits for a call. -/
theorem waits (halts : Halts seen (.hung : Fate ε α)) : ∃ request, .call request .hang ∈ seen := by
  cases halts with
  | hung called => exact ⟨_, called⟩

/-- A call that crashed crashes what it was made for. -/
theorem of_crash {request : Call} {reply : Reply request.Answer} {fate : Fate ε α}
    (crashed : reply.fate.Crashes fate) : Halts [.call request reply] fate := by
  cases reply with
  | ok value => cases crashed
  | error fault => cases crashed
  | panic message => cases crashed; exact .panicked List.mem_cons_self
  | hang => cases crashed; exact .hung List.mem_cons_self

/-- A call that gave no answer stops what it was made for, whatever its failure is turned into. -/
theorem of_reply (request : Call) {reply : Reply request.Answer} (change : PlaneError → ε)
    (bad : ¬ reply.IsOk) : Halts [.call request reply] (reply.fate.mapError change) := by
  cases reply with
  | ok value => exact absurd ⟨value, rfl⟩ bad
  | error fault => exact .failed _
  | panic message => exact .panicked List.mem_cons_self
  | hang => exact .hung List.mem_cons_self

end Halts

/-! ### What actions show -/

namespace Action

variable {ε δ α β : Type} {seen : List Errand}

/-- A call shows what a view sees of it, and its reply decides its fate. -/
theorem shows_call {ω : Type} (view : View ω) (request : Call) (shown : List ω)
    (fate : Fate PlaneError request.Answer) :
    Shows view (call request) shown fate ↔
      ∃ reply, shown = (view (.call request) reply).toList ∧ fate = reply.fate := by
  refine (Program.shows_perform_iff _ _ _ _ _).trans ?_
  constructor
  · rintro ⟨reply, rest, rfl, ends⟩
    refine ⟨reply, ?_⟩
    cases reply <;>
      (obtain ⟨rfl, rfl⟩ := (Program.shows_done_iff _ _ _ _).mp ends
       exact ⟨List.append_nil _, rfl⟩)
  · rintro ⟨reply, rfl, rfl⟩
    exact ⟨reply, [], (List.append_nil _).symm, by cases reply <;> exact .done _⟩

theorem shows_call_iff (request : Call) (fate : Fate PlaneError request.Answer) :
    Shows Errand.view (call request) seen fate ↔
      ∃ reply, seen = [.call request reply] ∧ fate = reply.fate :=
  shows_call Errand.view request seen fate

theorem shows_log_iff (level : Level) (source : Source) (message : String)
    (fields : List (String × String)) (fate : Fate ε Unit) :
    Shows Errand.view (log level source message fields) seen fate ↔
      seen = [] ∧ fate = .done () := by
  refine (Program.shows_perform_iff _ _ _ _ _).trans ?_
  constructor
  · rintro ⟨_, rest, rfl, shown⟩
    exact (Program.shows_done_iff _ _ _ _).mp shown
  · rintro ⟨rfl, rfl⟩
    exact ⟨(), [], rfl, .done _⟩

theorem shows_log_bind_iff (level : Level) (source : Source) (message : String)
    (fields : List (String × String)) (next : Unit → Action ε β) (fate : Fate ε β) :
    Shows Errand.view (log level source message fields >>= next) seen fate ↔
      Shows Errand.view (next ()) seen fate := by
  refine (shows_ask_bind_iff _ _ _ _ _).trans ?_
  constructor
  · rintro ⟨_, rest, rfl, shown⟩
    exact shown
  · exact fun shown => ⟨(), seen, rfl, shown⟩

theorem shows_record_bind_iff (sample : Sample) (next : Unit → Action ε β) (fate : Fate ε β) :
    Shows Errand.view (record sample >>= next) seen fate ↔
      Shows Errand.view (next ()) seen fate := by
  refine (shows_ask_bind_iff _ _ _ _ _).trans ?_
  constructor
  · rintro ⟨_, rest, rfl, shown⟩
    exact shown
  · exact fun shown => ⟨(), seen, rfl, shown⟩

/-- The run of a call. -/
theorem runIn_call {σ : Type} (host : Host σ) (call : Call) (world : World σ) :
    (Action.call call).runIn host world =
      ((host.handle (.call call) world).1.fate, (host.handle (.call call) world).2) := by
  show (ofReply (host.handle (.call call) world).1).runIn host _ = _
  cases (host.handle (.call call) world).1 <;> rfl

/-- The run of an action and of what comes after its fate. -/
theorem runIn_onward {σ : Type} (host : Host σ) (action : Action ε α) (next : Fate ε α → Action δ β)
    (world : World σ) : Action.runIn host (Program.bind action next) world =
      (next (action.runIn host world).1).runIn host (action.runIn host world).2 :=
  Program.runIn_bind host action.program next world

theorem historyIn_onward {σ : Type} (host : Host σ) (action : Action ε α)
    (next : Fate ε α → Action δ β) (world : World σ) :
    Action.historyIn host (Program.bind action next) world = action.historyIn host world ++
      (next (action.runIn host world).1).historyIn host (action.runIn host world).2 :=
  Program.history_bind host.handle action.program next world

theorem attempt_eq_bind (action : Action ε α) :
    (action.attempt : Action δ (Except ε α)) =
      Program.bind action fun inner => .done inner.attempted :=
  congrArg (Program.bind action) (funext fun inner => by cases inner <;> rfl)

/-- What comes after an attempt comes after its fate. -/
theorem attempt_bind_eq (action : Action ε α) (next : Except ε α → Action δ β) :
    action.attempt >>= next = Program.bind action fun fate => fate.attempted.onward next := by
  rw [attempt_eq_bind]
  exact Program.bind_assoc action _ _

theorem shows_attempt_iff (action : Action ε α) (fate : Fate δ (Except ε α)) :
    Shows Errand.view action.attempt seen fate ↔
      ∃ inner, Shows Errand.view action seen inner ∧ fate = inner.attempted :=
  shows_of_eq_bind _ (attempt_eq_bind action) _ _

theorem runIn_attempt {σ : Type} (host : Host σ) (action : Action ε α) (world : World σ) :
    (action.attempt : Action δ (Except ε α)).runIn host world =
      ((action.runIn host world).1.attempted, (action.runIn host world).2) :=
  runIn_of_eq_bind (attempt_eq_bind action) host world

theorem historyIn_attempt {σ : Type} (host : Host σ) (action : Action ε α) (world : World σ) :
    (action.attempt : Action δ (Except ε α)).historyIn host world = action.historyIn host world :=
  historyIn_of_eq_bind (attempt_eq_bind action) host world

theorem mapError_eq_bind (change : ε → δ) (action : Action ε α) :
    action.mapError change = Program.bind action fun inner => .done (inner.mapError change) :=
  congrArg (Program.bind action) (funext fun inner => by cases inner <;> rfl)

theorem shows_mapError_iff (change : ε → δ) (action : Action ε α) (fate : Fate δ α) :
    Shows Errand.view (action.mapError change) seen fate ↔
      ∃ inner, Shows Errand.view action seen inner ∧ fate = inner.mapError change :=
  shows_of_eq_bind _ (mapError_eq_bind change action) _ _

theorem contain_eq_bind (action : Action ε α) :
    (action.contain : Action δ (Except (Mishap ε) α)) =
      Program.bind action fun inner => .done inner.contained :=
  congrArg (Program.bind action) (funext fun inner => by cases inner <;> rfl)

/-- What comes after a contained action comes after its fate. -/
theorem contain_bind_eq (action : Action ε α) (next : Except (Mishap ε) α → Action δ β) :
    action.contain >>= next = Program.bind action fun fate => fate.contained.onward next := by
  rw [contain_eq_bind]
  exact Program.bind_assoc action _ _

theorem shows_contain_iff (action : Action ε α) (fate : Fate δ (Except (Mishap ε) α)) :
    Shows Errand.view action.contain seen fate ↔
      ∃ inner, Shows Errand.view action seen inner ∧ fate = inner.contained :=
  shows_of_eq_bind _ (contain_eq_bind action) _ _

theorem runIn_contain {σ : Type} (host : Host σ) (action : Action ε α) (world : World σ) :
    (action.contain : Action δ (Except (Mishap ε) α)).runIn host world =
      ((action.runIn host world).1.contained, (action.runIn host world).2) :=
  runIn_of_eq_bind (contain_eq_bind action) host world

theorem historyIn_contain {σ : Type} (host : Host σ) (action : Action ε α) (world : World σ) :
    (action.contain : Action δ (Except (Mishap ε) α)).historyIn host world =
      action.historyIn host world :=
  historyIn_of_eq_bind (contain_eq_bind action) host world

theorem limited_eq_bind (action : Action ε α) :
    (action.limited : Action δ (Option (Except (Mishap ε) α))) =
      Program.bind action fun inner => .done (.done inner.limited) :=
  congrArg (Program.bind action) (funext fun inner => by cases inner <;> rfl)

/-- What comes after a limited action comes after its fate. -/
theorem limited_bind_eq (action : Action ε α) (next : Option (Except (Mishap ε) α) → Action δ β) :
    action.limited >>= next = Program.bind action fun fate => next fate.limited := by
  rw [limited_eq_bind]
  exact Program.bind_assoc action _ _

theorem runIn_limited {σ : Type} (host : Host σ) (action : Action ε α) (world : World σ) :
    (action.limited : Action δ (Option (Except (Mishap ε) α))).runIn host world =
      (.done (action.runIn host world).1.limited, (action.runIn host world).2) :=
  runIn_of_eq_bind (limited_eq_bind action) host world

theorem historyIn_limited {σ : Type} (host : Host σ) (action : Action ε α) (world : World σ) :
    (action.limited : Action δ (Option (Except (Mishap ε) α))).historyIn host world =
      action.historyIn host world :=
  historyIn_of_eq_bind (limited_eq_bind action) host world

theorem shows_limited_iff (action : Action ε α) (fate : Fate δ (Option (Except (Mishap ε) α))) :
    Shows Errand.view action.limited seen fate ↔
      ∃ inner, Shows Errand.view action seen inner ∧ fate = .done inner.limited :=
  shows_of_eq_bind _ (limited_eq_bind action) _ _

/-- What comes after an attempt comes after its value or its failure; a crash ends it all. -/
theorem shows_attempt_bind {action : Action ε α} {next : Except ε α → Action δ β}
    {fate : Fate δ β} (shown : Shows Errand.view (action.attempt >>= next) seen fate) :
    (∃ value first rest, Shows Errand.view action first (.done value) ∧
      Shows Errand.view (next (.ok value)) rest fate ∧ seen = first ++ rest) ∨
    (∃ fault first rest, Shows Errand.view action first (.failed fault) ∧
      Shows Errand.view (next (.error fault)) rest fate ∧ seen = first ++ rest) ∨
    ∃ stop, Shows Errand.view action seen stop ∧ stop.Crashes fate := by
  rcases (shows_bind_iff _ _ _ _ _).mp shown with
    ⟨outcome, first, rest, one, two, rfl⟩ | ⟨stop, one, stops⟩
  · obtain ⟨inner, called, same⟩ := (shows_attempt_iff _ _).mp one
    cases inner with
    | done value => cases same; exact .inl ⟨value, first, rest, called, two, rfl⟩
    | failed fault => cases same; exact .inr (.inl ⟨fault, first, rest, called, two, rfl⟩)
    | panicked message => cases same
    | hung => cases same
  · obtain ⟨inner, called, rfl⟩ := (shows_attempt_iff _ _).mp one
    cases inner with
    | done value => cases stops
    | failed fault => cases stops
    | panicked message => cases stops; exact .inr (.inr ⟨_, called, .panicked message⟩)
    | hung => cases stops; exact .inr (.inr ⟨_, called, .hung⟩)

/-- The same for a single call. -/
theorem shows_attempt_call_bind {request : Call}
    {next : Except PlaneError request.Answer → Action ε β} {fate : Fate ε β}
    (shown : Shows Errand.view ((call request).attempt >>= next) seen fate) :
    (∃ value rest, seen = .call request (.ok value) :: rest ∧
      Shows Errand.view (next (.ok value)) rest fate) ∨
    (∃ fault rest, seen = .call request (.error fault) :: rest ∧
      Shows Errand.view (next (.error fault)) rest fate) ∨
    ∃ reply : Reply request.Answer, reply.IsCrash ∧ seen = [.call request reply] ∧
      reply.fate.Crashes fate := by
  rcases shows_attempt_bind shown with
    ⟨value, first, rest, one, two, rfl⟩ | ⟨fault, first, rest, one, two, rfl⟩ | ⟨stop, one, crashes⟩
  · obtain ⟨reply, rfl, same⟩ := (shows_call_iff _ _).mp one
    cases reply <;> cases same
    exact .inl ⟨value, rest, rfl, two⟩
  · obtain ⟨reply, rfl, same⟩ := (shows_call_iff _ _).mp one
    cases reply <;> cases same
    exact .inr (.inl ⟨fault, rest, rfl, two⟩)
  · obtain ⟨reply, rfl, rfl⟩ := (shows_call_iff _ _).mp one
    refine .inr (.inr ⟨reply, ?_, rfl, crashes⟩)
    cases reply with
    | ok value => cases crashes
    | error fault => cases crashes
    | panic message => exact .panic message
    | hang => exact .hang

/-- What comes after a contained action comes after its value, its failure or its breakdown. -/
theorem shows_contain_bind {action : Action ε α} {next : Except (Mishap ε) α → Action δ β}
    {fate : Fate δ β} (shown : Shows Errand.view (action.contain >>= next) seen fate) :
    (∃ value first rest, Shows Errand.view action first (.done value) ∧
      Shows Errand.view (next (.ok value)) rest fate ∧ seen = first ++ rest) ∨
    (∃ fault first rest, Shows Errand.view action first (.failed fault) ∧
      Shows Errand.view (next (.error (.failure fault))) rest fate ∧ seen = first ++ rest) ∨
    (∃ message first rest, Shows Errand.view action first (.panicked message) ∧
      Shows Errand.view (next (.error (.breakdown message))) rest fate ∧ seen = first ++ rest) ∨
    Shows Errand.view action seen .hung ∧ fate = .hung := by
  rcases (shows_bind_iff _ _ _ _ _).mp shown with
    ⟨outcome, first, rest, one, two, rfl⟩ | ⟨stop, one, stops⟩
  · obtain ⟨inner, called, same⟩ := (shows_contain_iff _ _).mp one
    cases inner with
    | done value => cases same; exact .inl ⟨value, first, rest, called, two, rfl⟩
    | failed fault => cases same; exact .inr (.inl ⟨fault, first, rest, called, two, rfl⟩)
    | panicked message =>
      cases same
      exact .inr (.inr (.inl ⟨message, first, rest, called, two, rfl⟩))
    | hung => cases same
  · obtain ⟨inner, called, rfl⟩ := (shows_contain_iff _ _).mp one
    cases inner with
    | hung => cases stops; exact .inr (.inr (.inr ⟨called, rfl⟩))
    | _ => cases stops

/-- What comes after a limited action comes in any case. -/
theorem shows_limited_bind {action : Action ε α}
    {next : Option (Except (Mishap ε) α) → Action δ β} {fate : Fate δ β}
    (shown : Shows Errand.view (action.limited >>= next) seen fate) :
    ∃ inner first rest, Shows Errand.view action first inner ∧
      Shows Errand.view (next inner.limited) rest fate ∧ seen = first ++ rest := by
  rcases (shows_bind_iff _ _ _ _ _).mp shown with
    ⟨outcome, first, rest, one, two, rfl⟩ | ⟨stop, one, stops⟩
  · obtain ⟨inner, called, same⟩ := (shows_limited_iff _ _).mp one
    cases same
    exact ⟨inner, first, rest, called, two, rfl⟩
  · obtain ⟨inner, called, rfl⟩ := (shows_limited_iff _ _).mp one
    cases stops

/-! ### Actions that are one call -/

/-- That an action is one call; when the call fails, so does the action. -/
def Asks (request : Call) (action : Action ε request.Answer) : Prop :=
  ∀ seen fate, Shows Errand.view action seen fate →
    ∃ (reply : Reply request.Answer) (change : PlaneError → ε),
      seen = [.call request reply] ∧ fate = reply.fate.mapError change

theorem asks_call (request : Call) : Asks request (call request) := by
  intro seen fate shown
  obtain ⟨reply, rfl, rfl⟩ := (shows_call_iff _ _).mp shown
  exact ⟨reply, id, rfl, by cases reply <;> rfl⟩

/-- After a call that gave its answer comes what is to come; every other call ends it all. -/
theorem Asks.shows_bind {request : Call} {action : Action ε request.Answer}
    (asks : Asks request action) {next : request.Answer → Action ε β} {fate : Fate ε β}
    (shown : Shows Errand.view (action >>= next) seen fate) :
    (∃ value rest, seen = .call request (.ok value) :: rest ∧
      Shows Errand.view (next value) rest fate) ∨
    ∃ reply : Reply request.Answer, ¬ reply.IsOk ∧ seen = [.call request reply] ∧
      Halts seen fate := by
  rcases (shows_bind_iff _ _ _ _ _).mp shown with
    ⟨value, early, late, one, two, rfl⟩ | ⟨stop, one, stops⟩
  · obtain ⟨reply, change, rfl, same⟩ := asks _ _ one
    cases reply with
    | ok answer =>
      cases same
      exact .inl ⟨value, late, rfl, two⟩
    | error fault => cases same
    | panic message => cases same
    | hang => cases same
  · obtain ⟨reply, change, rfl, rfl⟩ := asks _ _ one
    have bad : ¬ reply.IsOk := by
      rintro ⟨value, rfl⟩
      cases stops
    exact .inr ⟨reply, bad, rfl, (Halts.of_reply request change bad).stops stops⟩

/-! ### Actions without errands -/

/-- That an action shows no errand and ends with a value or a failure. -/
def IsQuiet (action : Action ε α) : Prop :=
  ∀ seen fate, Shows Errand.view action seen fate →
    seen = [] ∧ ((∃ value, fate = .done value) ∨ ∃ fault, fate = .failed fault)

theorem IsQuiet.of_pure (value : α) : (pure value : Action ε α).IsQuiet := by
  intro seen fate shown
  obtain ⟨rfl, rfl⟩ := (shows_pure_iff _ _ _ _).mp shown
  exact ⟨rfl, .inl ⟨value, rfl⟩⟩

theorem IsQuiet.of_fail (fault : ε) : (fail fault : Action ε α).IsQuiet := by
  intro seen fate shown
  obtain ⟨rfl, rfl⟩ := (shows_fail_iff _ _ _ _).mp shown
  exact ⟨rfl, .inr ⟨fault, rfl⟩⟩

theorem IsQuiet.of_ask {effect : Effect} (quiet : ∀ answer, Errand.view effect answer = none) :
    (ask effect : Action ε effect.Answer).IsQuiet := by
  intro seen fate shown
  obtain ⟨answer, rest, rfl, ending⟩ := (Program.shows_perform_iff _ _ _ _ _).mp shown
  obtain ⟨rfl, rfl⟩ := (Program.shows_done_iff _ _ _ _).mp ending
  exact ⟨by rw [quiet]; rfl, .inl ⟨answer, rfl⟩⟩

theorem IsQuiet.bind {action : Action ε α} {next : α → Action ε β} (first : action.IsQuiet)
    (rest : ∀ value, (next value).IsQuiet) : (action >>= next).IsQuiet := by
  intro seen fate shown
  rcases (shows_bind_iff _ _ _ _ _).mp shown with
    ⟨value, early, late, one, two, rfl⟩ | ⟨stop, one, stops⟩
  · obtain ⟨rfl, -⟩ := first _ _ one
    exact rest value _ _ two
  · obtain ⟨rfl, ⟨value, rfl⟩ | ⟨fault, rfl⟩⟩ := first _ _ one
    · cases stops
    · cases stops
      exact ⟨rfl, .inr ⟨fault, rfl⟩⟩

theorem IsQuiet.of_file {request : FileRequest} (changes : ∀ path, request ≠ .read path) :
    (file request : Action ε request.Answer).IsQuiet :=
  .of_ask fun _ => by
    cases request with
    | read path => exact absurd rfl (changes path)
    | _ => rfl

theorem IsQuiet.fileStep {operation : Action FileFault (Except FileFault Unit)}
    (quiet : operation.IsQuiet) : (fileStep operation).IsQuiet := by
  refine quiet.bind fun outcome => ?_
  cases outcome with
  | ok value => exact .of_pure ()
  | error fault => exact .of_fail fault

theorem isQuiet_makeParent (path : Path) : (makeParent path).IsQuiet := by
  unfold makeParent
  split
  · split
    · exact .of_pure ()
    · exact .fileStep (.of_file nofun)
  · exact .of_pure ()

theorem IsQuiet.mapError {action : Action ε α} (quiet : action.IsQuiet) (change : ε → δ) :
    (action.mapError change).IsQuiet := by
  intro seen fate shown
  obtain ⟨inner, one, rfl⟩ := (shows_mapError_iff _ _ _).mp shown
  obtain ⟨rfl, ⟨value, rfl⟩ | ⟨fault, rfl⟩⟩ := quiet _ _ one
  · exact ⟨rfl, .inl ⟨value, rfl⟩⟩
  · exact ⟨rfl, .inr ⟨change fault, rfl⟩⟩

/-- What comes after a quiet action is all that is seen, unless the action fails. -/
theorem IsQuiet.shows_bind {action : Action ε α} (quiet : action.IsQuiet)
    {next : α → Action ε β} {fate : Fate ε β}
    (shown : Shows Errand.view (action >>= next) seen fate) :
    (∃ value, Shows Errand.view (next value) seen fate) ∨
      seen = [] ∧ ∃ fault, fate = .failed fault := by
  rcases (shows_bind_iff _ _ _ _ _).mp shown with
    ⟨value, early, late, one, two, rfl⟩ | ⟨stop, one, stops⟩
  · obtain ⟨rfl, -⟩ := quiet _ _ one
    exact .inl ⟨value, two⟩
  · obtain ⟨rfl, ⟨value, rfl⟩ | ⟨fault, rfl⟩⟩ := quiet _ _ one
    · cases stops
    · cases stops
      exact .inr ⟨rfl, fault, rfl⟩

/-- That an action shows no errand and gives a value. -/
def Gives (action : Action ε α) (value : α) : Prop :=
  ∀ seen fate, Shows Errand.view action seen fate → seen = [] ∧ fate = .done value

theorem Gives.runIn {σ : Type} {action : Action ε α} {value : α} (gives : action.Gives value)
    (host : Host σ) (world : World σ) : (action.runIn host world).1 = .done value :=
  (gives _ _ (action.shows_historyIn Errand.view host world)).2

/-- What comes after an action that shows nothing is all that is seen. -/
theorem Gives.shows_bind {action : Action ε α} {value : α} (gives : action.Gives value)
    {next : α → Action ε β} {fate : Fate ε β}
    (shown : Shows Errand.view (action >>= next) seen fate) :
    Shows Errand.view (next value) seen fate := by
  rcases (shows_bind_iff _ _ _ _ _).mp shown with
    ⟨value, early, late, one, two, rfl⟩ | ⟨stop, one, stops⟩
  · obtain ⟨rfl, same⟩ := gives _ _ one
    cases same
    exact two
  · obtain ⟨-, rfl⟩ := gives _ _ one
    cases stops

end Action

end DeviceTrial
