/-
**What two logs tell apart.**

The lines that a process prints are in the log, and so are its *traces*: that its output could not be
read, and what was found when files were removed that it may have touched. Everything else in the log
comes from the program itself, and `Log.outline` is that with the name of the policy blotted out.

`Log.Compares` compares the logs of two runs that go side by side. Their outlines are the same, and
apart from printed lines the logs are the same if and only if the traces are and a condition is met.

* `Log.Compares.extend` — what both runs add to the log, with what it adds to the condition;
* `Log.Compares.stray` — what each run adds that comes from its process;
* `Log.Compares.unprinted_iff` — **when the logs are the same**, apart from printed lines.
-/

import DeviceTrial.Event

namespace DeviceTrial

/-- A kind of traces that a process can leave in the log. -/
inductive Trace where
  /-- Its output could not be read. -/
  | garbled
  /-- A file of the identity was removed, or could not be. -/
  | clearing
deriving DecidableEq

/-- The part of the program that tells of such traces. -/
def Trace.source : Trace → Source
  | .garbled => .drive
  | .clearing => .identity

/-- The messages with which it does. -/
def Trace.messages : Trace → List String
  | .garbled => ["stopped reading driven process output"]
  | .clearing => ["credential file removed", "failed to remove credential file"]

namespace Event

/-- Whether an event is a line that the process under test printed. -/
def isOutput (event : Event) : Bool := event.source == .output

/-- Whether an event is a trace of a kind. -/
def tells (trace : Trace) (event : Event) : Bool :=
  event.source == trace.source && trace.messages.contains event.message

/-- Whether an event is a trace. -/
def isTrace (event : Event) : Bool := event.tells .garbled || event.tells .clearing

/-- An event without the name of the policy. -/
def blotted (event : Event) : Event :=
  { event with
    fields := event.fields.map fun field => if field.1 = "policy" then (field.1, "") else field }

variable {trace other : Trace} {event : Event}

theorem source_of_tells (told : event.tells trace = true) : event.source = trace.source := by
  rw [tells, Bool.and_eq_true, beq_iff_eq] at told
  exact told.1

theorem not_output_of_tells (told : event.tells trace = true) : event.isOutput = false := by
  rw [isOutput, source_of_tells told]
  cases trace <;> rfl

theorem not_tells_of_output (output : event.isOutput = true) : event.tells trace = false := by
  cases told : event.tells trace with
  | false => rfl
  | true => cases output.symm.trans (not_output_of_tells told)

/-- An event is a trace of one kind at most. -/
theorem not_tells_of_ne (different : other ≠ trace) (told : event.tells trace = true) :
    event.tells other = false := by
  cases also : event.tells other with
  | false => rfl
  | true =>
    have sources := (source_of_tells also).symm.trans (source_of_tells told)
    cases trace <;> cases other <;> first | exact absurd rfl different | cases sources

end Event

namespace Log

/-- A log without the lines that the process under test printed. -/
def unprinted (log : List Event) : List Event := log.filter fun event => !event.isOutput

/-- The traces in a log. -/
def traces (log : List Event) : List Event := log.filter Event.isTrace

/-- What the program itself has logged, without the name of the policy. -/
def outline (log : List Event) : List Event :=
  ((unprinted log).filter fun event => !event.isTrace).map Event.blotted

theorem unprinted_append (one two : List Event) :
    unprinted (one ++ two) = unprinted one ++ unprinted two :=
  List.filter_append _ _

theorem outline_append (one two : List Event) : outline (one ++ two) = outline one ++ outline two := by
  rw [outline, unprinted_append, List.filter_append, List.map_append]
  rfl

theorem filter_tells_unprinted (trace : Trace) (log : List Event) :
    (unprinted log).filter (Event.tells trace) = log.filter (Event.tells trace) := by
  rw [unprinted, List.filter_filter]
  refine List.filter_congr fun event _ => ?_
  cases told : event.tells trace with
  | false => rfl
  | true => rw [Event.not_output_of_tells told]; rfl

/-- **How the logs of two runs compare** of which some kinds of traces may differ. -/
structure Compares (condition : Prop) (strayed : List Trace) (one two : List Event) : Prop where
  outline : Log.outline one = Log.outline two
  /-- The logs are the same only if the condition is met. -/
  needed : unprinted one = unprinted two → condition
  /-- If it is met, then nothing but traces can make them differ. -/
  enough : condition →
    (∀ trace, one.filter (Event.tells trace) = two.filter (Event.tells trace)) →
    unprinted one = unprinted two
  unstrayed : ∀ trace, trace ∉ strayed →
    one.filter (Event.tells trace) = two.filter (Event.tells trace)

/-- That a log has nothing but traces of a kind, and printed lines. -/
def Only (trace : Trace) (log : List Event) : Prop :=
  ∀ event ∈ log, event.isOutput = true ∨ event.tells trace = true

section Only

variable {trace : Trace} {log : List Event} (only : Only trace log)
include only

theorem Only.unprinted : unprinted log = log.filter (Event.tells trace) := by
  refine List.filter_congr fun event inside => ?_
  rcases only event inside with output | told
  · rw [output, Event.not_tells_of_output output]
    rfl
  · rw [told, Event.not_output_of_tells told]
    rfl

theorem Only.outline : outline log = [] := by
  rw [Log.outline, only.unprinted, List.filter_filter, List.filter_eq_nil_iff.mpr, List.map_nil]
  intro event _ both
  obtain ⟨untraced, told⟩ := Bool.and_eq_true_iff.mp both
  have traced : event.isTrace = true := by
    rw [Event.isTrace]
    cases trace with
    | garbled => rw [told, Bool.true_or]
    | clearing => rw [told, Bool.or_true]
  rw [traced] at untraced
  cases untraced

theorem Only.filter_of_ne {other : Trace} (different : other ≠ trace) :
    log.filter (Event.tells other) = [] := by
  refine List.filter_eq_nil_iff.mpr fun event inside also => ?_
  rcases only event inside with output | told
  · cases also.symm.trans (Event.not_tells_of_output output)
  · cases also.symm.trans (Event.not_tells_of_ne different told)

end Only

namespace Compares

variable {condition : Prop} {strayed : List Trace} {one two : List Event}

theorem refl (log : List Event) : Compares True [] log log :=
  ⟨rfl, fun _ => trivial, fun _ _ => rfl, fun _ _ => rfl⟩

theorem mono {others : List Trace} (compares : Compares condition strayed one two)
    (more : strayed ⊆ others) : Compares condition others one two :=
  { compares with
    unstrayed := fun trace clean => compares.unstrayed trace fun dirty => clean (more dirty) }

theorem congr {other : Prop} (compares : Compares condition strayed one two)
    (same : condition ↔ other) : Compares other strayed one two where
  outline := compares.outline
  needed told := same.mp (compares.needed told)
  enough met := compares.enough (same.mpr met)
  unstrayed := compares.unstrayed

/-- **What both runs add**, with the same outline and the same traces. -/
theorem extend (compares : Compares condition strayed one two) {more others : List Event}
    (outlines : Log.outline more = Log.outline others)
    (traces : ∀ trace, more.filter (Event.tells trace) = others.filter (Event.tells trace))
    (lengths : (unprinted more).length = (unprinted others).length) :
    Compares (condition ∧ unprinted more = unprinted others) strayed (one ++ more)
      (two ++ others) where
  outline := by rw [outline_append, outline_append, compares.outline, outlines]
  needed told := by
    rw [unprinted_append, unprinted_append] at told
    obtain ⟨before, last⟩ := List.append_inj' told lengths
    exact ⟨compares.needed before, last⟩
  enough met same := by
    have before : ∀ trace, one.filter (Event.tells trace) = two.filter (Event.tells trace) := by
      intro trace
      have here := same trace
      rw [List.filter_append, List.filter_append, traces trace] at here
      exact List.append_cancel_right here
    rw [unprinted_append, unprinted_append, compares.enough met.1 before, met.2]
  unstrayed trace clean := by
    rw [List.filter_append, List.filter_append, compares.unstrayed trace clean, traces trace]

theorem append (compares : Compares condition strayed one two) (more : List Event) :
    Compares condition strayed (one ++ more) (two ++ more) :=
  (compares.extend rfl (fun _ => rfl) rfl).congr (and_iff_left rfl)

/-- One event that comes from the program itself, the same but for the policy. -/
theorem append_one (compares : Compares condition strayed one two) (event other : Event)
    (blotted : event.blotted = other.blotted)
    (loud : event.isOutput = false ∧ event.isTrace = false)
    (also : other.isOutput = false ∧ other.isTrace = false) :
    Compares (condition ∧ event = other) strayed (one ++ [event]) (two ++ [other]) := by
  have told : ∀ {event : Event}, event.isOutput = false ∧ event.isTrace = false →
      unprinted [event] = [event] ∧ Log.outline [event] = [event.blotted] ∧
        ∀ trace, [event].filter (Event.tells trace) = [] := by
    rintro event ⟨quiet, untraced⟩
    have unprinted : unprinted [event] = [event] := by
      rw [Log.unprinted, List.filter_cons, quiet]
      rfl
    refine ⟨unprinted, ?_, fun trace => ?_⟩
    · rw [Log.outline, unprinted, List.filter_cons, untraced]
      rfl
    · obtain ⟨garbled, clearing⟩ := Bool.or_eq_false_iff.mp untraced
      cases trace with
      | garbled => rw [List.filter_cons, garbled]; rfl
      | clearing => rw [List.filter_cons, clearing]; rfl
  obtain ⟨here, outlined, untraced⟩ := told loud
  obtain ⟨there, outlinedToo, untracedToo⟩ := told also
  have outlines : Log.outline [event] = Log.outline [other] := by
    rw [outlined, outlinedToo, blotted]
  have extended := compares.extend outlines
    (fun trace => (untraced trace).trans (untracedToo trace).symm)
    ((congrArg List.length here).trans (congrArg List.length there).symm)
  refine extended.congr (and_congr_right fun _ => ?_)
  rw [here, there]
  exact List.singleton_inj

/-- **What each run adds that comes from its process**: traces of a kind, and printed lines. -/
theorem stray (compares : Compares condition strayed one two) {trace : Trace}
    (clean : trace ∉ strayed) {more others : List Event} (only : Only trace more)
    (also : Only trace others) :
    Compares condition (trace :: strayed) (one ++ more) (two ++ others) := by
  have before := compares.unstrayed trace clean
  -- the traces of the kind tell what each run has added
  have added : (one ++ more).filter (Event.tells trace) = (two ++ others).filter (Event.tells trace) →
      unprinted more = unprinted others := by
    intro same
    rw [List.filter_append, List.filter_append, before] at same
    rw [only.unprinted, also.unprinted]
    exact List.append_cancel_left same
  have elsewhere : ∀ other, other ≠ trace →
      (one ++ more).filter (Event.tells other) = one.filter (Event.tells other) ∧
        (two ++ others).filter (Event.tells other) = two.filter (Event.tells other) := by
    intro other different
    rw [List.filter_append, List.filter_append, only.filter_of_ne different,
      also.filter_of_ne different, List.append_nil, List.append_nil]
    exact ⟨rfl, rfl⟩
  refine ⟨?_, fun told => ?_, fun met same => ?_, fun other clean => ?_⟩
  · rw [outline_append, outline_append, only.outline, also.outline, List.append_nil,
      List.append_nil, compares.outline]
  · have same := congrArg (List.filter (Event.tells trace)) told
    rw [filter_tells_unprinted, filter_tells_unprinted] at same
    rw [unprinted_append, unprinted_append, added same] at told
    exact compares.needed (List.append_cancel_right told)
  · rw [unprinted_append, unprinted_append, added (same trace)]
    refine congrArg (· ++ _) (compares.enough met fun other => ?_)
    by_cases here : other = trace
    · rw [here, before]
    · rw [← (elsewhere other here).1, ← (elsewhere other here).2, same other]
  · obtain ⟨here, there⟩ := elsewhere other fun wrong => clean (wrong ▸ List.mem_cons_self)
    rw [here, there]
    exact compares.unstrayed other fun dirty => clean (List.mem_cons_of_mem _ dirty)

/-- **When the logs are the same**, apart from the lines that the processes printed. -/
theorem unprinted_iff (compares : Compares condition strayed one two) :
    unprinted one = unprinted two ↔ condition ∧ traces one = traces two := by
  have parts : ∀ (trace : Trace) (log : List Event),
      (traces log).filter (Event.tells trace) = log.filter (Event.tells trace) := by
    intro trace log
    rw [traces, List.filter_filter]
    refine List.filter_congr fun event _ => ?_
    rw [Event.isTrace]
    cases trace with
    | garbled => cases event.tells .garbled <;> rfl
    | clearing => cases event.tells .clearing <;> cases event.tells .garbled <;> rfl
  have whole : ∀ log : List Event, (unprinted log).filter Event.isTrace = traces log := by
    intro log
    rw [unprinted, List.filter_filter]
    refine List.filter_congr fun event _ => ?_
    cases printed : event.isOutput with
    | false => exact Bool.and_true _
    | true =>
      rw [Event.isTrace, Event.not_tells_of_output printed, Event.not_tells_of_output printed]
      rfl
  constructor
  · intro told
    exact ⟨compares.needed told, by rw [← whole, ← whole, told]⟩
  · rintro ⟨met, same⟩
    exact compares.enough met fun trace => by rw [← parts trace one, ← parts trace two, same]

end Compares

end Log

end DeviceTrial
