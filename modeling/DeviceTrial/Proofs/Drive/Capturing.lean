/-
**The captured output is the tail of the merged lines.**

Two readers share the lines that are kept. Each takes the lines of its own channel one after the other
and pushes their texts, and nothing is said about whose turn it is. `Readers.Step` is one line that is
taken; what it preserves, every run of the two preserves (`Readers.Invariant`).

* `IsTail` — the last of merged lines, as many as are allowed;
* `Merges` — merged lines that are, channel by channel, what the channels have left to contribute;
* `exists_run`, `exists_order` — every such merge is that of a run of the readers, and that of an order
  in which the output can come in;
* `execute_captures` — **the report of a process holds the lines that such a run leaves**.
-/

import DeviceTrial.Proofs.Drive.Lines
import DeviceTrial.Proofs.Run.Ending
import DeviceTrial.Proofs.Trial.Compensation
import DeviceTrial.Proofs.Trial.Driving
import Mathlib.Logic.Relation

namespace DeviceTrial

/-! ### Merged lines -/

/-- The lines of a channel among merged ones. -/
def Channel.linesOf (channel : Channel) (merged : List (Channel × String)) : List String :=
  (merged.filter fun entry => entry.1 == channel).map Prod.snd

namespace Channel

@[simp] theorem linesOf_nil (channel : Channel) : channel.linesOf [] = [] := rfl

@[simp] theorem linesOf_cons_self (channel : Channel) (text : String)
    (merged : List (Channel × String)) :
    channel.linesOf ((channel, text) :: merged) = text :: channel.linesOf merged := by
  simp [linesOf]

theorem linesOf_cons_of_ne {channel other : Channel} (apart : other ≠ channel) (text : String)
    (merged : List (Channel × String)) :
    channel.linesOf ((other, text) :: merged) = channel.linesOf merged := by
  simp [linesOf, apart]

theorem linesOf_append (channel : Channel) (first rest : List (Channel × String)) :
    channel.linesOf (first ++ rest) = channel.linesOf first ++ channel.linesOf rest := by
  simp [linesOf]

theorem linesOf_suffix {first rest : List (Channel × String)} (suffix : first <:+ rest)
    (channel : Channel) : channel.linesOf first <:+ channel.linesOf rest :=
  (suffix.filter _).map _

end Channel

/-- That lines are the last ones of merged lines, at most `limit` of them. -/
def IsTail (limit : Nat) (merged : List (Channel × String)) (kept : List String) : Prop :=
  ∃ last, last <:+ merged ∧ last.length = min limit merged.length ∧ kept = last.map Prod.snd

theorem isTail_lastLines (limit : Nat) (merged : List (Channel × String)) :
    IsTail limit merged (lastLines limit (merged.map Prod.snd)) := by
  refine ⟨merged.drop (merged.length - limit), List.drop_suffix _ _, ?_, ?_⟩
  · rw [List.length_drop]
    omega
  · rw [lastLines_eq_drop, List.length_map, List.map_drop]

theorem IsTail.length_le {limit : Nat} {merged : List (Channel × String)} {kept : List String}
    (tail : IsTail limit merged kept) : kept.length ≤ limit := by
  obtain ⟨last, -, size, rfl⟩ := tail
  rw [List.length_map, size]
  exact Nat.min_le_left _ _

/-- That merged lines are those which the channels have left, each in its order. -/
def Merges (left : Channel → List (List UInt8)) (merged : List (Channel × String)) : Prop :=
  ∀ channel, channel.linesOf merged = contribution (left channel)

/-- The first of the merged lines is the next one of its channel, and the others fit what is left
then. -/
theorem Merges.next {left : Channel → List (List UInt8)} {channel : Channel} {text : String}
    {merged : List (Channel × String)} (merges : Merges left ((channel, text) :: merged)) :
    ∃ line lines, left channel = line :: lines ∧ Encodes text line ∧
      Merges (Function.update left channel lines) merged := by
  have own := merges channel
  rw [Channel.linesOf_cons_self] at own
  cases next : left channel with
  | nil =>
    rw [next] at own
    cases own
  | cons line lines =>
    rw [next] at own
    by_cases good : ∃ other, Encodes other line
    · obtain ⟨other, encodes⟩ := good
      rw [contribution_cons encodes] at own
      obtain ⟨rfl, more⟩ := List.cons_eq_cons.mp own
      refine ⟨line, lines, rfl, encodes, fun reader => ?_⟩
      by_cases same : reader = channel
      · subst same
        rw [Function.update_self, more]
      · rw [Function.update_of_ne same, ← merges reader,
          Channel.linesOf_cons_of_ne (Ne.symm same)]
    · rw [contribution_illegible (not_exists.mp good)] at own
      cases own

/-! ### Two readers -/

/-- Two readers at work, and the lines that they keep together. -/
structure Readers where
  /-- The lines that the reader of a channel has not taken yet. -/
  left : Channel → List (List UInt8)
  /-- All that was pushed so far, in order. -/
  pushed : List (Channel × String)
  /-- The lines that are kept. -/
  kept : List String

namespace Readers

/-- Two readers that have not begun. -/
def start (output : Channel → ByteArray) : Readers :=
  ⟨fun channel => cutLines (output channel).data.toList, [], []⟩

/-- Whether both readers have come to an end. -/
def IsDone (readers : Readers) : Prop := ∀ channel, readers.left channel = []

/-- One line that is taken by one of the readers. -/
inductive Step (limit : Nat) : Readers → Readers → Prop where
  /-- The line is a text, and is pushed. -/
  | push (readers : Readers) {channel : Channel} {line : List UInt8} {lines : List (List UInt8)}
      {text : String} (next : readers.left channel = line :: lines) (encodes : Encodes text line) :
    Step limit readers ⟨Function.update readers.left channel lines,
      readers.pushed ++ [(channel, text)], keep limit readers.kept text⟩
  /-- The line is not UTF-8, and its reader stops. -/
  | stop (readers : Readers) {channel : Channel} {line : List UInt8} {lines : List (List UInt8)}
      (next : readers.left channel = line :: lines) (bad : ∀ text, ¬ Encodes text line) :
    Step limit readers { readers with left := Function.update readers.left channel [] }

/-- What the readers preserve. -/
structure Invariant (limit : Nat) (whole : Channel → List String) (readers : Readers) : Prop where
  /-- The lines that are kept are the last ones that were pushed. -/
  kept : readers.kept = lastLines limit (readers.pushed.map Prod.snd)
  /-- A channel has contributed what it does not have to contribute any more. -/
  split : ∀ channel, channel.linesOf readers.pushed ++ contribution (readers.left channel) =
    whole channel

variable {limit : Nat} {whole : Channel → List String} {readers last : Readers}

theorem invariant_start (limit : Nat) (output : Channel → ByteArray) :
    Invariant limit (fun channel => contribution (cutLines (output channel).data.toList))
      (start output) where
  kept := rfl
  split _ := rfl

/-- **A line that is taken** leaves the invariant as it is. -/
theorem Invariant.step (invariant : Invariant limit whole readers)
    (step : Step limit readers last) : Invariant limit whole last := by
  cases step with
  | @push channel line lines text next encodes =>
    refine ⟨?_, fun reader => ?_⟩
    · simp [invariant.kept, lastLines]
    · rw [← invariant.split reader]
      dsimp only
      by_cases same : reader = channel
      · subst same
        rw [Function.update_self, next, contribution_cons encodes, Channel.linesOf_append,
          Channel.linesOf_cons_self, Channel.linesOf_nil, List.append_assoc, List.singleton_append]
      · rw [Function.update_of_ne same, Channel.linesOf_append,
          Channel.linesOf_cons_of_ne (Ne.symm same), Channel.linesOf_nil, List.append_nil]
  | @stop channel line lines next bad =>
    refine ⟨invariant.kept, fun reader => ?_⟩
    rw [← invariant.split reader]
    dsimp only
    by_cases same : reader = channel
    · subst same
      rw [Function.update_self, next, contribution_illegible bad, contribution_nil]
    · rw [Function.update_of_ne same]

/-- **A run of the readers** leaves the invariant as it is, whoever's turn it was. -/
theorem Invariant.run (invariant : Invariant limit whole readers)
    (run : Relation.ReflTransGen (Step limit) readers last) : Invariant limit whole last := by
  induction run with
  | refl => exact invariant
  | tail _ step before => exact before.step step

/-- What is true at every moment. -/
structure Holds (limit : Nat) (whole : Channel → List String) (readers : Readers) : Prop where
  /-- The lines that are kept are the last of those that were pushed, -/
  tail : IsTail limit readers.pushed readers.kept
  /-- and never more than are allowed. -/
  few : readers.kept.length ≤ limit
  /-- The lines of a channel came in their order, and none is left out. -/
  ordered : ∀ channel, channel.linesOf readers.pushed <+: whole channel

theorem Invariant.holds (invariant : Invariant limit whole readers) : Holds limit whole readers := by
  have tail : IsTail limit readers.pushed readers.kept := by
    rw [invariant.kept]
    exact isTail_lastLines limit readers.pushed
  exact ⟨tail, tail.length_le, fun channel => ⟨_, invariant.split channel⟩⟩

theorem Invariant.linesOf_of_isDone (invariant : Invariant limit whole readers)
    (done : readers.IsDone) (channel : Channel) :
    channel.linesOf readers.pushed = whole channel := by
  rw [← invariant.split channel, done channel, contribution_nil, List.append_nil]

/-! ### Every way to merge lines -/

/-- A reader that contributes nothing any more comes to its end. -/
theorem exists_stopped (limit : Nat) (readers : Readers) (channel : Channel)
    (silent : contribution (readers.left channel) = []) :
    ∃ lines : Channel → List (List UInt8), lines channel = [] ∧
      (∀ other, other ≠ channel → lines other = readers.left other) ∧
      Relation.ReflTransGen (Step limit) readers { readers with left := lines } := by
  cases next : readers.left channel with
  | nil => exact ⟨readers.left, next, fun _ _ => rfl, .refl⟩
  | cons line lines =>
    rw [next] at silent
    by_cases good : ∃ text, Encodes text line
    · obtain ⟨text, encodes⟩ := good
      rw [contribution_cons encodes] at silent
      cases silent
    · exact ⟨_, Function.update_self .., fun _ apart => Function.update_of_ne apart ..,
        .single (.stop readers next (not_exists.mp good))⟩

/-- **Every way to merge** what is left is that of a run. -/
theorem exists_run (limit : Nat) {merged : List (Channel × String)} (readers : Readers)
    (merges : Merges readers.left merged) :
    ∃ last, Relation.ReflTransGen (Step limit) readers last ∧ last.IsDone ∧
      last.pushed = readers.pushed ++ merged := by
  induction merged generalizing readers with
  | nil =>
    -- a line that is no text may still be left, and one reader stops after the other
    obtain ⟨lines, ended, others, first⟩ := exists_stopped limit readers .out (merges .out).symm
    have silent : contribution (lines .err) = [] := by
      rw [others .err nofun]
      exact (merges .err).symm
    obtain ⟨rest, both, before, second⟩ :=
      exists_stopped limit { readers with left := lines } .err silent
    refine ⟨_, first.trans second, fun channel => ?_, (List.append_nil _).symm⟩
    cases channel with
    | out => exact (before .out nofun).trans ended
    | err => exact both
  | cons entry merged step =>
    obtain ⟨channel, text⟩ := entry
    obtain ⟨line, lines, next, encodes, more⟩ := merges.next
    obtain ⟨last, run, done, pushed⟩ := step ⟨Function.update readers.left channel lines,
      readers.pushed ++ [(channel, text)], keep limit readers.kept text⟩ more
    refine ⟨last, .head (.push readers next encodes) run, done, ?_⟩
    rw [pushed]
    simp

end Readers

/-! ### The output of a process -/

/-- The bytes on a channel. -/
def Finish.output (finish : Finish) : Channel → ByteArray
  | .out => finish.out
  | .err => finish.err

/-- A reading that is a line, with its channel. -/
def tagged? (entry : Channel × Reading) : Option (Channel × String) :=
  entry.2.text?.map fun text => (entry.1, text)

@[simp] theorem tagged?_line (channel : Channel) (text : String) :
    tagged? (channel, .line text) = some (channel, text) := rfl

@[simp] theorem tagged?_unreadable (channel : Channel) :
    tagged? (channel, .unreadable) = none := rfl

theorem filterMap_tagged?_map (channel : Channel) (entries : List Reading) :
    (entries.map (channel, ·)).filterMap tagged? =
      (entries.filterMap Reading.text?).map (channel, ·) := by
  rw [List.filterMap_map, List.map_filterMap]
  rfl

theorem linesOf_filterMap_tagged? (channel : Channel) (entries : List (Channel × Reading)) :
    channel.linesOf (entries.filterMap tagged?) =
      ((entries.filter fun entry => entry.1 == channel).map Prod.snd).filterMap Reading.text? := by
  induction entries with
  | nil => rfl
  | cons entry entries step =>
    obtain ⟨own, reading⟩ := entry
    by_cases same : own = channel
    · subst same
      cases reading with
      | line text => simp [Reading.text?, step]
      | unreadable => simp [Reading.text?, step, List.filterMap_cons]
    · cases reading with
      | line text => simp [step, same, Channel.linesOf_cons_of_ne same]
      | unreadable => simp [step, same, List.filterMap_cons]

/-- The lines of both channels, in the order in which they came in. -/
def Finish.merged (finish : Finish) : List (Channel × String) := finish.readings.filterMap tagged?

theorem merges_merged (finish : Finish) : Merges (Readers.start finish.output).left finish.merged := by
  intro channel
  rw [Finish.merged, linesOf_filterMap_tagged?, Finish.readings]
  cases channel with
  | out => rw [weave_out]; rfl
  | err => rw [weave_err]; rfl

theorem tailOf_eq_lastLines (limit : Nat) (finish : Finish) :
    Drive.tailOf limit finish.readings = lastLines limit (finish.merged.map Prod.snd) := by
  rw [Drive.tailOf, Finish.merged, List.map_filterMap]
  congr 2
  funext entry
  simp [tagged?, Function.comp_def]

/-- **Every way to merge lines** is that of an order in which they can come in. -/
theorem exists_order {merged : List (Channel × String)} {left : Channel → List (List UInt8)}
    (merges : Merges left merged) :
    ∃ order, (weave order (readings (left .out)) (readings (left .err))).filterMap tagged? =
      merged := by
  induction merged generalizing left with
  | nil =>
    have none : ∀ channel, (readings (left channel)).filterMap Reading.text? = [] :=
      fun channel => (merges channel).symm
    refine ⟨[], ?_⟩
    rw [weave, List.filterMap_append, filterMap_tagged?_map, filterMap_tagged?_map, none, none]
    rfl
  | cons entry merged step =>
    obtain ⟨channel, text⟩ := entry
    obtain ⟨line, lines, next, encodes, more⟩ := merges.next
    obtain ⟨order, same⟩ := step more
    refine ⟨channel :: order, ?_⟩
    cases channel with
    | out =>
      rw [Function.update_self, Function.update_of_ne (show Channel.err ≠ .out by decide)] at same
      rw [next, readings_cons encodes, weave, List.filterMap_cons, tagged?_line, same]
    | err =>
      rw [Function.update_self, Function.update_of_ne (show Channel.out ≠ .err by decide)] at same
      rw [next, readings_cons encodes, weave, List.filterMap_cons, tagged?_line, same]

/-! ### Reports -/

namespace Drive

/-- A process has a report, with the last lines of its output, if it can be told how it ended. -/
theorem exists_report {σ : Type} {host : Host σ} {world : World σ} {launch : Launch}
    {finish : Finish} (ran : (host.launch launch world.files).1 = .ok finish)
    (told : ∀ reason, finish.ending ≠ .lost reason) (limit : Nat) :
    ∃ report, ((execute launch limit).runIn host world).1 = .done report ∧
      report.tail = tailOf limit finish.readings := by
  obtain ⟨status, code, known⟩ :
      ∃ status code, statusOf finish.ending = .ok (status, code) := by
    cases ended : finish.ending with
    | lost reason => exact absurd ended (told reason)
    | _ => exact ⟨_, _, rfl⟩
  have answered : (host.handle (.launch launch) world).1 = .ok finish := ran
  unfold execute
  rw [Action.runIn_ask_bind, answered]
  dsimp only
  rw [Action.runIn_bind_of_done ((silent_logReadings finish.readings).runIn host _), known]
  dsimp only [Action.ofExcept]
  rw [pure_bind, Action.runIn_bind_of_done ((silent_logExpiry launch finish.ending).runIn host _)]
  exact ⟨_, rfl, rfl⟩

/-- What is captured of merged lines, when the channels contribute so much. -/
structure Captures (limit : Nat) (whole : Channel → List String)
    (merged : List (Channel × String)) (captured : List String) : Prop where
  /-- All lines of the channels are merged, those of each in their order. -/
  merges : ∀ channel, channel.linesOf merged = whole channel
  /-- The last of them are captured, as many as are allowed, and of each channel these are its last
  ones. -/
  tail : ∃ last, last <:+ merged ∧ last.length = min limit merged.length ∧
    captured = last.map Prod.snd ∧ ∀ channel, channel.linesOf last <:+ whole channel
  /-- Nothing is captured when nothing is allowed. -/
  nothing : limit = 0 → captured = []

theorem captures_of_isDone {limit : Nat} {whole : Channel → List String} {readers : Readers}
    (invariant : readers.Invariant limit whole) (done : readers.IsDone) :
    Captures limit whole readers.pushed readers.kept := by
  have merges := invariant.linesOf_of_isDone done
  obtain ⟨last, suffix, size, same⟩ := invariant.holds.tail
  refine ⟨merges, ⟨last, suffix, size, same, fun channel => ?_⟩, ?_⟩
  · rw [← merges channel]
    exact Channel.linesOf_suffix suffix channel
  · rintro rfl
    exact List.eq_nil_of_length_eq_zero (Nat.le_zero.mp invariant.holds.few)

/-- **The output that is captured of a process** is the tail of what its two readers push, whoever's
turn it is. Each channel contributes its lines up to the first that is not UTF-8, whatever is on the
other one; at every moment of every run the last of the lines are kept and never more than are allowed;
and every run that comes to its end captures what a report holds when the lines come in its order. -/
theorem execute_captures {σ : Type} (host : Host σ) (world : World σ) (launch : Launch)
    (limit : Nat) (finish : Finish) (ran : (host.launch launch world.files).1 = .ok finish)
    (told : ∀ reason, finish.ending ≠ .lost reason) :
    ∃ whole : Channel → List String,
      (∀ channel texts, Contributes (finish.output channel) texts ↔ texts = whole channel) ∧
      (∀ readers, Relation.ReflTransGen (Readers.Step limit) (.start finish.output) readers →
        readers.Holds limit whole ∧
        (readers.IsDone → Captures limit whole readers.pushed readers.kept ∧
          ∃ order, readers.kept =
            tailOf limit (Finish.readings { finish with order := order }))) ∧
      ∃ report readers, ((execute launch limit).runIn host world).1 = .done report ∧
        Relation.ReflTransGen (Readers.Step limit) (.start finish.output) readers ∧
        readers.IsDone ∧ readers.pushed = finish.merged ∧ report.tail = readers.kept := by
  refine ⟨fun channel => contribution (cutLines (finish.output channel).data.toList),
    fun channel texts => contributes_iff _ _, fun readers run => ?_, ?_⟩
  · have invariant := (Readers.invariant_start limit finish.output).run run
    refine ⟨invariant.holds, fun done => ⟨captures_of_isDone invariant done, ?_⟩⟩
    have merges : Merges (Readers.start finish.output).left readers.pushed :=
      invariant.linesOf_of_isDone done
    -- the order in which the lines were pushed is one in which they can come in
    obtain ⟨order, same⟩ := exists_order merges
    refine ⟨order, ?_⟩
    rw [tailOf_eq_lastLines, invariant.kept, ← same]
    rfl
  · obtain ⟨report, ended, tail⟩ := exists_report ran told limit
    obtain ⟨readers, run, done, pushed⟩ := Readers.exists_run limit _ (merges_merged finish)
    have invariant := (Readers.invariant_start limit finish.output).run run
    rw [Readers.start, List.nil_append] at pushed
    refine ⟨report, readers, ended, run, done, pushed, ?_⟩
    rw [tail, tailOf_eq_lastLines, invariant.kept, pushed]

/-- The end of a process with an unfinished line on one channel and a broken one on the other. -/
def noisyFinish : Finish :=
  ⟨⟨#[97, 13, 10, 98]⟩, ⟨#[120, 10, 255, 10, 121, 10]⟩, [.err], .exited 1⟩

/-- Of its three lines the last two are captured. -/
theorem execute_captures_noisy :
    (∀ reason, noisyFinish.ending ≠ .lost reason) ∧
      ∃ report, ((execute ⟨"tool", [], [], none, 1000⟩ 2).runIn
          (.inMemory .ok (fun _ files => (.ok noisyFinish, files)) fun _ => Trial.samplePlan.tag)
          (Trial.sampleWorld .empty)).1 = .done report ∧ report.tail = ["a", "b"] := by
  refine ⟨nofun, ?_⟩
  obtain ⟨whole, -, runs, report, readers, ended, run, done, pushed, tail⟩ :=
    execute_captures (.inMemory .ok (fun _ files => (.ok noisyFinish, files))
      fun _ => Trial.samplePlan.tag) (Trial.sampleWorld .empty) ⟨"tool", [], [], none, 1000⟩ 2
      noisyFinish rfl nofun
  obtain ⟨last, suffix, size, same, -⟩ := ((runs readers run).2 done).1.tail
  have merged : noisyFinish.merged = [(.err, "x"), (.out, "a"), (.out, "b")] := by decide +kernel
  rw [pushed, merged] at suffix size
  refine ⟨report, ended, ?_⟩
  rw [tail, same, List.suffix_iff_eq_drop.mp suffix, size]
  rfl

end Drive

end DeviceTrial
