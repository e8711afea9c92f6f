/-
**The output of a process, line by line.**

The bytes of a channel are cut into lines; the first line that is not UTF-8 ends the reading of its
channel. The lines of the two channels are woven together in the order in which they came, and the
last of them are kept.

* `cutLines_append` — the bytes of finished lines can be taken off one line at a time;
* `lastLines_eq_drop` — keeping line by line leaves the last lines of all;
* `weave_out`, `weave_err` — weaving keeps the order of each channel.
-/

import DeviceTrial.Process.Launch

namespace DeviceTrial

/-- What reading a channel yields. -/
inductive Reading where
  /-- A line. -/
  | line (text : String)
  /-- A line that is not UTF-8, after which the channel is not read any more. -/
  | unreadable
deriving DecidableEq, Repr

/-- The byte that ends a line. -/
def newline : UInt8 := 10

/-- The byte that may stand before the end of a line. -/
def carriageReturn : UInt8 := 13

/-- A finished line without the carriage return at its end. -/
def chomp (line : List UInt8) : List UInt8 :=
  if line.getLast? = some carriageReturn then line.dropLast else line

/-- Cuts bytes into lines; `current` holds the bytes of the line that is being read, the last one
first. What follows the last newline is a line if it is not empty. -/
def cutLinesFrom (current : List UInt8) : List UInt8 → List (List UInt8)
  | [] => if current.isEmpty then [] else [current.reverse]
  | byte :: rest =>
    if byte = newline then chomp current.reverse :: cutLinesFrom [] rest
    else cutLinesFrom (byte :: current) rest

/-- The lines that bytes consist of. -/
def cutLines (bytes : List UInt8) : List (List UInt8) := cutLinesFrom [] bytes

theorem cutLinesFrom_append {line : List UInt8} (clean : newline ∉ line)
    (current rest : List UInt8) :
    cutLinesFrom current (line ++ newline :: rest) =
      chomp (current.reverse ++ line) :: cutLines rest := by
  induction line generalizing current with
  | nil => simp [cutLinesFrom, cutLines]
  | cons byte line step =>
    simp only [List.mem_cons, not_or] at clean
    have other : ¬ byte = newline := fun same => clean.1 same.symm
    simp [cutLinesFrom, other, step clean.2]

/-- A line that is ended by a newline is the first line, and the rest is cut by itself. -/
theorem cutLines_append {line : List UInt8} (clean : newline ∉ line) (rest : List UInt8) :
    cutLines (line ++ newline :: rest) = chomp line :: cutLines rest := by
  show cutLinesFrom [] (line ++ newline :: rest) = chomp line :: cutLines rest
  simpa using cutLinesFrom_append clean [] rest

/-- The text of bytes, if they are UTF-8. -/
def textOf? (bytes : List UInt8) : Option String := String.fromUTF8? ⟨bytes.toArray⟩

/-- The lines as texts, up to the first one that is none. -/
def readings : List (List UInt8) → List Reading
  | [] => []
  | line :: rest =>
    match textOf? line with
    | some text => .line text :: readings rest
    | none => [.unreadable]

/-- What reading the bytes of a channel yields. -/
def readChannel (bytes : ByteArray) : List Reading := readings (cutLines bytes.data.toList)

/-- The first of the two lists goes with `out`, the second with `err`; they are taken from in the
given order, and what is left comes last. -/
def weave {α : Type} : List Channel → List α → List α → List (Channel × α)
  | [], out, err => out.map (Channel.out, ·) ++ err.map (Channel.err, ·)
  | .out :: order, [], err => weave order [] err
  | .out :: order, first :: out, err => (.out, first) :: weave order out err
  | .err :: order, out, [] => weave order out []
  | .err :: order, out, first :: err => (.err, first) :: weave order out err

/-- Everything that was read, in the order in which it came in. -/
def Finish.readings (finish : Finish) : List (Channel × Reading) :=
  weave finish.order (readChannel finish.out) (readChannel finish.err)

/-- The text of a reading that is a line. -/
def Reading.text? : Reading → Option String
  | .line text => some text
  | .unreadable => none

/-- Keeps a line among at most `limit` lines, letting the oldest go. -/
def keep (limit : Nat) (kept : List String) (line : String) : List String :=
  if limit = 0 then kept
  else if kept.length = limit then kept.drop 1 ++ [line]
  else kept ++ [line]

/-- The last lines, at most `limit` of them. -/
def lastLines (limit : Nat) (lines : List String) : List String := lines.foldl (keep limit) []

/-! ### What weaving and keeping do -/

theorem weave_out {α : Type} (order : List Channel) (out err : List α) :
    ((weave order out err).filter fun entry => entry.1 == .out).map Prod.snd = out := by
  fun_induction weave order out err with
  | case1 out err =>
    have outs : (out.map (Channel.out, ·)).filter (fun entry => entry.1 == .out) =
        out.map (Channel.out, ·) := List.filter_eq_self.mpr (by simp)
    have errs : (err.map (Channel.err, ·)).filter (fun entry => entry.1 == .out) = [] :=
      List.filter_eq_nil_iff.mpr (by simp)
    simp [List.filter_append, outs, errs, Function.comp_def]
  | case2 order err step => exact step
  | case3 order first out err step => simp [step]
  | case4 order out step => exact step
  | case5 order out first err step => simpa using step

theorem weave_err {α : Type} (order : List Channel) (out err : List α) :
    ((weave order out err).filter fun entry => entry.1 == .err).map Prod.snd = err := by
  fun_induction weave order out err with
  | case1 out err =>
    have outs : (out.map (Channel.out, ·)).filter (fun entry => entry.1 == .err) = [] :=
      List.filter_eq_nil_iff.mpr (by simp)
    have errs : (err.map (Channel.err, ·)).filter (fun entry => entry.1 == .err) =
        err.map (Channel.err, ·) := List.filter_eq_self.mpr (by simp)
    simp [List.filter_append, outs, errs, Function.comp_def]
  | case2 order err step => exact step
  | case3 order first out err step => simpa using step
  | case4 order out step => exact step
  | case5 order out first err step => simp [step]

theorem drop_append_keep (limit : Nat) (lines : List String) (line : String) :
    keep limit (lines.drop (lines.length - limit)) line =
      (lines ++ [line]).drop ((lines ++ [line]).length - limit) := by
  unfold keep
  by_cases none' : limit = 0
  · subst none'; simp
  · rw [if_neg none']
    by_cases full : limit ≤ lines.length
    · have size : (lines.drop (lines.length - limit)).length = limit := by
        simp only [List.length_drop]; omega
      rw [if_pos size, List.drop_drop, List.length_append, List.length_singleton,
        List.drop_append_of_le_length (by omega)]
      congr 2; omega
    · have size : ¬ (lines.drop (lines.length - limit)).length = limit := by
        simp only [List.length_drop]; omega
      have first : lines.length - limit = 0 := by omega
      have second : (lines ++ [line]).length - limit = 0 := by
        simp only [List.length_append, List.length_singleton]; omega
      rw [if_neg size, first, second]
      simp

/-- Keeping line by line leaves the last lines of all. -/
theorem lastLines_eq_drop (limit : Nat) (lines : List String) :
    lastLines limit lines = lines.drop (lines.length - limit) := by
  have general : ∀ before,
      lines.foldl (keep limit) (before.drop (before.length - limit)) =
        (before ++ lines).drop ((before ++ lines).length - limit) := by
    induction lines with
    | nil => intro before; simp
    | cons line rest step =>
      intro before
      rw [List.foldl_cons, drop_append_keep limit before line, step (before ++ [line])]
      simp
  show lines.foldl (keep limit) [] = lines.drop (lines.length - limit)
  simpa using general []

end DeviceTrial
