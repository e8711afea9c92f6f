/-
**The lines that a channel contributes.**

What a program makes of the bytes of a channel is compared with what lines are:

* `Splits` — bytes as lines, which end in a newline or in a carriage return and a newline, but for the
  last; `splits_iff` — cutting bytes gives their lines and nothing else;
* `Legible` — lines as texts, up to the first that is not UTF-8;
* `contributes_iff` — **a channel contributes exactly these texts**, whatever its bytes are.
-/

import DeviceTrial.Process.Output
import Mathlib.Data.List.Basic

namespace DeviceTrial

/-! ### Lines -/

/-- That bytes consist of lines. -/
inductive Splits : List UInt8 → List (List UInt8) → Prop where
  /-- There is nothing. -/
  | nil : Splits [] []
  /-- The last line is not finished; all of its bytes belong to it. -/
  | unfinished {line : List UInt8} (clean : newline ∉ line) (some : line ≠ []) :
    Splits line [line]
  /-- A newline ends the first line. -/
  | plain {line rest : List UInt8} {lines : List (List UInt8)} (clean : newline ∉ line)
      (bare : line.getLast? ≠ some carriageReturn) (more : Splits rest lines) :
    Splits (line ++ newline :: rest) (line :: lines)
  /-- A carriage return and a newline end the first line. -/
  | returned {line rest : List UInt8} {lines : List (List UInt8)} (clean : newline ∉ line)
      (more : Splits rest lines) :
    Splits (line ++ carriageReturn :: newline :: rest) (line :: lines)

theorem chomp_of_bare {line : List UInt8} (bare : line.getLast? ≠ some carriageReturn) :
    chomp line = line := if_neg bare

theorem chomp_append_return (line : List UInt8) : chomp (line ++ [carriageReturn]) = line := by
  simp [chomp]

theorem cutLinesFrom_of_clean {line : List UInt8} (clean : newline ∉ line)
    (current : List UInt8) :
    cutLinesFrom current line =
      if (current.reverse ++ line).isEmpty then [] else [current.reverse ++ line] := by
  induction line generalizing current with
  | nil => simp [cutLinesFrom]
  | cons byte line step =>
    simp only [List.mem_cons, not_or] at clean
    have other : ¬ byte = newline := fun same => clean.1 same.symm
    simp [cutLinesFrom, other, step clean.2]

theorem Splits.eq_cutLines {bytes : List UInt8} {lines : List (List UInt8)}
    (splits : Splits bytes lines) : lines = cutLines bytes := by
  induction splits with
  | nil => rfl
  | unfinished clean some =>
    rw [cutLines, cutLinesFrom_of_clean clean]
    simp [some]
  | plain clean bare more step => rw [cutLines_append clean, chomp_of_bare bare, step]
  | @returned line rest lines clean more step =>
    have unbroken : newline ∉ line ++ [carriageReturn] := by
      simpa [newline, carriageReturn] using clean
    have cut := cutLines_append unbroken rest
    rw [List.append_assoc, chomp_append_return] at cut
    exact (congrArg (line :: ·) step).trans cut.symm

/-- A finished line in front of other lines. -/
theorem Splits.finished {line rest : List UInt8} {lines : List (List UInt8)}
    (clean : newline ∉ line) (more : Splits rest lines) :
    Splits (line ++ newline :: rest) (chomp line :: lines) := by
  by_cases ends : line.getLast? = some carriageReturn
  · obtain ⟨front, rfl⟩ := List.getLast?_eq_some_iff.mp ends
    have before : newline ∉ front := fun inside => clean (List.mem_append_left _ inside)
    rw [chomp_append_return, List.append_assoc]
    exact .returned before more
  · rw [chomp_of_bare ends]
    exact .plain clean ends more

theorem splits_cutLines (bytes : List UInt8) : Splits bytes (cutLines bytes) := by
  induction size : bytes.length using Nat.strongRecOn generalizing bytes with
  | ind size step =>
    subst size
    by_cases broken : newline ∈ bytes
    · obtain ⟨line, rest, rfl, clean⟩ := List.eq_append_cons_of_mem broken
      rw [cutLines_append clean]
      exact .finished clean (step rest.length (by simp; omega) rest rfl)
    · rw [cutLines, cutLinesFrom_of_clean broken]
      by_cases empty : bytes = []
      · subst empty
        exact .nil
      · simpa [empty] using Splits.unfinished broken empty

/-- **Cutting bytes** gives the lines that they consist of, and there are no others. -/
theorem splits_iff (bytes : List UInt8) (lines : List (List UInt8)) :
    Splits bytes lines ↔ lines = cutLines bytes :=
  ⟨Splits.eq_cutLines, fun same => same ▸ splits_cutLines bytes⟩

/-! ### Texts -/

/-- That a line is the UTF-8 form of a text. -/
def Encodes (text : String) (line : List UInt8) : Prop := text.toUTF8.data.toList = line

/-- That lines are texts, up to the first that is not UTF-8. -/
inductive Legible : List (List UInt8) → List String → Prop where
  /-- There is no line. -/
  | nil : Legible [] []
  /-- The first line is a text. -/
  | cons {text : String} {line : List UInt8} {lines : List (List UInt8)} {texts : List String}
      (encodes : Encodes text line) (rest : Legible lines texts) :
    Legible (line :: lines) (text :: texts)
  /-- The first line is no text, and it does not matter what comes after it. -/
  | illegible {line : List UInt8} (lines : List (List UInt8))
      (bad : ∀ text, ¬ Encodes text line) : Legible (line :: lines) []

theorem textOf?_eq_some_iff (line : List UInt8) (text : String) :
    textOf? line = some text ↔ Encodes text line := by
  unfold textOf? Encodes
  constructor
  · intro found
    unfold String.fromUTF8? at found
    split at found
    · cases found
      rfl
    · cases found
  · rintro rfl
    exact dif_pos text.isValidUTF8

theorem textOf?_eq_none_iff (line : List UInt8) :
    textOf? line = none ↔ ∀ text, ¬ Encodes text line := by
  simp only [← textOf?_eq_some_iff, Option.eq_none_iff_forall_ne_some, ne_eq]

theorem readings_cons {line : List UInt8} {text : String} (encodes : Encodes text line)
    (lines : List (List UInt8)) : readings (line :: lines) = .line text :: readings lines := by
  simp [readings, (textOf?_eq_some_iff line text).mpr encodes]

theorem readings_illegible {line : List UInt8} (bad : ∀ text, ¬ Encodes text line)
    (lines : List (List UInt8)) : readings (line :: lines) = [.unreadable] := by
  simp [readings, (textOf?_eq_none_iff line).mpr bad]

/-- The texts that are read from lines. -/
def contribution (lines : List (List UInt8)) : List String :=
  (readings lines).filterMap Reading.text?

@[simp] theorem contribution_nil : contribution [] = [] := rfl

theorem contribution_cons {line : List UInt8} {text : String} (encodes : Encodes text line)
    (lines : List (List UInt8)) : contribution (line :: lines) = text :: contribution lines := by
  rw [contribution, readings_cons encodes]
  rfl

theorem contribution_illegible {line : List UInt8} (bad : ∀ text, ¬ Encodes text line)
    (lines : List (List UInt8)) : contribution (line :: lines) = [] := by
  rw [contribution, readings_illegible bad]
  rfl

theorem legible_iff (lines : List (List UInt8)) (texts : List String) :
    Legible lines texts ↔ texts = contribution lines := by
  constructor
  · intro legible
    induction legible with
    | nil => rfl
    | cons encodes rest step => rw [contribution_cons encodes, step]
    | illegible lines bad => rw [contribution_illegible bad]
  · rintro rfl
    induction lines with
    | nil => exact .nil
    | cons line lines step =>
      by_cases good : ∃ text, Encodes text line
      · obtain ⟨text, encodes⟩ := good
        rw [contribution_cons encodes]
        exact .cons encodes step
      · rw [contribution_illegible (not_exists.mp good)]
        exact .illegible lines (not_exists.mp good)

/-- That the bytes of a channel contribute texts: its lines, up to the first that is not UTF-8. -/
def Contributes (bytes : ByteArray) (texts : List String) : Prop :=
  ∃ lines, Splits bytes.data.toList lines ∧ Legible lines texts

/-- **A channel contributes its lines**, up to the first that is not UTF-8, and nothing else. -/
theorem contributes_iff (bytes : ByteArray) (texts : List String) :
    Contributes bytes texts ↔ texts = (readChannel bytes).filterMap Reading.text? := by
  simp only [Contributes, splits_iff, exists_eq_left, legible_iff]
  rfl

end DeviceTrial
