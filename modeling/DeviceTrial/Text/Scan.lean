/-
**Searching and replacing inside texts.**

Texts are searched from the left, and an occurrence that was found is never searched again.

* `cut?_eq_some` — a text that was cut is the part before, the mark and the part after;
* `replaceAllChars_of_not_occurs` — a text without the mark is left as it is.
-/

namespace DeviceTrial.Text

/-- What follows `mark` at the start of the characters. -/
def strip? : (mark cs : List Char) → Option (List Char)
  | [], cs => some cs
  | _ :: _, [] => none
  | m :: mark, c :: cs => if m = c then strip? mark cs else none

theorem strip?_eq_some {mark cs rest : List Char} (found : strip? mark cs = some rest) :
    cs = mark ++ rest := by
  induction mark generalizing cs with
  | nil => simpa [strip?] using found
  | cons m mark step =>
    cases cs with
    | nil => simp [strip?] at found
    | cons c cs =>
      by_cases same : m = c
      · subst same
        simp only [strip?, if_true] at found
        simp [step found]
      · simp [strip?, same] at found

theorem strip?_append (mark rest : List Char) : strip? mark (mark ++ rest) = some rest := by
  induction mark with
  | nil => rfl
  | cons m mark step => simp [strip?, step]

/-- The parts before and after the first occurrence of `mark`. -/
def cut? (mark : List Char) : List Char → Option (List Char × List Char)
  | [] => (strip? mark []).map fun rest => ([], rest)
  | c :: cs =>
    match strip? mark (c :: cs) with
    | some rest => some ([], rest)
    | none => (cut? mark cs).map fun parts => (c :: parts.1, parts.2)

theorem cut?_eq_some {mark cs before after : List Char}
    (found : cut? mark cs = some (before, after)) : cs = before ++ mark ++ after := by
  induction cs generalizing before with
  | nil =>
    cases stripped : strip? mark [] with
    | none => simp [cut?, stripped] at found
    | some rest =>
      simp only [cut?, stripped, Option.map_some, Option.some.injEq, Prod.mk.injEq] at found
      rw [← found.1, ← found.2]
      simpa using strip?_eq_some stripped
  | cons c cs step =>
    cases stripped : strip? mark (c :: cs) with
    | some rest =>
      simp only [cut?, stripped, Option.some.injEq, Prod.mk.injEq] at found
      rw [← found.1, ← found.2]
      simpa using strip?_eq_some stripped
    | none =>
      simp only [cut?, stripped, Option.map_eq_some_iff] at found
      obtain ⟨⟨front, back⟩, deeper, same⟩ := found
      simp only [Prod.mk.injEq] at same
      obtain ⟨rfl, rfl⟩ := same
      simp [step deeper]

/-- Whether `mark` occurs in the characters. -/
def occursIn (mark cs : List Char) : Bool := (cut? mark cs).isSome

/-- Replaces the occurrences of `mark`, at most `fuel` of them. -/
def replaceUpTo (mark value : List Char) : Nat → List Char → List Char
  | 0, cs => cs
  | fuel + 1, cs =>
    match cut? mark cs with
    | none => cs
    | some (before, after) => before ++ value ++ replaceUpTo mark value fuel after

/-- Replaces every occurrence of the (not empty) `mark`, from the left and without looking at what
was put in. A text of `n` characters holds at most `n` of them. -/
def replaceAllChars (mark value cs : List Char) : List Char :=
  replaceUpTo mark value cs.length cs

theorem replaceAllChars_of_not_occurs {mark cs : List Char} (value : List Char)
    (absent : occursIn mark cs = false) : replaceAllChars mark value cs = cs := by
  have none' : cut? mark cs = none := by simpa [occursIn] using absent
  unfold replaceAllChars
  cases cs.length with
  | zero => rfl
  | succ n => simp [replaceUpTo, none']

/-- The texts before and after the first occurrence of `mark`. -/
def cut (mark text : String) : Option (String × String) :=
  (cut? mark.toList text.toList).map fun parts => (String.ofList parts.1, String.ofList parts.2)

/-- Replaces every occurrence of the (not empty) `mark` by `value`. -/
def replaceAll (mark value text : String) : String :=
  String.ofList (replaceAllChars mark.toList value.toList text.toList)

/-- Cuts characters at every character that `isMark`; there is one part more than marks. -/
def splitChars (isMark : Char → Bool) : List Char → List (List Char)
  | [] => [[]]
  | c :: cs =>
    if isMark c then [] :: splitChars isMark cs
    else
      match splitChars isMark cs with
      | [] => [[c]]
      | part :: parts => (c :: part) :: parts

/-- Cuts a text at every occurrence of the character. -/
def splitOn (mark : Char) (text : String) : List String :=
  (splitChars (· == mark) text.toList).map String.ofList

end DeviceTrial.Text
