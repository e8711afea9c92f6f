/-
**Places in a text.**

A place is counted in bytes from the start. A place inside of a character is no place of the text.

* `cutAt?_eq_some_iff` — cutting at a place gives the two parts of the text of which the first has as
  many bytes as the place says.
-/

namespace DeviceTrial.Text

/-- The number of bytes of characters. -/
def byteCount : List Char → Nat
  | [] => 0
  | c :: cs => c.utf8Size + byteCount cs

/-- The characters before and after a place. -/
def cutAt? : (place : Nat) → List Char → Option (List Char × List Char)
  | 0, cs => some ([], cs)
  | _ + 1, [] => none
  | place + 1, c :: cs =>
    if c.utf8Size ≤ place + 1 then
      (cutAt? (place + 1 - c.utf8Size) cs).map fun parts => (c :: parts.1, parts.2)
    else none

/-- The characters from a place on, as many as have the given number of bytes. -/
def slice? (place count : Nat) (cs : List Char) : Option (List Char) := do
  let behind ← cutAt? place cs
  let parts ← cutAt? count behind.2
  return parts.1

theorem byteCount_append (before after : List Char) :
    byteCount (before ++ after) = byteCount before + byteCount after := by
  induction before with
  | nil => simp [byteCount]
  | cons c cs step => simp [byteCount, step, Nat.add_assoc]

theorem cutAt?_byteCount (before after : List Char) :
    cutAt? (byteCount before) (before ++ after) = some (before, after) := by
  induction before with
  | nil => simp [byteCount, cutAt?]
  | cons c cs step =>
    obtain ⟨rest, same⟩ : ∃ rest, c.utf8Size + byteCount cs = rest + 1 :=
      ⟨c.utf8Size + byteCount cs - 1, by have := c.utf8Size_pos; omega⟩
    have left : rest + 1 - c.utf8Size = byteCount cs := by omega
    have fits : c.utf8Size ≤ rest + 1 := by omega
    simp [byteCount, same, cutAt?, fits, left, step]

theorem cutAt?_eq_some_iff {place : Nat} {cs before after : List Char} :
    cutAt? place cs = some (before, after) ↔ cs = before ++ after ∧ byteCount before = place := by
  constructor
  · intro found
    fun_induction cutAt? place cs generalizing before after with
    | case1 cs => simp_all [byteCount]
    | case2 => simp at found
    | case3 place c cs fits step =>
      simp only [Option.map_eq_some_iff, Prod.mk.injEq] at found
      obtain ⟨parts, cut, rfl, rfl⟩ := found
      obtain ⟨rfl, count⟩ := step cut
      exact ⟨rfl, by simp only [byteCount, count]; omega⟩
    | case4 => simp at found
  · rintro ⟨rfl, rfl⟩
    exact cutAt?_byteCount before after

end DeviceTrial.Text
