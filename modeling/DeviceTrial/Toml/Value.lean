/-
**TOML values and tables under construction.**

A table remembers how it came to be, because that decides what may still be added to it: a table with
a header of its own, a table on the way to such a header, a table made by a dotted key, or a table
written in braces.

* `found?_putEntry` — what putting an entry does to looking entries up.
-/

namespace DeviceTrial.Toml

/-- How a table came to be. -/
inductive Origin where
  /-- By its own header; the whole document counts as such a table. -/
  | header
  /-- On the way to the header of another table. -/
  | implied
  /-- By a dotted key. -/
  | dotted
  /-- Between braces. -/
  | braces
deriving DecidableEq, Repr

/-- A TOML value. -/
inductive Value where
  | text (value : String)
  | whole (value : Int)
  /-- A floating-point number, of which it is only known whether it is too great. -/
  | float (tooGreat : Bool)
  | flag (value : Bool)
  /-- A date, a time, or both. -/
  | moment
  /-- An array between brackets. -/
  | array (items : List Value)
  /-- A table. -/
  | table (origin : Origin) (entries : List (String × Value))
  /-- The tables that headers in double brackets have made. -/
  | tables (items : List Value)

/-- The entry of a key. -/
def found? (key : String) : List (String × Value) → Option Value
  | [] => none
  | (k, value) :: rest => if k = key then some value else found? key rest

/-- Puts an entry in the place of the one with its key, or at the end. -/
def putEntry (key : String) (value : Value) : List (String × Value) → List (String × Value)
  | [] => [(key, value)]
  | (k, old) :: rest =>
    if k = key then (key, value) :: rest else (k, old) :: putEntry key value rest

theorem found?_putEntry (key other : String) (value : Value) (entries : List (String × Value)) :
    found? other (putEntry key value entries) =
      if other = key then some value else found? other entries := by
  induction entries with
  | nil =>
    by_cases same : other = key
    · simp [putEntry, found?, same]
    · have different : ¬ key = other := fun h => same h.symm
      simp [putEntry, found?, same, different]
  | cons entry rest step =>
    obtain ⟨k, old⟩ := entry
    by_cases here : k = key
    · subst here
      by_cases same : other = k
      · simp [putEntry, found?, same]
      · have different : ¬ k = other := fun h => same h.symm
        simp [putEntry, found?, same, different]
    · by_cases same : k = other
      · subst same
        simp [putEntry, found?, here]
      · simp [putEntry, found?, here, same, step]

end DeviceTrial.Toml
