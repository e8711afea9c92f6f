/-
**Settings from environment variables.**

Every field has a variable. Texts and paths are taken as they are; a number or a flag that cannot be
read is ignored with a warning.

* `readFlag?_eq_some_iff` — only `true` and `false` are flags.
-/

import DeviceTrial.Program
import DeviceTrial.Settings.Basic

namespace DeviceTrial

/-- The variables that are set, by name. -/
abbrev Variables := List (String × String)

namespace Environment

/-- The value of a variable. -/
def lookUp? (environment : Variables) (name : String) : Option String :=
  (environment.find? fun entry => entry.1 == name).map Prod.snd

/-- The greatest number that a field can have. -/
def greatestNumber : Nat := Nat.pow 2 64 - 1

/-- A number: ASCII digits with at most one plus sign before them. -/
def readNumber? (text : String) : Option Nat :=
  let digits := match text.toList with
    | '+' :: rest => rest
    | rest => rest
  if digits.isEmpty || !digits.all Char.isDigit then none
  else
    let value := digits.foldl (fun value c => value * 10 + (c.toNat - 48)) 0
    if value ≤ greatestNumber then some value else none

/-- A flag. -/
def readFlag? (text : String) : Option Bool :=
  if text = "true" then some true else if text = "false" then some false else none

theorem readFlag?_eq_some_iff (text : String) (flag : Bool) :
    readFlag? text = some flag ↔
      (text = "true" ∧ flag = true) ∨ (text = "false" ∧ flag = false) := by
  unfold readFlag?
  by_cases yes : text = "true"
  · subst yes; cases flag <;> simp
  · by_cases no : text = "false"
    · subst no; cases flag <;> simp
    · simp [yes, no]

/-- The value that a text is for a kind of field. -/
def readValue? : (kind : FieldKind) → String → Option kind.Value
  | .text, text => some text
  | .path, text => some ⟨text⟩
  | .number, text => readNumber? text
  | .flag, text => readFlag? text

/-- The values that variables give to fields. -/
def layer (environment : Variables) : Layer :=
  ⟨fun field => (lookUp? environment field.variableName).bind (readValue? field.kind)⟩

/-- Warns of the variables that are set and cannot be read. -/
def warnings {ε : Type} (environment : Variables) : List Field → Action ε Unit
  | [] => return ()
  | field :: rest => do
    match lookUp? environment field.variableName with
    | none => pure ()
    | some text =>
      if (readValue? field.kind text).isNone then
        Action.log .warn .settings
          ("failed to parse " ++ field.valueName ++ " from env var, ignoring")
          [("env_key", field.variableName), ("value", text)]
    warnings environment rest

/-- Lays the variables over settings, with warnings. -/
def apply {ε : Type} (environment : Variables) (settings : Settings) : Action ε Settings := do
  warnings environment Field.all
  return Settings.overlay (layer environment) settings

end Environment

end DeviceTrial
