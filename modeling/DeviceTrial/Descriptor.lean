/-
**Scenario descriptors.**

A descriptor says which process is to be run and with what. It is written in JSON; unknown keys do
not count, a known key may stand once, and instead of an object its fields may be listed in order.

* `check_eq_ok_iff` — when a descriptor is acceptable;
* `Descriptor.load` — reading the descriptor at a path.
-/

import DeviceTrial.Error.Trial
import DeviceTrial.Json.Value
import DeviceTrial.Program
import DeviceTrial.Text.Blank

namespace DeviceTrial

/-- One argument of the process, possibly followed by a value. -/
structure Argument where
  /-- The argument itself. -/
  name : String
  /-- The template of the value. -/
  data : Option String
  /-- The name of the secret that is the value. -/
  secret : Option String
deriving DecidableEq, Repr

/-- What is to be run, and with what. -/
structure Descriptor where
  /-- What the scenario is about. -/
  description : String
  /-- The program. -/
  command : String
  /-- The directory to start in. -/
  directory : Option Path
  /-- The arguments in order. -/
  arguments : List Argument
  /-- The variables, sorted by name; the values are templates. -/
  environment : List (String × String)
  /-- The time that the process has, in seconds. -/
  timeout : Option Nat
deriving DecidableEq

namespace Descriptor

/-! ### Decoding -/

/-- The members of an object under the given keys, each of which may stand once, or the items of an
array in the same order; `none` for what is left out. -/
def fieldsOf? (names : List String) : Json.Syntax → Option (List (Option Json.Syntax))
  | .object members => do
    let known ← members.mapM fun member => do return (← Json.textOf? member.1, member.2)
    names.mapM fun name =>
      match known.filter fun member => member.1 == name with
      | [] => some none
      | [member] => some (some member.2)
      | _ => none
  | .array items =>
    if items.length ≤ names.length then
      some (items.map some ++ List.replicate (names.length - items.length) none)
    else none
  | _ => none

/-- A text. -/
def text? : Json.Syntax → Option String
  | .text pieces => Json.textOf? pieces
  | _ => none

/-- A whole number of 64 bits. -/
def whole? : Json.Syntax → Option Nat
  | .number numeral =>
    match Json.numberOf? numeral with
    | some (.whole (.ofNat n)) => some n
    | _ => none
  | _ => none

/-- A field that must be there. -/
def required? {α : Type} (read : Json.Syntax → Option α) : Option Json.Syntax → Option α
  | some value => read value
  | none => none

/-- A field with a value for when it is left out. -/
def withDefault? {α : Type} (value : α) (read : Json.Syntax → Option α) :
    Option Json.Syntax → Option α
  | some found => read found
  | none => some value

/-- A field that may be left out or null. -/
def optional? {α : Type} (read : Json.Syntax → Option α) :
    Option Json.Syntax → Option (Option α)
  | none => some none
  | some .null => some none
  | some value => (read value).map some

/-- The argument that a syntax stands for. -/
def argument? (written : Json.Syntax) : Option Argument := do
  match ← fieldsOf? ["name", "data", "secret"] written with
  | [name, data, secret] =>
    return ⟨← required? text? name, ← optional? text? data, ← optional? text? secret⟩
  | _ => none

/-- The arguments that a syntax stands for. -/
def arguments? : Json.Syntax → Option (List Argument)
  | .array items => items.mapM argument?
  | _ => none

/-- Gives a variable its value among variables sorted by name. -/
def insertVariable (name value : String) : List (String × String) → List (String × String)
  | [] => [(name, value)]
  | (n, old) :: rest =>
    if name = n then (name, value) :: rest
    else if name < n then (name, value) :: (n, old) :: rest
    else (n, old) :: insertVariable name value rest

/-- The variables that a syntax stands for; of one name the last value counts. -/
def environment? : Json.Syntax → Option (List (String × String))
  | .object members => members.foldlM (fun known member => do
      return insertVariable (← Json.textOf? member.1) (← text? member.2) known) []
  | _ => none

/-- The descriptor that a syntax stands for. -/
def ofSyntax? (written : Json.Syntax) : Option Descriptor := do
  match ← fieldsOf? ["description", "command", "working_dir", "arguments", "env",
      "timeout_secs"] written with
  | [description, command, directory, arguments, environment, timeout] =>
    return { description := ← withDefault? "" text? description
             command := ← required? text? command
             directory := (← optional? text? directory).map Path.mk
             arguments := ← withDefault? [] arguments? arguments
             environment := ← withDefault? [] environment? environment
             timeout := ← optional? whole? timeout }
  | _ => none

/-! ### Checking -/

/-- Fails on the first argument that is not acceptable. -/
def checkArguments : List Argument → Except String Unit
  | [] => .ok ()
  | argument :: rest =>
    if argument.name.isEmpty then .error "argument name must not be empty"
    else if argument.data.isSome && argument.secret.isSome then
      .error ("argument '" ++ argument.name ++ "' has both 'data' and 'secret'")
    else checkArguments rest

/-- Fails on a descriptor that is not acceptable. -/
def check (descriptor : Descriptor) : Except String Unit :=
  if Text.isAllBlank descriptor.command then .error "command must not be empty"
  else if descriptor.timeout = some 0 then .error "timeout_secs must be greater than 0"
  else checkArguments descriptor.arguments

/-- Whether an argument is acceptable: it has a name and not two values. -/
def IsAcceptable (argument : Argument) : Prop :=
  argument.name.isEmpty = false ∧ (argument.data = none ∨ argument.secret = none)

theorem checkArguments_eq_ok_iff (arguments : List Argument) :
    checkArguments arguments = .ok () ↔ ∀ argument ∈ arguments, IsAcceptable argument := by
  induction arguments with
  | nil => simp [checkArguments]
  | cons argument rest step =>
    unfold checkArguments
    by_cases unnamed : argument.name.isEmpty = true
    · rw [if_pos unnamed]
      constructor
      · intro wrong; cases wrong
      · intro all
        have own := (all argument (by simp)).1
        rw [unnamed] at own
        cases own
    · rw [if_neg unnamed]
      by_cases double : (argument.data.isSome && argument.secret.isSome) = true
      · simp only [double, if_true]
        constructor
        · intro wrong; cases wrong
        · intro all
          have own := (all argument (by simp)).2
          rcases own with absent | absent <;> simp [absent] at double
      · rw [if_neg double, step]
        have single : argument.data = none ∨ argument.secret = none := by
          cases first : argument.data <;> cases second : argument.secret <;>
            simp [first, second] at double ⊢
        have named : argument.name.isEmpty = false := by simpa using unnamed
        constructor
        · intro all other inside
          rcases List.mem_cons.mp inside with rfl | deeper
          · exact ⟨named, single⟩
          · exact all other deeper
        · intro all other inside
          exact all other (List.mem_cons_of_mem _ inside)

/-- When a descriptor is acceptable. -/
theorem check_eq_ok_iff (descriptor : Descriptor) :
    descriptor.check = .ok () ↔ Text.isAllBlank descriptor.command = false ∧
      descriptor.timeout ≠ some 0 ∧
      ∀ argument ∈ descriptor.arguments, IsAcceptable argument := by
  unfold check
  by_cases blank : Text.isAllBlank descriptor.command = true
  · simp [blank]
  · by_cases never : descriptor.timeout = some 0
    · simp [blank, never]
    · simp [blank, never, checkArguments_eq_ok_iff]

/-- The acceptable descriptor that a text stands for, or why there is none. -/
def read (text : String) : Except String Descriptor :=
  match (Json.Syntax.read? text).bind ofSyntax? with
  | none => .error "invalid JSON: not a scenario descriptor"
  | some descriptor => descriptor.check.map fun _ => descriptor

/-- Reads the descriptor at a path. -/
def load (path : Path) : Action TrialError Descriptor := do
  match ← Action.file (.read path) with
  | .error fault => Action.fail (.descriptor path.text ("cannot read: " ++ fault.message))
  | .ok text =>
    match read text with
    | .ok descriptor => return descriptor
    | .error reason => Action.fail (.descriptor path.text reason)

end Descriptor

end DeviceTrial
