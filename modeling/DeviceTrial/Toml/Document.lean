/-
**What a TOML document stands for.**

The statements of a document are carried out one after the other on a table. Headers find their way
through every table that is not in braces, and through the last table of tables; dotted keys only go
through tables that no header has opened, and no header can open those afterwards. No key is given a
value twice.

* `adjust_found?` — carrying out a statement touches no other key of the table.
-/

import DeviceTrial.Toml.Statement

namespace DeviceTrial.Toml

/-- How a path goes through tables. -/
inductive Way where
  /-- As a header does. -/
  | header
  /-- As a dotted key does. -/
  | dotted
deriving DecidableEq

/-- The origin of a table that is made on a way. -/
def Way.origin : Way → Origin
  | .header => .implied
  | .dotted => .dotted

/-- The origin of a table once a way has gone through it, or nothing when the way may not. A dotted key
takes over the tables that headers only imply. -/
def Way.pass? : Way → Origin → Option Origin
  | _, .braces => none
  | .header, origin => some origin
  | .dotted, .header => none
  | .dotted, _ => some .dotted

/-- A table: its origin and its entries. -/
abbrev Body := Origin × List (String × Value)

/-- The table with the body. -/
def Body.value (body : Body) : Value := .table body.1 body.2

/-- Changes the last of some tables. -/
def changeLast (change : Value → Option Value) : List Value → Option (List Value)
  | [] => none
  | [last] => (change last).map fun changed => [changed]
  | first :: rest => (changeLast change rest).map (first :: ·)

/-- Changes the table that a value is if the way may pass it, or the last one of tables. -/
def changeTable (change : Body → Option Body) (way : Way) : Value → Option Value
  | .table origin entries => do
    let passed ← way.pass? origin
    return (← change (passed, entries)).value
  | .tables items =>
    (changeLast (fun last =>
      match last with
      | .table origin entries => (change (origin, entries)).map Body.value
      | _ => none) items).map .tables
  | _ => none

/-- Changes the table that a path leads to; tables that are missing on the way are made. -/
def adjust (change : Body → Option Body) : List (Way × String) → Body → Option Body
  | [], body => change body
  | (way, key) :: path, body =>
    match found? key body.2 with
    | none => do
      let made ← adjust change path (way.origin, [])
      return (body.1, putEntry key made.value body.2)
    | some found => do
      let changed ← changeTable (adjust change path) way found
      return (body.1, putEntry key changed body.2)

/-- The path that keys describe on one way. -/
def pathOf (way : Way) (keys : List String) : List (Way × String) := keys.map fun key => (way, key)

/-- Opens the table of a header: one that has no header yet, or a new one. -/
def openTable (key : String) (body : Body) : Option Body :=
  match found? key body.2 with
  | none => some (body.1, putEntry key (.table .header []) body.2)
  | some (.table .implied entries) => some (body.1, putEntry key (.table .header entries) body.2)
  | some _ => none

/-- Opens a new table at the end of tables. -/
def openItem (key : String) (body : Body) : Option Body :=
  match found? key body.2 with
  | none => some (body.1, putEntry key (.tables [.table .header []]) body.2)
  | some (.tables items) =>
    some (body.1, putEntry key (.tables (items ++ [.table .header []])) body.2)
  | some _ => none

/-- Adds an entry to a table that was reached on a way and that the way may go through: a dotted key
adds nothing to a table that a header has opened, even if that is the last of some tables. -/
def addEntry (way : Way) (key : String) (value : Value) (body : Body) : Option Body := do
  let passed ← way.pass? body.1
  if (found? key body.2).isSome then none
  else return (passed, putEntry key value body.2)

/-- A document while it is read: the whole table, and the path of the last header. -/
structure Reading where
  /-- The whole table. -/
  root : Body
  /-- The keys of the last header. -/
  current : List String

/-- Carries out one statement. -/
def Reading.step (reading : Reading) : Statement → Option Reading
  | .header keys => do
    let last ← keys.getLast?
    let root ← adjust (openTable last) (pathOf .header keys.dropLast) reading.root
    return ⟨root, keys⟩
  | .item keys => do
    let last ← keys.getLast?
    let root ← adjust (openItem last) (pathOf .header keys.dropLast) reading.root
    return ⟨root, keys⟩
  | .entry keys value => do
    let last ← keys.getLast?
    let way := if 1 < keys.length then Way.dotted else .header
    let path := pathOf .header reading.current ++ pathOf .dotted keys.dropLast
    let root ← adjust (addEntry way last value) path reading.root
    return ⟨root, reading.current⟩

/-- The entries of the table that a text stands for, or nothing when it is malformed. -/
def read? (text : String) : Option (List (String × Value)) := do
  let statements ← readStatements text
  let reading ← statements.foldlM Reading.step ⟨(.header, []), []⟩
  return reading.root.2

theorem adjust_found? {change : Body → Option Body} {way : Way} {key other : String}
    {path : List (Way × String)} {body after : Body}
    (changed : adjust change ((way, key) :: path) body = some after)
    (different : other ≠ key) : found? other after.2 = found? other body.2 := by
  unfold adjust at changed
  split at changed
  · simp only [Option.bind_eq_bind, Option.bind_eq_some_iff, Option.pure_def,
      Option.some.injEq] at changed
    obtain ⟨made, _, rfl⟩ := changed
    simp [found?_putEntry, different]
  · simp only [Option.bind_eq_bind, Option.bind_eq_some_iff, Option.pure_def,
      Option.some.injEq] at changed
    obtain ⟨made, _, rfl⟩ := changed
    simp [found?_putEntry, different]

end DeviceTrial.Toml
