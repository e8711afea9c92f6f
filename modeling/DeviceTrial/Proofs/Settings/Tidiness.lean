/-
**No table of a TOML document has a key twice.**

Entries come into tables in one way only, which puts an entry in the place of the one with its key or at
the end; so the tables stay tidy, from the value in braces up to the whole document, and looking a key up
in them can mean one entry only.

* `IsTidy.put` — putting a tidy value keeps a table tidy;
* `readsTidy` — what is read is tidy: a value, the items of an array, the entries of a table in braces;
* `IsTidy.adjust` — a change deep in a table keeps it tidy when the change itself does;
* `isTidy_of_read` — **the whole document** is tidy.
-/

import DeviceTrial.Table
import DeviceTrial.Toml.Document

namespace DeviceTrial.Toml

/-- That no table in a value has a key twice. -/
inductive Value.IsTidy : Value → Prop where
  | text (value : String) : IsTidy (.text value)
  | whole (value : Int) : IsTidy (.whole value)
  | float (tooGreat : Bool) : IsTidy (.float tooGreat)
  | flag (value : Bool) : IsTidy (.flag value)
  | moment : IsTidy .moment
  | array {items : List Value} (inside : ∀ item ∈ items, IsTidy item) : IsTidy (.array items)
  | table (origin : Origin) {entries : List (String × Value)}
      (distinct : (entries.map Prod.fst).Nodup) (inside : ∀ entry ∈ entries, IsTidy entry.2) :
    IsTidy (.table origin entries)
  | tables {items : List Value} (inside : ∀ item ∈ items, IsTidy item) : IsTidy (.tables items)

/-- That no key of a table occurs twice in it, nor in a table inside it. -/
structure IsTidy (entries : List (String × Value)) : Prop where
  /-- No key occurs twice. -/
  distinct : (entries.map Prod.fst).Nodup
  /-- The values are tidy. -/
  inside : ∀ entry ∈ entries, entry.2.IsTidy

theorem isTidy_nil : IsTidy [] := ⟨List.nodup_nil, nofun⟩

theorem isTidy_table_iff (origin : Origin) (entries : List (String × Value)) :
    (Value.table origin entries).IsTidy ↔ IsTidy entries := by
  constructor
  · intro tidy
    cases tidy with
    | table _ distinct inside => exact ⟨distinct, inside⟩
  · exact fun tidy => .table origin tidy.distinct tidy.inside

theorem putEntry_eq_put (key : String) (value : Value) (entries : List (String × Value)) :
    putEntry key value entries = Table.put key value entries := by
  induction entries with
  | nil => rfl
  | cons entry rest step => simp only [putEntry, Table.put, step]

variable {entries : List (String × Value)} {key : String} {value : Value}

/-- Putting a tidy value keeps a table tidy. -/
theorem IsTidy.put (tidy : IsTidy entries) (good : value.IsTidy) (key : String) :
    IsTidy (putEntry key value entries) where
  distinct := by
    rw [putEntry_eq_put]
    exact Table.nodup_put key value tidy.distinct
  inside := by
    have kept := tidy.inside
    clear tidy
    induction entries with
    | nil => simpa [putEntry] using good
    | cons entry rest step =>
      obtain ⟨here, later⟩ := List.forall_mem_cons.mp kept
      simp only [putEntry]
      split
      · exact List.forall_mem_cons.mpr ⟨good, later⟩
      · exact List.forall_mem_cons.mpr ⟨here, step later⟩

theorem mem_of_found (found : found? key entries = some value) : (key, value) ∈ entries := by
  induction entries with
  | nil => cases found
  | cons entry rest step =>
    simp only [found?] at found
    split at found
    · rename_i same
      cases found
      rw [← same]
      exact List.mem_cons_self
    · exact List.mem_cons_of_mem _ (step found)

theorem IsTidy.found (tidy : IsTidy entries) (found : found? key entries = some value) :
    value.IsTidy :=
  tidy.inside _ (mem_of_found found)

/-- Putting a tidy table keeps a table tidy. -/
theorem IsTidy.putTable {inner : List (String × Value)} (tidy : IsTidy entries)
    (good : IsTidy inner) (origin : Origin) (key : String) :
    IsTidy (putEntry key (.table origin inner) entries) :=
  tidy.put ((isTidy_table_iff _ _).mpr good) key

/-- A table inside a tidy one is tidy. -/
theorem IsTidy.foundTable {origin : Origin} {inner : List (String × Value)} (tidy : IsTidy entries)
    (found : found? key entries = some (.table origin inner)) : IsTidy inner :=
  (isTidy_table_iff _ _).mp (tidy.found found)

/-! ### Values -/

theorem IsTidy.addInline {keys : List String} {after : List (String × Value)}
    (tidy : IsTidy entries) (good : value.IsTidy)
    (added : addInline keys value entries = some after) : IsTidy after := by
  fun_induction Toml.addInline keys value entries generalizing after with
  | case1 value entries => cases added
  | case2 key value entries known => cases added
  | case3 key value entries fresh =>
    cases added
    exact tidy.put good key
  | case4 key second keys value entries fresh step =>
    simp only [Option.bind_eq_bind, Option.bind_eq_some_iff, Option.pure_def,
      Option.some.injEq] at added
    obtain ⟨inner, made, rfl⟩ := added
    exact tidy.putTable (step isTidy_nil good made) _ key
  | case5 key second keys value entries inner found step =>
    simp only [Option.bind_eq_bind, Option.bind_eq_some_iff, Option.pure_def,
      Option.some.injEq] at added
    obtain ⟨changed, made, rfl⟩ := added
    exact tidy.putTable (step (tidy.foundTable found) good made) _ key
  | case6 => cases added

theorem isTidy_of_scalar {word : List Char} (read : scalar? word = some value) :
    value.IsTidy := by
  unfold scalar? at read
  repeat' split at read
  all_goals cases read
  all_goals constructor

/-- That what is read with some fuel is tidy: a value, the items of an array, the entries of a table
in braces. -/
structure ReadsTidy (fuel : Nat) : Prop where
  /-- A value is tidy. -/
  value : ∀ {depth : Nat} {cs rest : List Char} {value : Value},
    readValue fuel depth cs = some (value, rest) → value.IsTidy
  /-- The items of an array are. -/
  items : ∀ {depth : Nat} {cs rest : List Char} {items : List Value},
    readItems fuel depth cs = some (items, rest) → ∀ item ∈ items, item.IsTidy
  /-- The entries of a table in braces are, when those before them are. -/
  entries : ∀ {depth : Nat} {before entries : List (String × Value)} {cs rest : List Char},
    IsTidy before → readEntries fuel depth before cs = some (entries, rest) → IsTidy entries

section Readers

variable {fuel depth : Nat} {cs rest : List Char} (below : ReadsTidy fuel)

include below

theorem ReadsTidy.of_readValue (read : readValue (fuel + 1) depth cs = some (value, rest)) :
    value.IsTidy := by
  unfold readValue at read
  split at read
  · obtain ⟨found, -, same⟩ := Option.map_eq_some_iff.mp read
    cases same
    exact .text _
  · obtain ⟨found, -, same⟩ := Option.map_eq_some_iff.mp read
    cases same
    exact .text _
  · split at read
    · cases read
    · obtain ⟨found, inner, same⟩ := Option.map_eq_some_iff.mp read
      cases same
      exact .array (below.items inner)
  · split at read
    · cases read
    · obtain ⟨found, inner, same⟩ := Option.map_eq_some_iff.mp read
      cases same
      exact (isTidy_table_iff _ _).mpr (below.entries isTidy_nil inner)
  · simp only [Option.bind_eq_bind, Option.bind_eq_some_iff, Option.pure_def,
      Option.some.injEq] at read
    obtain ⟨scalar, known, same⟩ := read
    cases same
    exact isTidy_of_scalar known

theorem ReadsTidy.of_readItems {items : List Value}
    (read : readItems (fuel + 1) depth cs = some (items, rest)) : ∀ item ∈ items, item.IsTidy := by
  unfold readItems at read
  simp only [Option.bind_eq_bind, Option.bind_eq_some_iff, Option.pure_def] at read
  obtain ⟨start, -, read⟩ := read
  split at read
  · cases read
    nofun
  · simp only [Option.bind_eq_some_iff] at read
    obtain ⟨⟨item, behind⟩, one, next, -, read⟩ := read
    dsimp only at read
    split at read
    · cases read
      exact List.forall_mem_singleton.mpr (below.value one)
    · simp only [Option.bind_eq_some_iff, Option.some.injEq] at read
      obtain ⟨⟨others, last⟩, more, same⟩ := read
      cases same
      exact List.forall_mem_cons.mpr ⟨below.value one, below.items more⟩
    · cases read

theorem ReadsTidy.of_readEntries {before : List (String × Value)} (tidy : IsTidy before)
    (read : readEntries (fuel + 1) depth before cs = some (entries, rest)) : IsTidy entries := by
  unfold readEntries at read
  simp only [Option.bind_eq_bind, Option.bind_eq_some_iff, Option.pure_def] at read
  obtain ⟨start, -, read⟩ := read
  split at read
  · cases read
    exact tidy
  · simp only [Option.bind_eq_some_iff] at read
    obtain ⟨⟨keys, behind⟩, -, read⟩ := read
    dsimp only at read
    split at read
    · simp only [Option.bind_eq_some_iff] at read
      obtain ⟨⟨value, behind⟩, one, entries, added, next, -, read⟩ := read
      have grown := tidy.addInline (below.value one) added
      split at read
      · cases read
        exact grown
      · exact below.entries grown read
      · cases read
    · cases read

end Readers

/-- **What is read is tidy**, whatever the fuel. -/
theorem readsTidy (fuel : Nat) : ReadsTidy fuel := by
  induction fuel with
  | zero => exact ⟨nofun, nofun, nofun⟩
  | succ fuel below => exact ⟨below.of_readValue, below.of_readItems, below.of_readEntries⟩

/-! ### Documents -/

/-- That the value of an entry is tidy. -/
def Statement.IsTidy : Statement → Prop
  | .header _ | .item _ => True
  | .entry _ value => value.IsTidy

theorem isTidy_of_readLine {cs rest : List Char} {found : Option Statement}
    (read : readLine cs = some (found, rest)) : ∀ statement ∈ found, statement.IsTidy := by
  unfold readLine at read
  dsimp only at read
  split at read
  · simp only [Option.bind_eq_bind, Option.bind_eq_some_iff] at read
    obtain ⟨⟨keys, behind⟩, -, read⟩ := read
    dsimp only at read
    split at read
    · simp only [Option.bind_eq_some_iff, Option.pure_def, Option.some.injEq] at read
      obtain ⟨last, -, same⟩ := read
      cases same
      rintro _ ⟨⟩
      trivial
    · cases read
  · simp only [Option.bind_eq_bind, Option.bind_eq_some_iff] at read
    obtain ⟨⟨keys, behind⟩, -, read⟩ := read
    dsimp only at read
    split at read
    · simp only [Option.bind_eq_some_iff, Option.pure_def, Option.some.injEq] at read
      obtain ⟨last, -, same⟩ := read
      cases same
      rintro _ ⟨⟩
      trivial
    · cases read
  · split at read
    · cases read
      nofun
    · simp only [Option.bind_eq_bind, Option.bind_eq_some_iff] at read
      obtain ⟨⟨keys, behind⟩, -, read⟩ := read
      dsimp only at read
      split at read
      · simp only [Option.bind_eq_some_iff, Option.pure_def, Option.some.injEq] at read
        obtain ⟨⟨value, behind⟩, known, last, -, same⟩ := read
        cases same
        rintro _ ⟨⟩
        exact (readsTidy _).value known
      · cases read

theorem isTidy_of_readLines {fuel : Nat} {cs : List Char} {statements : List Statement}
    (read : readLines fuel cs = some statements) :
    ∀ statement ∈ statements, statement.IsTidy := by
  induction fuel generalizing cs statements with
  | zero =>
    unfold readLines at read
    split at read
    · cases read
      nofun
    · cases read
  | succ fuel step =>
    unfold readLines at read
    split at read
    · cases read
      nofun
    · simp only [Option.bind_eq_bind, Option.bind_eq_some_iff, Option.pure_def,
        Option.some.injEq] at read
      obtain ⟨⟨found, rest⟩, line, others, more, rfl⟩ := read
      intro statement inside
      rcases List.mem_append.mp inside with here | later
      · exact isTidy_of_readLine line statement (Option.mem_toList.mp here)
      · exact step more statement later

/-- What a change of tables keeps. -/
def KeepsTidy (change : Body → Option Body) : Prop :=
  ∀ {body after : Body}, IsTidy body.2 → change body = some after → IsTidy after.2

theorem keepsTidy_openTable (key : String) : KeepsTidy (openTable key) := by
  intro body after tidy opened
  unfold openTable at opened
  split at opened
  · cases opened
    exact tidy.putTable isTidy_nil _ key
  · rename_i entries found
    cases opened
    exact tidy.putTable (tidy.foundTable found) _ key
  · cases opened

theorem keepsTidy_openItem (key : String) : KeepsTidy (openItem key) := by
  have fresh : (Value.table .header []).IsTidy := (isTidy_table_iff _ _).mpr isTidy_nil
  intro body after tidy opened
  unfold openItem at opened
  split at opened
  · cases opened
    exact tidy.put (.tables (List.forall_mem_singleton.mpr fresh)) key
  · rename_i items found
    cases opened
    refine tidy.put (.tables fun item inside => ?_) key
    have before := tidy.found found
    cases before with
    | tables known =>
      rcases List.mem_append.mp inside with earlier | last
      · exact known item earlier
      · rw [List.mem_singleton.mp last]
        exact fresh
  · cases opened

theorem keepsTidy_addEntry (way : Way) (key : String) (good : value.IsTidy) :
    KeepsTidy (addEntry way key value) := by
  intro body after tidy added
  unfold addEntry at added
  simp only [Option.bind_eq_bind, Option.bind_eq_some_iff, Option.pure_def] at added
  obtain ⟨passed, -, added⟩ := added
  split at added
  · cases added
  · cases added
    exact tidy.put good key

theorem forall_tidy_of_changeLast {change : Value → Option Value}
    (keeps : ∀ {value after : Value}, value.IsTidy → change value = some after → after.IsTidy)
    {items after : List Value} (tidy : ∀ item ∈ items, item.IsTidy)
    (changed : changeLast change items = some after) : ∀ item ∈ after, item.IsTidy := by
  fun_induction changeLast change items generalizing after with
  | case1 => cases changed
  | case2 last =>
    obtain ⟨other, made, rfl⟩ := Option.map_eq_some_iff.mp changed
    exact List.forall_mem_singleton.mpr (keeps (tidy last List.mem_cons_self) made)
  | case3 first rest _ step =>
    obtain ⟨others, made, rfl⟩ := Option.map_eq_some_iff.mp changed
    obtain ⟨here, later⟩ := List.forall_mem_cons.mp tidy
    exact List.forall_mem_cons.mpr ⟨here, step later made⟩

theorem isTidy_of_changeTable {change : Body → Option Body} (keeps : KeepsTidy change) {way : Way}
    {after : Value} (tidy : value.IsTidy) (changed : changeTable change way value = some after) :
    after.IsTidy := by
  unfold changeTable at changed
  split at changed
  · rename_i origin entries
    simp only [Option.bind_eq_bind, Option.bind_eq_some_iff, Option.pure_def,
      Option.some.injEq] at changed
    obtain ⟨passed, -, body, made, rfl⟩ := changed
    exact (isTidy_table_iff _ _).mpr (keeps ((isTidy_table_iff _ _).mp tidy) made)
  · obtain ⟨items, made, rfl⟩ := Option.map_eq_some_iff.mp changed
    refine .tables (forall_tidy_of_changeLast (fun {last other} good done => ?_) ?_ made)
    · split at done
      · obtain ⟨body, inner, rfl⟩ := Option.map_eq_some_iff.mp done
        exact (isTidy_table_iff _ _).mpr (keeps ((isTidy_table_iff _ _).mp good) inner)
      · cases done
    · cases tidy with
      | tables inside => exact inside
  · cases changed

/-- **A change deep in a table** keeps it tidy when the change itself does. -/
theorem IsTidy.adjust {change : Body → Option Body} (keeps : KeepsTidy change)
    (path : List (Way × String)) : KeepsTidy (Toml.adjust change path) := by
  induction path with
  | nil => exact keeps
  | cons step path deeper =>
    intro body after tidy changed
    obtain ⟨way, key⟩ := step
    unfold Toml.adjust at changed
    split at changed
    · simp only [Option.bind_eq_bind, Option.bind_eq_some_iff, Option.pure_def,
        Option.some.injEq] at changed
      obtain ⟨made, inner, rfl⟩ := changed
      exact tidy.putTable (deeper isTidy_nil inner) _ key
    · rename_i value found
      simp only [Option.bind_eq_bind, Option.bind_eq_some_iff, Option.pure_def,
        Option.some.injEq] at changed
      obtain ⟨made, inner, rfl⟩ := changed
      exact tidy.put (isTidy_of_changeTable deeper (tidy.found found) inner) key

/-- Carrying out a statement keeps the document tidy. -/
theorem IsTidy.step {reading after : Reading} {statement : Statement}
    (tidy : IsTidy reading.root.2) (good : statement.IsTidy)
    (carried : reading.step statement = some after) : IsTidy after.root.2 := by
  cases statement with
  | header keys =>
    simp only [Reading.step, Option.bind_eq_bind, Option.bind_eq_some_iff, Option.pure_def,
      Option.some.injEq] at carried
    obtain ⟨last, -, root, changed, rfl⟩ := carried
    exact IsTidy.adjust (keepsTidy_openTable last) _ tidy changed
  | item keys =>
    simp only [Reading.step, Option.bind_eq_bind, Option.bind_eq_some_iff, Option.pure_def,
      Option.some.injEq] at carried
    obtain ⟨last, -, root, changed, rfl⟩ := carried
    exact IsTidy.adjust (keepsTidy_openItem last) _ tidy changed
  | entry keys value =>
    simp only [Reading.step, Option.bind_eq_bind, Option.bind_eq_some_iff, Option.pure_def,
      Option.some.injEq] at carried
    obtain ⟨last, -, root, changed, rfl⟩ := carried
    exact IsTidy.adjust (keepsTidy_addEntry _ last good) _ tidy changed

/-- Carrying out statements one after the other keeps the document tidy. -/
theorem IsTidy.steps {statements : List Statement} {reading after : Reading}
    (tidy : IsTidy reading.root.2) (good : ∀ statement ∈ statements, statement.IsTidy)
    (carried : statements.foldlM Reading.step reading = some after) : IsTidy after.root.2 := by
  induction statements generalizing reading with
  | nil =>
    cases carried
    exact tidy
  | cons statement statements step =>
    obtain ⟨here, later⟩ := List.forall_mem_cons.mp good
    simp only [List.foldlM_cons, Option.bind_eq_bind, Option.bind_eq_some_iff] at carried
    obtain ⟨next, one, rest⟩ := carried
    exact step (tidy.step here one) later rest

/-- **No table of a document has a key twice.** -/
theorem isTidy_of_read {text : String} (read : read? text = some entries) : IsTidy entries := by
  unfold read? at read
  simp only [Option.bind_eq_bind, Option.bind_eq_some_iff, Option.pure_def,
    Option.some.injEq] at read
  obtain ⟨statements, lines, reading, carried, rfl⟩ := read
  have start : IsTidy (⟨(.header, []), []⟩ : Reading).root.2 := isTidy_nil
  exact start.steps (isTidy_of_readLines lines) carried

end DeviceTrial.Toml
