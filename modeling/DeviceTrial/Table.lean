/-
**Finite maps that keep the order of first insertion.**

A `Table` is a list of key-value pairs in which every key occurs once; the proof of that is part of
the value. The view of a table is `get?`:

* `get?_insert`, `get?_erase`, `get?_update` — what each operation does to the view;
* `erase_insert` — erasing a key that was new before it was inserted gives the table back, not only
  up to the view but pair for pair;
* `insert_insert`, `insert_of_get?`, `update_insert` — what becomes of a key that has a value already;
* `contains_eq_true_iff` — a key is contained when its view is not `none`.
-/

namespace DeviceTrial

universe u v

/-- A finite map from `κ` to `ν`; the pairs stand in the order in which their keys came in. -/
structure Table (κ : Type u) (ν : Type v) where
  /-- The pairs of the map. -/
  entries : List (κ × ν)
  /-- No key occurs twice. -/
  distinct : (entries.map Prod.fst).Nodup

namespace Table

variable {κ : Type u} {ν : Type v}

@[ext] theorem ext {left right : Table κ ν} (same : left.entries = right.entries) :
    left = right := by
  cases left; cases right; cases same; rfl

/-- The map without any key. -/
def empty : Table κ ν := ⟨[], List.nodup_nil⟩

instance : Inhabited (Table κ ν) := ⟨empty⟩

/-- The number of keys. -/
def size (table : Table κ ν) : Nat := table.entries.length

/-- Applies `change` to every value. -/
def mapValues {ω : Type v} (change : ν → ω) (table : Table κ ν) : Table κ ω :=
  ⟨table.entries.map fun entry => (entry.1, change entry.2), by
    have keysSame : (table.entries.map fun entry => (entry.1, change entry.2)).map Prod.fst =
        table.entries.map Prod.fst := by simp [Function.comp_def]
    rw [keysSame]; exact table.distinct⟩

variable [DecidableEq κ]

instance [DecidableEq ν] : DecidableEq (Table κ ν) := fun left right =>
  decidable_of_iff (left.entries = right.entries) ⟨Table.ext, fun same => same ▸ rfl⟩

/-- The value of the first pair with the given key. -/
def find? (key : κ) : List (κ × ν) → Option ν
  | [] => none
  | (k, value) :: rest => if k = key then some value else find? key rest

/-- The value of a key. -/
def get? (table : Table κ ν) (key : κ) : Option ν := find? key table.entries

/-- Whether a key has a value. -/
def contains (table : Table κ ν) (key : κ) : Bool := (table.get? key).isSome

/-- Puts `value` in the place of the pair with the given key, or at the end. -/
def put (key : κ) (value : ν) : List (κ × ν) → List (κ × ν)
  | [] => [(key, value)]
  | (k, old) :: rest => if k = key then (key, value) :: rest else (k, old) :: put key value rest

/-- The list without the pairs of the given key. -/
def drop (key : κ) (entries : List (κ × ν)) : List (κ × ν) :=
  entries.filter fun entry => entry.1 ≠ key

/-! ### Facts about the underlying lists -/

theorem find?_eq_none_iff (key : κ) (entries : List (κ × ν)) :
    find? key entries = none ↔ key ∉ entries.map Prod.fst := by
  induction entries with
  | nil => simp [find?]
  | cons entry rest step =>
    obtain ⟨k, value⟩ := entry
    by_cases same : k = key
    · simp [find?, same]
    · have other : ¬ key = k := fun h => same h.symm
      simp [find?, same, other, step]

theorem find?_put (key other : κ) (value : ν) (entries : List (κ × ν)) :
    find? other (put key value entries) = if other = key then some value
      else find? other entries := by
  induction entries with
  | nil =>
    by_cases same : other = key
    · simp [put, find?, same]
    · have different : ¬ key = other := fun h => same h.symm
      simp [put, find?, same, different]
  | cons entry rest step =>
    obtain ⟨k, old⟩ := entry
    by_cases here : k = key
    · subst here
      by_cases same : other = k
      · simp [put, find?, same]
      · have different : ¬ k = other := fun h => same h.symm
        simp [put, find?, same, different]
    · by_cases same : k = other
      · subst same
        simp [put, find?, here]
      · simp [put, find?, here, same, step]

theorem mem_keys_put (key other : κ) (value : ν) (entries : List (κ × ν)) :
    other ∈ (put key value entries).map Prod.fst ↔
      other = key ∨ other ∈ entries.map Prod.fst := by
  induction entries with
  | nil => simp [put]
  | cons entry rest step =>
    obtain ⟨k, old⟩ := entry
    by_cases here : k = key
    · subst here; simp [put]
    · simp only [put, here, if_false, List.map_cons, List.mem_cons, step]
      constructor <;> (intro h; rcases h with h | h | h <;> simp [h])

theorem nodup_put (key : κ) (value : ν) {entries : List (κ × ν)}
    (distinct : (entries.map Prod.fst).Nodup) :
    ((put key value entries).map Prod.fst).Nodup := by
  induction entries with
  | nil => simp [put]
  | cons entry rest step =>
    obtain ⟨k, old⟩ := entry
    simp only [List.map_cons, List.nodup_cons] at distinct
    by_cases here : k = key
    · subst here
      simp only [put, if_true, List.map_cons, List.nodup_cons]
      exact distinct
    · simp only [put, here, if_false, List.map_cons, List.nodup_cons]
      refine ⟨fun inside => ?_, step distinct.2⟩
      rcases (mem_keys_put key k value rest).mp inside with same | deeper
      · exact here same
      · exact distinct.1 deeper

theorem drop_of_not_mem (key : κ) {entries : List (κ × ν)}
    (absent : key ∉ entries.map Prod.fst) : drop key entries = entries := by
  refine List.filter_eq_self.mpr fun entry inside => ?_
  have other : entry.1 ≠ key := fun same => absent (same ▸ List.mem_map_of_mem inside)
  simpa using other

theorem find?_drop (key other : κ) (entries : List (κ × ν)) :
    find? other (drop key entries) = if other = key then none else find? other entries := by
  induction entries with
  | nil => simp [drop, find?]
  | cons entry rest step =>
    obtain ⟨k, value⟩ := entry
    by_cases gone : k = key
    · subst gone
      have here : drop k ((k, value) :: rest) = drop k rest := by simp [drop]
      rw [here, step]
      by_cases same : other = k
      · simp [same]
      · have different : ¬ k = other := fun h => same h.symm
        simp [find?, same, different]
    · have here : drop key ((k, value) :: rest) = (k, value) :: drop key rest := by
        simp [drop, gone]
      rw [here]
      by_cases same : k = other
      · subst same; simp [find?, gone]
      · simp [find?, same, step]

theorem nodup_drop (key : κ) {entries : List (κ × ν)}
    (distinct : (entries.map Prod.fst).Nodup) : ((drop key entries).map Prod.fst).Nodup :=
  List.Pairwise.sublist (List.Sublist.map Prod.fst List.filter_sublist) distinct

/-! ### The operations on tables -/

/-- Gives `key` the value `value`; a known key keeps its place. -/
def insert (table : Table κ ν) (key : κ) (value : ν) : Table κ ν :=
  ⟨put key value table.entries, nodup_put key value table.distinct⟩

/-- Takes the key away. -/
def erase (table : Table κ ν) (key : κ) : Table κ ν :=
  ⟨drop key table.entries, nodup_drop key table.distinct⟩

/-- Changes the value of `key`, if it has one. -/
def update (table : Table κ ν) (key : κ) (change : ν → ν) : Table κ ν :=
  match table.get? key with
  | none => table
  | some value => table.insert key (change value)

/-- The pairs in order, a later pair of one key giving the value. -/
def ofList (entries : List (κ × ν)) : Table κ ν :=
  entries.foldl (fun table entry => table.insert entry.1 entry.2) empty

@[simp] theorem get?_empty (key : κ) : (empty : Table κ ν).get? key = none := rfl

theorem get?_insert (table : Table κ ν) (key other : κ) (value : ν) :
    (table.insert key value).get? other = if other = key then some value
      else table.get? other :=
  find?_put key other value table.entries

@[simp] theorem get?_insert_self (table : Table κ ν) (key : κ) (value : ν) :
    (table.insert key value).get? key = some value := by
  simp [get?_insert]

theorem get?_erase (table : Table κ ν) (key other : κ) :
    (table.erase key).get? other = if other = key then none else table.get? other :=
  find?_drop key other table.entries

@[simp] theorem get?_erase_self (table : Table κ ν) (key : κ) :
    (table.erase key).get? key = none := by
  simp [get?_erase]

theorem get?_update (table : Table κ ν) (key other : κ) (change : ν → ν) :
    (table.update key change).get? other =
      if other = key then (table.get? key).map change else table.get? other := by
  unfold update
  cases found : table.get? key with
  | none =>
    by_cases same : other = key
    · simp [same, found]
    · simp [same]
  | some value => simp [get?_insert]

/-- A key has a value after a change of values when it had one before. -/
theorem get?_update_eq_none_iff (table : Table κ ν) (key other : κ) (change : ν → ν) :
    (table.update key change).get? other = none ↔ table.get? other = none := by
  rw [get?_update]
  split
  · rename_i here
    rw [here, Option.map_eq_none_iff]
  · exact Iff.rfl

theorem contains_eq_true_iff (table : Table κ ν) (key : κ) :
    table.contains key = true ↔ ∃ value, table.get? key = some value := by
  simp [contains, Option.isSome_iff_exists]

theorem not_mem_keys_of_get?_eq_none {table : Table κ ν} {key : κ}
    (absent : table.get? key = none) : key ∉ table.entries.map Prod.fst :=
  (find?_eq_none_iff key table.entries).mp absent

/-- Erasing an absent key changes nothing. -/
theorem erase_of_get?_eq_none {table : Table κ ν} {key : κ} (absent : table.get? key = none) :
    table.erase key = table :=
  Table.ext (drop_of_not_mem key (not_mem_keys_of_get?_eq_none absent))

/-- Changing the value of an absent key changes nothing. -/
theorem update_of_get?_eq_none {table : Table κ ν} {key : κ} (absent : table.get? key = none)
    (change : ν → ν) : table.update key change = table := by
  rw [update, absent]

/-- Of two keys it does not matter which is taken away first. -/
theorem erase_comm (table : Table κ ν) (first second : κ) :
    (table.erase first).erase second = (table.erase second).erase first := by
  refine Table.ext ?_
  show drop second (drop first table.entries) = drop first (drop second table.entries)
  unfold drop
  rw [List.filter_filter, List.filter_filter]
  exact List.filter_congr fun _ _ => Bool.and_comm _ _

/-- Whatever value a key was given, erasing the key makes it forgotten. -/
theorem erase_insert_self (table : Table κ ν) (key : κ) (value : ν) :
    (table.insert key value).erase key = table.erase key := by
  refine Table.ext ?_
  show drop key (put key value table.entries) = drop key table.entries
  induction table.entries with
  | nil => simp [put, drop]
  | cons entry rest step =>
    by_cases here : entry.1 = key
    · simp [put, drop, here]
    · simpa [put, drop, here] using step

/-- **Erasing a key that was new before it was inserted gives the table back.** -/
theorem erase_insert {table : Table κ ν} {key : κ} (fresh : table.get? key = none) (value : ν) :
    (table.insert key value).erase key = table := by
  rw [erase_insert_self, erase_of_get?_eq_none fresh]

/-- Of two values of one key the later counts. -/
theorem insert_insert (table : Table κ ν) (key : κ) (first second : ν) :
    (table.insert key first).insert key second = table.insert key second := by
  refine Table.ext ?_
  show put key second (put key first table.entries) = put key second table.entries
  induction table.entries with
  | nil => simp [put]
  | cons entry rest step =>
    by_cases here : entry.1 = key
    · simp [put, here]
    · simp [put, here, step]

/-- Giving a key the value that it has changes nothing. -/
theorem insert_of_get? {table : Table κ ν} {key : κ} {value : ν}
    (known : table.get? key = some value) : table.insert key value = table := by
  refine Table.ext ?_
  show put key value table.entries = table.entries
  unfold get? at known
  revert known
  induction table.entries with
  | nil => nofun
  | cons entry rest step =>
    intro known
    rw [find?] at known
    by_cases here : entry.1 = key
    · rw [if_pos here] at known
      rw [put, if_pos here, ← here, ← Option.some.inj known]
    · rw [if_neg here] at known
      rw [put, if_neg here, step known]

/-- Changing the value of a key that was just given one is giving it the changed value. -/
theorem update_insert (table : Table κ ν) (key : κ) (value : ν) (change : ν → ν) :
    (table.insert key value).update key change = table.insert key (change value) := by
  rw [update, get?_insert_self]
  exact insert_insert table key value (change value)

theorem erase_update (table : Table κ ν) (key : κ) (change : ν → ν) :
    (table.update key change).erase key = table.erase key := by
  unfold update
  split
  · rfl
  · exact erase_insert_self table key _

/-- Every pair of a table is the pair of its key. -/
theorem get?_of_mem {table : Table κ ν} {entry : κ × ν} (inside : entry ∈ table.entries) :
    table.get? entry.1 = some entry.2 := by
  have distinct := table.distinct
  unfold get?
  revert inside distinct
  induction table.entries with
  | nil => nofun
  | cons first rest step =>
    intro inside distinct
    rw [List.map_cons, List.nodup_cons] at distinct
    rcases List.mem_cons.mp inside with rfl | deeper
    · simp [find?]
    · have other : first.1 ≠ entry.1 := fun same =>
        distinct.1 (same ▸ List.mem_map_of_mem deeper)
      simpa [find?, other] using step deeper distinct.2

/-- A key that has a value has a pair. -/
theorem mem_entries_of_get? {table : Table κ ν} {key : κ} {value : ν}
    (known : table.get? key = some value) : (key, value) ∈ table.entries := by
  unfold get? at known
  revert known
  induction table.entries with
  | nil => nofun
  | cons first rest step =>
    intro known
    unfold find? at known
    split at known
    · rename_i here
      cases known
      rw [← here]
      exact List.mem_cons_self
    · exact List.mem_cons_of_mem _ (step known)

end Table

end DeviceTrial
