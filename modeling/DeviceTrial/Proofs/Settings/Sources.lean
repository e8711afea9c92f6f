/-
**What the settings file says of each field.**

The file is taken entry by entry, and every entry counts for one field at most: the sections have
different names, and the fields of a section different keys. Where no table has a key twice, the value
that a field gets from the file is therefore what stands in the one place that is meant for it.

* `fieldOf?_eq_some_iff` — a key in a section stands for the field that has both, and for no other;
* `get?_of_foldlM` — taking entries one after the other, of which one key counts for a field;
* `get?_layerOf` — **the value that a document gives to a field** is the one in the field's place.
-/

import DeviceTrial.Proofs.Settings.Tidiness
import DeviceTrial.Settings.Environment
import DeviceTrial.Settings.File
import Mathlib.Data.List.Nodup

namespace DeviceTrial

/-! ### Every field has a place and a variable of its own -/

/-- Looking for a name finds the item that has it, when no other item has the same name. -/
theorem find?_name_eq_some_iff {α : Type} {name : α → String} {items : List α}
    (apart : ∀ left ∈ items, ∀ right ∈ items, name left = name right → left = right)
    (key : String) (item : α) :
    items.find? (fun other => name other == key) = some item ↔ item ∈ items ∧ name item = key := by
  constructor
  · intro found
    exact ⟨List.mem_of_find?_eq_some found, by simpa using List.find?_some found⟩
  · rintro ⟨inside, rfl⟩
    cases found : items.find? fun other => name other == name item with
    | none => simpa using List.find?_eq_none.mp found item inside
    | some other =>
      have same : name other = name item := by simpa using List.find?_some found
      rw [apart other (List.mem_of_find?_eq_some found) item inside same]

namespace Section

theorem mem_all (part : Section) : part ∈ all := by cases part <;> decide

/-- No two sections have one name. -/
theorem name_injective : Function.Injective name := by
  have distinct : (all.map name).Nodup := by decide +kernel
  intro left right same
  exact List.inj_on_of_nodup_map distinct (mem_all left) (mem_all right) same

end Section

namespace Field

theorem nodup_all : all.Nodup := by decide

/-- No two fields have both section and key in common. -/
theorem place_injective : Function.Injective fun field : Field => (field.home, field.key) := by
  have distinct : (all.map fun field => (field.home, field.key)).Nodup := by decide +kernel
  intro left right same
  exact List.inj_on_of_nodup_map distinct (mem_all left) (mem_all right) same

/-- **No two fields have one variable.** -/
theorem variableName_injective : Function.Injective variableName := by
  have distinct : (all.map variableName).Nodup := by decide +kernel
  intro left right same
  exact List.inj_on_of_nodup_map distinct (mem_all left) (mem_all right) same

theorem mem_ofSection_iff (field : Field) (part : Section) :
    field ∈ ofSection part ↔ field.home = part := by
  simp [ofSection, mem_all]

theorem nodup_ofSection (part : Section) : (ofSection part).Nodup := nodup_all.filter _

end Field

namespace SettingsFile

theorem section_eq_some_iff (key : String) (part : Section) :
    (Section.all.find? fun part => part.name == key) = some part ↔ part.name = key := by
  rw [find?_name_eq_some_iff fun _ _ _ _ same => Section.name_injective same]
  exact and_iff_right part.mem_all

/-- A key in a section stands for the field that has both, and for no other. -/
theorem fieldOf?_eq_some_iff (part : Section) (key : String) (field : Field) :
    fieldOf? part key = some field ↔ field.home = part ∧ field.key = key := by
  unfold fieldOf?
  rw [find?_name_eq_some_iff, Field.mem_ofSection_iff]
  intro left first right second same
  rw [Field.mem_ofSection_iff] at first second
  exact Field.place_injective (Prod.ext (first.trans second.symm) same)

/-! ### The place of a field -/

/-- What a section has in the place of a field: under its key in a table, and at its position in an
array. -/
def inSection? (field : Field) : Toml.Value → Option Toml.Value
  | .table _ entries => Toml.found? field.key entries
  | .array items | .tables items => items[(Field.ofSection field.home).idxOf field]?
  | _ => none

/-- What a document has in the place of a field. -/
def written? (entries : List (String × Toml.Value)) (field : Field) : Option Toml.Value :=
  (Toml.found? field.home.name entries).bind (inSection? field)

/-- The value that a document gives to a field. -/
def given? (entries : List (String × Toml.Value)) (field : Field) : Option field.Value :=
  (written? entries field).bind (fieldValue? field.kind)

/-! ### Taking entries -/

variable {layer after : Layer} {part : Section} {entries : List (String × Toml.Value)}
  {value : Toml.Value}

/-- **Taking entries one after the other**, of which those with one key count for a field. -/
theorem get?_of_foldlM {take : Layer → String × Toml.Value → Option Layer} {field : Field}
    {key : String} {given : Toml.Value → Option field.Value}
    (here : ∀ {layer after value}, (key, value) ∈ entries → take layer (key, value) = some after →
      after.get? field = (given value).or (layer.get? field))
    (elsewhere : ∀ {layer after other value}, other ≠ key →
      (other, value) ∈ entries → take layer (other, value) = some after →
      after.get? field = layer.get? field)
    (distinct : (entries.map Prod.fst).Nodup) (taken : entries.foldlM take layer = some after) :
    after.get? field = ((Toml.found? key entries).bind given).or (layer.get? field) := by
  induction entries generalizing layer with
  | nil =>
    cases taken
    rfl
  | cons entry rest step =>
    obtain ⟨other, value⟩ := entry
    obtain ⟨fresh, distinct⟩ := List.nodup_cons.mp distinct
    simp only [List.foldlM_cons, Option.bind_eq_bind, Option.bind_eq_some_iff] at taken
    obtain ⟨middle, first, others⟩ := taken
    rw [step (fun inside => here (List.mem_cons_of_mem _ inside))
      (fun different inside => elsewhere different (List.mem_cons_of_mem _ inside)) distinct others]
    by_cases same : other = key
    · subst same
      -- The rest has the key no more.
      have gone : Toml.found? other rest = none := by
        cases found : Toml.found? other rest with
        | none => rfl
        | some last => exact absurd (List.mem_map_of_mem (Toml.mem_of_found found)) fresh
      rw [gone, here List.mem_cons_self first, Toml.found?, if_pos rfl]
      rfl
    · rw [elsewhere same List.mem_cons_self first, Toml.found?, if_neg same]

theorem get?_setField_self {field : Field} (put : setField? layer field value = some after) :
    after.get? field = (fieldValue? field.kind value).or (layer.get? field) := by
  obtain ⟨read, known, rfl⟩ := Option.map_eq_some_iff.mp put
  rw [Layer.get?_set_self, known]
  rfl

theorem get?_setField_of_ne {field other : Field} (different : field ≠ other)
    (put : setField? layer other value = some after) : after.get? field = layer.get? field := by
  obtain ⟨read, known, rfl⟩ := Option.map_eq_some_iff.mp put
  exact layer.get?_set_of_ne read different.symm

/-- What the table of a section gives to the fields of the section. -/
theorem get?_takeEntries (distinct : (entries.map Prod.fst).Nodup)
    (taken : takeEntries part entries layer = some after) {field : Field}
    (home : field.home = part) :
    after.get? field =
      ((Toml.found? field.key entries).bind (fieldValue? field.kind)).or (layer.get? field) := by
  refine get?_of_foldlM (fun {layer after value} _ put => ?_)
    (fun {layer after other value} different _ put => ?_) distinct taken
  · have known := (fieldOf?_eq_some_iff part field.key field).mpr ⟨home, rfl⟩
    simp only [known] at put
    exact get?_setField_self put
  · split at put
    · rename_i found known
      refine get?_setField_of_ne ?_ put
      rintro rfl
      exact different ((fieldOf?_eq_some_iff part other field).mp known).2.symm
    · split at put
      · cases put
        rfl
      · cases put

/-- Taking items of which none counts for a field. -/
theorem get?_of_foldlM_elsewhere {α : Type} {take : Layer → α → Option Layer} {items : List α}
    {field : Field}
    (elsewhere : ∀ {layer after item}, item ∈ items → take layer item = some after →
      after.get? field = layer.get? field)
    (taken : items.foldlM take layer = some after) : after.get? field = layer.get? field := by
  induction items generalizing layer with
  | nil =>
    cases taken
    rfl
  | cons item rest step =>
    simp only [List.foldlM_cons, Option.bind_eq_bind, Option.bind_eq_some_iff] at taken
    obtain ⟨middle, first, others⟩ := taken
    rw [step (fun inside => elsewhere (List.mem_cons_of_mem _ inside)) others,
      elsewhere List.mem_cons_self first]

/-- What items give to the fields in whose order they stand. -/
theorem get?_of_zip {fields : List Field} (distinct : fields.Nodup) {items : List Toml.Value}
    (taken : (fields.zip items).foldlM (fun known pair => setField? known pair.1 pair.2) layer =
      some after) {field : Field} (inside : field ∈ fields) :
    after.get? field =
      (items[fields.idxOf field]?.bind (fieldValue? field.kind)).or (layer.get? field) := by
  induction fields generalizing items layer with
  | nil => cases inside
  | cons first rest step =>
    obtain ⟨fresh, distinct⟩ := List.nodup_cons.mp distinct
    cases items with
    | nil =>
      cases taken
      rfl
    | cons item items =>
      simp only [List.zip_cons_cons, List.foldlM_cons, Option.bind_eq_bind,
        Option.bind_eq_some_iff] at taken
      obtain ⟨middle, put, others⟩ := taken
      rcases List.mem_cons.mp inside with rfl | later
      · have kept : after.get? field = middle.get? field := by
          refine get?_of_foldlM_elsewhere (fun {layer after pair} member put => ?_) others
          refine get?_setField_of_ne ?_ put
          rintro rfl
          exact fresh (List.of_mem_zip member).1
        rw [kept, get?_setField_self put, List.idxOf_cons_self]
        rfl
      · have different : field ≠ first := by
          rintro rfl
          exact fresh later
        rw [step distinct others later, get?_setField_of_ne different put,
          List.idxOf_cons_ne _ different.symm, List.getElem?_cons_succ]

/-- **What a section gives to its fields.** -/
theorem get?_takeSection (tidy : value.IsTidy)
    (taken : takeSection part layer value = some after) {field : Field}
    (home : field.home = part) :
    after.get? field =
      ((inSection? field value).bind (fieldValue? field.kind)).or (layer.get? field) := by
  subst home
  have position := (field.mem_ofSection_iff field.home).mpr rfl
  cases value with
  | table origin entries =>
    exact get?_takeEntries ((Toml.isTidy_table_iff _ _).mp tidy).distinct taken rfl
  | array items => exact get?_of_zip (Field.nodup_ofSection _) taken position
  | tables items => exact get?_of_zip (Field.nodup_ofSection _) taken position
  | moment =>
    cases taken
    rfl
  | _ => cases taken

/-- **A section gives nothing to the fields of the others.** -/
theorem get?_takeSection_of_ne (taken : takeSection part layer value = some after) {field : Field}
    (away : field.home ≠ part) : after.get? field = layer.get? field := by
  have items : ∀ {items : List Toml.Value}, takeItems part items layer = some after →
      after.get? field = layer.get? field := by
    intro items taken
    refine get?_of_foldlM_elsewhere (fun {layer after pair} member put => ?_) taken
    refine get?_setField_of_ne ?_ put
    rintro rfl
    exact away ((Field.mem_ofSection_iff _ _).mp (List.of_mem_zip member).1)
  cases value with
  | table origin entries =>
    refine get?_of_foldlM_elsewhere (fun {layer after entry} _ put => ?_) taken
    split at put
    · rename_i found known
      refine get?_setField_of_ne ?_ put
      rintro rfl
      exact away ((fieldOf?_eq_some_iff _ _ _).mp known).1
    · split at put
      · cases put
        rfl
      · cases put
  | array inside => exact items taken
  | tables inside => exact items taken
  | moment =>
    cases taken
    rfl
  | _ => cases taken

/-- **The value that a document gives to a field** is the one in the field's place. -/
theorem get?_layerOf (tidy : Toml.IsTidy entries) (taken : layerOf? entries = some layer)
    (field : Field) : layer.get? field = given? entries field := by
  have whole : layer.get? field = ((Toml.found? field.home.name entries).bind fun value =>
      (inSection? field value).bind (fieldValue? field.kind)).or (Layer.empty.get? field) := by
    refine get?_of_foldlM (fun {layer after value} member put => ?_)
      (fun {layer after other value} different _ put => ?_) tidy.distinct taken
    · have known := (section_eq_some_iff field.home.name field.home).mpr rfl
      simp only [known] at put
      exact get?_takeSection (tidy.inside _ member) put rfl
    · split at put
      · rename_i found known
        refine get?_takeSection_of_ne put ?_
        rintro rfl
        exact different ((section_eq_some_iff _ _).mp known).symm
      · split at put
        · cases put
          rfl
        · cases put
  rw [whole, Layer.get?_empty, Option.or_none, given?, written?, Option.bind_assoc]

end SettingsFile

end DeviceTrial
