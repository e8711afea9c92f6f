/-
**Settings from a file.**

The settings file is written in TOML. A section is a table of its fields, or an array with the fields
in order; what a section leaves out keeps its built-in value, and unknown keys do not count. Still,
numbers under unknown keys must be numbers that can be held.

* `fieldValue?` — the value of a field, which must be of the field's kind;
* `layerOf?` — the values that a document gives to fields.
-/

import DeviceTrial.Settings.Basic
import DeviceTrial.Toml.Document

namespace DeviceTrial

namespace SettingsFile

/-- The value that is written for a field of a kind. -/
def fieldValue? : (kind : FieldKind) → Toml.Value → Option kind.Value
  | .text, .text value => some value
  | .path, .text value => some ⟨value⟩
  | .number, .whole (.ofNat n) => if n < Nat.pow 2 64 then some n else none
  | .flag, .flag value => some value
  | _, _ => none

/-- Whether a whole number can be held: in 128 bits, with or without a sign. -/
def isHeld (value : Int) : Bool := -Int.pow 2 127 ≤ value && value < Int.pow 2 128

mutual

/-- Whether a value that does not count could still be read. -/
def isReadable : Toml.Value → Bool
  | .whole value => isHeld value
  | .float tooGreat => !tooGreat
  | .text _ | .flag _ | .moment => true
  | .array items => areReadable items
  | .tables items => areReadable items
  | .table _ entries => areEntriesReadable entries

/-- Whether all values of a list could be read. -/
def areReadable : List Toml.Value → Bool
  | [] => true
  | item :: rest => isReadable item && areReadable rest

/-- Whether all values of a table could be read. -/
def areEntriesReadable : List (String × Toml.Value) → Bool
  | [] => true
  | (_, value) :: rest => isReadable value && areEntriesReadable rest

end

/-- Puts the value that is written for a field into a layer. -/
def setField? (layer : Layer) (field : Field) (written : Toml.Value) : Option Layer :=
  (fieldValue? field.kind written).map (layer.set field)

/-- The field of a section with the given key. -/
def fieldOf? (part : Section) (key : String) : Option Field :=
  (Field.ofSection part).find? fun field => field.key == key

/-- Takes the entries of a section's table. -/
def takeEntries (part : Section) (entries : List (String × Toml.Value)) (layer : Layer) :
    Option Layer :=
  entries.foldlM (fun known entry =>
    match fieldOf? part entry.1 with
    | some field => setField? known field entry.2
    | none => if isReadable entry.2 then some known else none) layer

/-- Takes the items of a section that is written as an array; those that are too many do not count. -/
def takeItems (part : Section) (items : List Toml.Value) (layer : Layer) : Option Layer :=
  ((Field.ofSection part).zip items).foldlM (fun known pair => setField? known pair.1 pair.2) layer

/-- Takes a section. A moment in the place of a section leaves all its fields out. -/
def takeSection (part : Section) (layer : Layer) : Toml.Value → Option Layer
  | .table _ entries => takeEntries part entries layer
  | .array items => takeItems part items layer
  | .tables items => takeItems part items layer
  | .moment => some layer
  | _ => none

/-- The values that the entries of a document give to fields. -/
def layerOf? (entries : List (String × Toml.Value)) : Option Layer :=
  entries.foldlM (fun known entry =>
    match Section.all.find? fun part => part.name == entry.1 with
    | some part => takeSection part known entry.2
    | none => if isReadable entry.2 then some known else none) .empty

/-- The settings of a text. -/
def read? (text : String) : Option Settings :=
  ((Toml.read? text).bind layerOf?).map fun layer => Settings.overlay layer .default

end SettingsFile

end DeviceTrial
