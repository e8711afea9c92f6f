/-
**Run tags and named values in JSON.**

A run tag is written as its text, and a value of a fixed list as its name. Reading takes exactly what
could be written; a named value may also stand as the only key of an object, with nothing behind it.

* `readTag?_eq_some_iff` — a document is a run tag when it is that tag's text.
-/

import DeviceTrial.Json.Printer
import DeviceTrial.RunTag
import DeviceTrial.Scenario

namespace DeviceTrial.Json

/-- The text that a document consists of. -/
def readText? (document : String) : Option String :=
  match Syntax.read? document with
  | some (.text pieces) => textOf? pieces
  | _ => none

/-- The name that a document consists of. -/
def readName? (document : String) : Option String :=
  match Syntax.read? document with
  | some (.text pieces) => textOf? pieces
  | some (.object [(key, .null)]) => textOf? key
  | _ => none

/-- The run tag that a document consists of. -/
def readTag? (document : String) : Option RunTag :=
  (readText? document).bind fun text => (RunTag.read text).toOption

/-- The protocol version that a document consists of. -/
def readProtocol? (document : String) : Option Protocol :=
  (readName? document).bind Protocol.ofName?

/-- The family that a document consists of. -/
def readFamily? (document : String) : Option Family := (readName? document).bind Family.ofName?

/-- The JSON form of a tag. -/
def ofTag (tag : RunTag) : Value := .text tag.text

/-- The JSON form of a protocol version. -/
def ofProtocol (protocol : Protocol) : Value := .text protocol.name

/-- The JSON form of a family. -/
def ofFamily (family : Family) : Value := .text family.name

theorem readTag?_eq_some_iff (document : String) (tag : RunTag) :
    readTag? document = some tag ↔
      readText? document = some tag.text := by
  unfold readTag?
  constructor
  · intro same
    obtain ⟨text, found, read⟩ := Option.bind_eq_some_iff.mp same
    have ok : RunTag.read text = .ok tag := by
      cases result : RunTag.read text with
      | error fault => simp [result, Except.toOption] at read
      | ok other =>
        simp only [result, Except.toOption, Option.some.injEq] at read
        rw [read]
    rw [found, ((RunTag.read_eq_ok_iff _ _).mp ok).2]
  · intro found
    have ok : RunTag.read tag.text = .ok tag :=
      (RunTag.read_eq_ok_iff _ _).mpr ⟨tag.valid, rfl⟩
    simp [found, ok, Except.toOption]

end DeviceTrial.Json
