/-
**What a run hands to the process under test.**

The `Bindings` of a run are five texts. They replace placeholders in arguments and variables, and the
process also finds them in its environment.

* `expand` — the placeholders are replaced one name after the other;
* `expandOnce` — one scan from the left, in which text that was put in is not looked at again;
* `expand_of_no_placeholder` — a text without placeholders stays as it is.
-/

import DeviceTrial.Path
import DeviceTrial.RunTag
import DeviceTrial.Text.Scan

namespace DeviceTrial

/-- The values of one run. -/
structure Bindings where
  /-- The tag of the run. -/
  tag : RunTag
  /-- The name of the identity. -/
  thing : String
  /-- Where the certificate is, if there is one. -/
  certificate : Option Path
  /-- Where the private key is, if there is one. -/
  key : Option Path
  /-- The region of the control plane. -/
  region : String
deriving DecidableEq

namespace Bindings

/-- The text of a path, which is empty when there is none. -/
def pathText (path : Option Path) : String := (path.map Path.text).getD ""

/-- The placeholders with their values, in the order in which they are replaced. -/
def placeholders (bindings : Bindings) : List (String × String) :=
  [("$INPUT_UUID", bindings.tag.text), ("$THING_NAME", bindings.thing),
   ("$CERT_PATH", pathText bindings.certificate), ("$KEY_PATH", pathText bindings.key),
   ("$REGION", bindings.region)]

/-- Replaces every placeholder, one name after the other. -/
def expand (bindings : Bindings) (template : String) : String :=
  bindings.placeholders.foldl (fun text entry => Text.replaceAll entry.1 entry.2 text) template

/-- The value of the placeholder at the start of the characters, and what follows it. -/
def placeholderAt? (bindings : Bindings) (cs : List Char) : Option (List Char × List Char) :=
  bindings.placeholders.findSome? fun entry =>
    (Text.strip? entry.1.toList cs).map fun rest => (entry.2.toList, rest)

/-- Replaces placeholders in one scan, at most `fuel` characters long. -/
def expandChars (bindings : Bindings) : (fuel : Nat) → List Char → List Char
  | 0, cs => cs
  | _ + 1, [] => []
  | fuel + 1, c :: cs =>
    match bindings.placeholderAt? (c :: cs) with
    | some (value, rest) => value ++ bindings.expandChars fuel rest
    | none => c :: bindings.expandChars fuel cs

/-- Replaces placeholders in one scan from the left; text that was put in is not looked at. -/
def expandOnce (bindings : Bindings) (template : String) : String :=
  String.ofList (bindings.expandChars template.length template.toList)

/-- The variables that every process under test receives. -/
def environment (bindings : Bindings) : List (String × String) :=
  [("DEVICETEST_RUN_ID", bindings.tag.text), ("DEVICETEST_THING_NAME", bindings.thing),
   ("DEVICETEST_CERT_PATH", pathText bindings.certificate),
   ("DEVICETEST_KEY_PATH", pathText bindings.key), ("DEVICETEST_REGION", bindings.region)]

/-- A text in which no placeholder occurs stays as it is. -/
theorem expand_of_no_placeholder {bindings : Bindings} {template : String}
    (absent : ∀ entry ∈ bindings.placeholders,
      Text.occursIn entry.1.toList template.toList = false) :
    bindings.expand template = template := by
  have general : ∀ entries : List (String × String),
      (∀ entry ∈ entries, Text.occursIn entry.1.toList template.toList = false) →
        entries.foldl (fun text entry => Text.replaceAll entry.1 entry.2 text) template =
          template := by
    intro entries
    induction entries with
    | nil => intro _; rfl
    | cons entry rest step =>
      intro without
      have same : Text.replaceAll entry.1 entry.2 template = template := by
        unfold Text.replaceAll
        rw [Text.replaceAllChars_of_not_occurs _ (without entry (by simp)), String.ofList_toList]
      rw [List.foldl_cons, same]
      exact step fun other inside => without other (by simp [inside])
  exact general bindings.placeholders absent

end Bindings

end DeviceTrial
