/-
**Directives of a log filter.**

A directive sets the least level for the events that it speaks of. It can ask for the start of the
source's name and for a field. It can also ask for a span of time around the event or for the value of
a field; such a directive only speaks of events in spans, and no event is in one.

* `concerns_ofThreshold` — a directive that is only a threshold speaks of every event.
-/

import DeviceTrial.Event
import DeviceTrial.Settings.Environment
import DeviceTrial.Text.Alphanumeric
import DeviceTrial.Text.Blank
import DeviceTrial.Text.Place
import DeviceTrial.Text.Scan

namespace DeviceTrial

/-- The least level that is logged; `none` when nothing is. -/
abbrev Threshold := Option Level

/-- Whether a threshold lets a level through. -/
def Threshold.admits : Threshold → Level → Bool
  | none, _ => false
  | some least, level => least.rank ≤ level.rank

/-- The threshold of a name in lower case; the empty text stands for errors. -/
def Threshold.ofName? (text : String) : Option Threshold :=
  if text = "off" then some none
  else if text = "" then some (some .error)
  else (Level.ofName? text).map some

/-- The threshold of a number, from 0 for nothing to 5 for everything. -/
def Threshold.ofNumber? (number : Nat) : Option Threshold :=
  [none, some Level.error, some .warn, some .info, some .debug, some .trace][number]?

/-- Reads a threshold: a number, or a name in any case. -/
def Threshold.read? (text : String) : Option Threshold :=
  ((Environment.readNumber? text).bind ofNumber?).or (ofName? text.toLower)

/-- A threshold for the events of some sources. -/
structure Directive where
  /-- What the names of the sources start with. -/
  start : String
  /-- The field that the events have, if it asks for one. -/
  field : Option String
  /-- Whether it only speaks of events in spans. -/
  inSpan : Bool
  /-- The threshold. -/
  threshold : Threshold
deriving DecidableEq, Repr

namespace Directive

/-- The directive that is only a threshold. -/
def ofThreshold (threshold : Threshold) : Directive := ⟨"", none, false, threshold⟩

/-- Whether a name or a threshold can start with a character. -/
def isStart (c : Char) : Bool := Text.isAlphanumeric c || c == '-' || c == ':' || c == '_'

/-- Reads a threshold behind an equals sign, where nothing stands for everything. -/
def readBehind? (text : String) : Option Threshold :=
  if text.isEmpty then some (some .trace) else Threshold.read? text

/-! The parts of a directive are found without the blanks at its ends, the `inner` characters. A part is
then taken at its place from the `whole` characters, which have the blanks: blanks at the start shift
the parts, and blanks at the end belong to the last one. -/

/-- The part of the whole that is at the place of some inner characters, those before them given. -/
def part? (whole before part : List Char) : Option String :=
  (Text.slice? (Text.byteCount before) (Text.byteCount part) whole).map String.ofList

/-- The threshold at the end of a directive, of which the characters after the name and the brackets
remain. -/
def readEnd? (whole inner : List Char) : (remaining : List Char) → Option Threshold
  | [] => some (some .trace)
  | '=' :: after => do
    let cut ← Text.cutAt? (Text.byteCount inner - Text.byteCount after) whole
    readBehind? (String.ofList cut.2)
  | _ => none

/-- Reads what stands between braces: nothing, the name of a field, or a field with a value. -/
def readField (text : String) : Option String × Bool :=
  if text.isEmpty then (none, false)
  else
    match Text.cut "=" text with
    | some (name, _) => (some name, true)
    | none => (some text, false)

/-- Reads a directive that goes on with a bracket behind its name. -/
def readScoped? (whole inner : List Char) (start : String) (scope : List Char) :
    Option Directive := do
  let span := scope.takeWhile fun c => c ≠ ']' ∧ c ≠ '\x7b'
  let spanPart ← part? whole (inner.take (inner.length - scope.length)) span
  match scope.drop span.length with
  | ']' :: remaining => return ⟨start, none, true, ← readEnd? whole inner remaining⟩
  | '\x7b' :: braced =>
    let field := braced.takeWhile fun c => c ≠ '\x7d'
    let '\x7d' :: ']' :: remaining := braced.drop field.length | none
    let fieldPart ← part? whole (inner.take (inner.length - braced.length)) field
    let (name, hasValue) := readField fieldPart
    return ⟨start, name, hasValue || !spanPart.isEmpty, ← readEnd? whole inner remaining⟩
  | _ => none

/-- Reads a directive: a threshold, a name, or both with an equals sign between them. A span and a field
can stand in brackets behind the name. -/
def read? (text : String) : Option Directive :=
  let whole := text.toList
  let inner := Text.trimChars whole
  let name := inner.takeWhile fun c => c ≠ '=' ∧ c ≠ '['
  match inner.drop name.length with
  | '[' :: scope =>
    if name.isEmpty then readScoped? whole inner "" scope
    else if name.head?.any isStart then
      (part? whole [] name).bind fun start => readScoped? whole inner start scope
    else none
  | '=' :: after =>
    if name.head?.any isStart then do
      let start ← part? whole [] name
      return ⟨start, none, false, ← readEnd? whole inner ('=' :: after)⟩
    else none
  | _ =>
    if name.head?.any isStart then
      some (match Threshold.read? text with
        | some threshold => ofThreshold threshold
        | none => ⟨text, none, false, some .trace⟩)
    else none

/-- Whether a directive speaks of an event. -/
def concerns (directive : Directive) (event : Event) : Bool :=
  !directive.inSpan && directive.field.all event.hasField &&
    (Text.strip? directive.start.toList event.source.target.toList).isSome

/-- Whether the later one of two fields is at least as specific: any field is more specific than none,
and of two fields it is the one that comes later in order. -/
def isFieldAtLeast : (earlier later : Option String) → Bool
  | none, _ => true
  | some _, none => false
  | some earlier, some later => earlier ≤ later

/-- The more specific of two directives, and the later one when they are alike. -/
def moreSpecific (earlier later : Directive) : Directive :=
  if earlier.start.length < later.start.length ||
      earlier.start.length == later.start.length && isFieldAtLeast earlier.field later.field
  then later else earlier

theorem concerns_ofThreshold (threshold : Threshold) (event : Event) :
    (ofThreshold threshold).concerns event = true := by
  simp [concerns, ofThreshold, Text.strip?]

end Directive

end DeviceTrial
