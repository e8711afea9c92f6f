/-
**JSON values.**

A `Value` is what a `Json.Syntax` means: whole numbers of 64 bits are kept exactly, all other numbers
are binary floating-point numbers; the keys of an object are sorted, and of one key the last value
counts. Values nested deeper than `deepest` have no meaning.

* `member?_object` — looking up a key in an object;
* `Value.read?` — the value of a text.
-/

import DeviceTrial.Decimal.Binary
import DeviceTrial.Json.Syntax

namespace DeviceTrial.Json

/-- A JSON value. -/
inductive Value where
  | null
  | bool (value : Bool)
  /-- A whole number. -/
  | whole (value : Int)
  /-- A floating-point number with its sign. -/
  | float (negative : Bool) (magnitude : Decimal.Binary)
  | text (value : String)
  | array (items : List Value)
  /-- An object; its keys are sorted and distinct. -/
  | object (members : List (String × Value))

/-- The deepest nesting of arrays and objects that has a meaning. -/
def deepest : Nat := 127

/-- The greatest whole number that is kept exactly. -/
def greatestWhole : Nat := Nat.pow 2 64 - 1

/-- The size of the least whole number that is kept exactly. -/
def leastWholeSize : Nat := Nat.pow 2 63

/-- The greatest exponent that is followed. -/
def greatestExponent : Nat := Nat.pow 2 31 - 1

/-- Appends digits to a number as long as it stays exact; what is left over comes second. -/
def takeDigits (number : Nat) : List Nat → Nat × List Nat
  | [] => (number, [])
  | d :: ds =>
    if greatestWhole < number * 10 + d then (number, d :: ds) else takeDigits (number * 10 + d) ds

/-- The value of the digits of an exponent, or nothing when it is too great. -/
def exponentOf? : (value : Nat) → List Nat → Option Nat
  | value, [] => some value
  | value, d :: ds =>
    if greatestExponent < value * 10 + d then none else exponentOf? (value * 10 + d) ds

/-- The size of a numeral as a floating-point number, or nothing when it is too great. Digits that do
not fit into a whole number of 64 bits only count for their place. -/
def magnitudeOf? (numeral : Numeral) : Option Decimal.Binary :=
  let (whole, wholeLeft) := takeDigits 0 numeral.whole
  let (significand, fractionLeft) := takeDigits whole numeral.fraction
  let places := numeral.fraction.length - fractionLeft.length
  let power : Int := (wholeLeft.length : Int) - (places : Int)
  match numeral.exponent with
  | none => Decimal.Binary.ofParts? significand power
  | some (negative, digits) =>
    match exponentOf? 0 digits with
    | some exponent =>
      Decimal.Binary.ofParts? significand
        (if negative then power - exponent else power + exponent)
    | none => if significand ≠ 0 && !negative then none else some .zero

/-- The number that a numeral means, or nothing when it is too great. -/
def numberOf? (numeral : Numeral) : Option Value :=
  let (whole, left) := takeDigits 0 numeral.whole
  let isWhole := left.isEmpty && numeral.fraction.isEmpty && numeral.exponent.isNone
  if isWhole && !numeral.negative then some (.whole whole)
  else if isWhole && whole ≠ 0 && whole ≤ leastWholeSize then some (.whole (-(whole : Int)))
  else (magnitudeOf? numeral).map (.float numeral.negative ·)

/-- Gives a key its value among sorted members. -/
def insertMember (key : String) (value : Value) : List (String × Value) → List (String × Value)
  | [] => [(key, value)]
  | (k, old) :: rest =>
    if key = k then (key, value) :: rest
    else if key < k then (key, value) :: (k, old) :: rest
    else (k, old) :: insertMember key value rest

mutual

/-- What a syntax means when arrays and objects may be nested to the given depth. -/
def ofSyntax? : (depth : Nat) → Syntax → Option Value
  | _, .null => some .null
  | _, .bool value => some (.bool value)
  | _, .number numeral => numberOf? numeral
  | _, .text pieces => (textOf? pieces).map .text
  | 0, .array _ => none
  | depth + 1, .array items => (ofItems? depth items).map .array
  | 0, .object _ => none
  | depth + 1, .object members => (ofMembers? depth [] members).map .object

/-- What the items of an array mean. -/
def ofItems? : (depth : Nat) → List Syntax → Option (List Value)
  | _, [] => some []
  | depth, item :: rest => do
    let value ← ofSyntax? depth item
    let values ← ofItems? depth rest
    return value :: values

/-- What the members of an object mean, added to those read before. -/
def ofMembers? : (depth : Nat) → List (String × Value) → List (List Piece × Syntax) →
    Option (List (String × Value))
  | _, before, [] => some before
  | depth, before, (key, value) :: rest => do
    let name ← textOf? key
    let known ← ofSyntax? depth value
    ofMembers? depth (insertMember name known before) rest

end

/-- The value of a text. -/
def Value.read? (text : String) : Option Value := (Syntax.read? text).bind (ofSyntax? deepest)

/-- The value of a key in an object; other values have no keys. -/
def Value.member? (key : String) : Value → Option Value
  | .object members => (members.find? fun member => member.1 == key).map Prod.snd
  | _ => none

@[simp] theorem Value.member?_object (key : String) (members : List (String × Value)) :
    Value.member? key (.object members) =
      (members.find? fun member => member.1 == key).map Prod.snd := rfl

end DeviceTrial.Json
