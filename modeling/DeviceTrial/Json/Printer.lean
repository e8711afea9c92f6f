/-
**The compact text of a JSON value.**

No blanks are written. A floating-point number has the fewest digits that read back; it is written
positionally when its first digit stands at most 16 places before and at most 4 zeros behind the
point, and with an exponent otherwise.

* `quoted_ne_of_head` — a text that does not start with a quote is no quoted text;
* `Value.render` — the text of a value.
-/

import DeviceTrial.Decimal.Shortest
import DeviceTrial.Json.Value

namespace DeviceTrial.Json

/-- The lower-case hexadecimal digit of a number below sixteen. -/
def hexChar (n : Nat) : Char := if n < 10 then Char.ofNat (48 + n) else Char.ofNat (87 + n)

/-- The written form of a character between quotes. -/
def escape (c : Char) : List Char :=
  if c = '"' then ['\\', '"']
  else if c = '\\' then ['\\', '\\']
  else if c = '\n' then ['\\', 'n']
  else if c = '\r' then ['\\', 'r']
  else if c = '\t' then ['\\', 't']
  else if c = '\x08' then ['\\', 'b']
  else if c = '\x0c' then ['\\', 'f']
  else if c.toNat < 32 then ['\\', 'u', '0', '0', hexChar (c.toNat / 16), hexChar (c.toNat % 16)]
  else [c]

/-- The characters of a text between quotes. -/
def quotedChars (text : String) : List Char :=
  '"' :: text.toList.flatMap escape ++ ['"']

/-- A text between quotes. -/
def quoted (text : String) : String := String.ofList (quotedChars text)

theorem quoted_ne_of_head {text other : String} (head : other.toList.head? ≠ some '"') :
    quoted text ≠ other := by
  rintro rfl
  exact head (by simp [quoted, quotedChars, String.toList_ofList])

/-- How far before the point the first digit may stand in positional notation. -/
def positionalBefore : Int := 16

/-- How far behind the point the first digit may stand in positional notation, as the place before
it. -/
def positionalBehind : Int := -5

/-- So many zeros. -/
def zeros (n : Nat) : String := String.ofList (List.replicate n '0')

/-- The characters of a text from the position `n` on, and those before it. -/
def splitText (n : Nat) (text : String) : String × String :=
  (String.ofList (text.toList.take n), String.ofList (text.toList.drop n))

/-- The written form of a decimal that is not zero. -/
def decimalText (digits : Decimal.Digits) : String :=
  let text := toString digits.significand
  let place := (text.length : Int) + digits.power
  if 0 ≤ digits.power && place ≤ positionalBefore then
    text ++ zeros digits.power.toNat ++ ".0"
  else if 0 < place && place ≤ positionalBefore then
    let (front, back) := splitText place.toNat text
    front ++ "." ++ back
  else if positionalBehind < place && place ≤ 0 then
    "0." ++ zeros (-place).toNat ++ text
  else
    let exponent := place - 1
    let sign := if exponent < 0 then "-" else "+"
    let (front, back) := splitText 1 text
    front ++ (if back.isEmpty then "" else "." ++ back) ++ "e" ++ sign ++ toString exponent.natAbs

/-- The written form of a floating-point number. -/
def floatText (negative : Bool) (magnitude : Decimal.Binary) : String :=
  (if negative then "-" else "") ++
    if magnitude.isZero then "0.0" else decimalText magnitude.digits

mutual

/-- The compact text of a value. -/
def Value.render : Value → String
  | .null => "null"
  | .bool true => "true"
  | .bool false => "false"
  | .whole value => toString value
  | .float negative magnitude => floatText negative magnitude
  | .text value => quoted value
  | .array items => "[" ++ renderItems items ++ "]"
  | .object members => "\x7b" ++ renderMembers members ++ "\x7d"

/-- The items of an array, separated by commas. -/
def renderItems : List Value → String
  | [] => ""
  | [item] => item.render
  | item :: rest => item.render ++ "," ++ renderItems rest

/-- The members of an object, separated by commas. -/
def renderMembers : List (String × Value) → String
  | [] => ""
  | [(key, value)] => quoted key ++ ":" ++ value.render
  | (key, value) :: rest => quoted key ++ ":" ++ value.render ++ "," ++ renderMembers rest

end

end DeviceTrial.Json
