/-
**The grammar of JSON.**

A text is read into a `Syntax`, which keeps numerals as they were written and texts with their
escapes, so that what is never looked at need not have a meaning. Blanks are space, tab, newline and
carriage return; nothing but blanks may follow the value.

* `readValue` and its companions read one piece and give what is left; the fuel of the wrapper
  `Syntax.read?` is twice the length of the text, since every second step takes a character.
-/

namespace DeviceTrial.Json

/-- A numeral as it was written. -/
structure Numeral where
  /-- Whether a minus sign stands in front. -/
  negative : Bool
  /-- The digits before the point. -/
  whole : List Nat
  /-- The digits behind the point, if there is one. -/
  fraction : List Nat
  /-- The sign and the digits of the exponent, if there is one. -/
  exponent : Option (Bool × List Nat)
deriving DecidableEq, Repr

/-- A piece of a text between quotes. -/
inductive Piece where
  /-- A character that stands for itself, or that was written with a short escape. -/
  | plain (c : Char)
  /-- Four hexadecimal digits: a unit of UTF-16. -/
  | unit (code : Nat)
deriving DecidableEq, Repr

/-- A JSON value as it was written. -/
inductive Syntax where
  | null
  | bool (value : Bool)
  | number (numeral : Numeral)
  | text (pieces : List Piece)
  | array (items : List Syntax)
  | object (members : List (List Piece × Syntax))

/-- Whether a character may stand between the parts of a value. -/
def isBlank (c : Char) : Bool := c == ' ' || c == '\t' || c == '\n' || c == '\r'

/-- What follows the blanks. -/
def skipBlanks (cs : List Char) : List Char := cs.dropWhile isBlank

/-- The value of a decimal digit. -/
def digit? (c : Char) : Option Nat := if c.isDigit then some (c.toNat - 48) else none

/-- The value of a hexadecimal digit in either case. -/
def hexDigit? (c : Char) : Option Nat :=
  if c.isDigit then some (c.toNat - 48)
  else if 'a' ≤ c && c ≤ 'f' then some (c.toNat - 87)
  else if 'A' ≤ c && c ≤ 'F' then some (c.toNat - 55)
  else none

/-- The digits at the start. -/
def readDigits : List Char → List Nat × List Char
  | [] => ([], [])
  | c :: cs =>
    match digit? c with
    | some d => let (ds, rest) := readDigits cs; (d :: ds, rest)
    | none => ([], c :: cs)

/-- The part of a numeral before the point: a zero alone, or digits that do not start with one. -/
def readWhole (cs : List Char) : Option (List Nat × List Char) :=
  match readDigits cs with
  | ([], _) => none
  | (0 :: _ :: _, _) => none
  | found => some found

/-- The part of a numeral behind the point. -/
def readFraction : List Char → Option (List Nat × List Char)
  | '.' :: cs =>
    match readDigits cs with
    | ([], _) => none
    | found => some found
  | cs => some ([], cs)

/-- The exponent of a numeral: whether it is negative, and its digits. -/
def readExponent : List Char → Option (Option (Bool × List Nat) × List Char)
  | c :: cs =>
    if c == 'e' || c == 'E' then
      let (negative, digits) := match cs with
        | '+' :: rest => (false, rest)
        | '-' :: rest => (true, rest)
        | rest => (false, rest)
      match readDigits digits with
      | ([], _) => none
      | (ds, rest) => some (some (negative, ds), rest)
    else some (none, c :: cs)
  | [] => some (none, [])

/-- The numeral at the start. -/
def readNumeral (cs : List Char) : Option (Numeral × List Char) := do
  let (negative, cs) := match cs with
    | '-' :: rest => (true, rest)
    | rest => (false, rest)
  let (whole, cs) ← readWhole cs
  let (fraction, cs) ← readFraction cs
  let (exponent, cs) ← readExponent cs
  return (⟨negative, whole, fraction, exponent⟩, cs)

/-- The character that a short escape stands for. -/
def shortEscape? : Char → Option Char
  | '"' => some '"'
  | '\\' => some '\\'
  | '/' => some '/'
  | 'b' => some '\x08'
  | 'f' => some '\x0c'
  | 'n' => some '\n'
  | 'r' => some '\r'
  | 't' => some '\t'
  | _ => none

/-- The rest of a text after its opening quote. -/
def readText : List Char → Option (List Piece × List Char)
  | [] => none
  | '"' :: rest => some ([], rest)
  | '\\' :: 'u' :: a :: b :: c :: d :: rest => do
    let code := (← hexDigit? a) * 4096 + (← hexDigit? b) * 256 + (← hexDigit? c) * 16
      + (← hexDigit? d)
    let (pieces, rest) ← readText rest
    return (.unit code :: pieces, rest)
  | '\\' :: e :: rest => do
    let plain ← shortEscape? e
    let (pieces, rest) ← readText rest
    return (.plain plain :: pieces, rest)
  | c :: rest =>
    if c.toNat < 32 || c == '\\' then none
    else (readText rest).map fun found => (.plain c :: found.1, found.2)

mutual

/-- The value at the start, blanks in front of it included. -/
def readValue : (fuel : Nat) → List Char → Option (Syntax × List Char)
  | 0, _ => none
  | fuel + 1, cs =>
    match skipBlanks cs with
    | 'n' :: 'u' :: 'l' :: 'l' :: rest => some (.null, rest)
    | 't' :: 'r' :: 'u' :: 'e' :: rest => some (.bool true, rest)
    | 'f' :: 'a' :: 'l' :: 's' :: 'e' :: rest => some (.bool false, rest)
    | '"' :: rest => (readText rest).map fun found => (.text found.1, found.2)
    | '[' :: rest =>
      match skipBlanks rest with
      | ']' :: rest => some (.array [], rest)
      | rest => (readItems fuel rest).map fun found => (.array found.1, found.2)
    | '\x7b' :: rest =>
      match skipBlanks rest with
      | '\x7d' :: rest => some (.object [], rest)
      | rest => (readMembers fuel rest).map fun found => (.object found.1, found.2)
    | rest => (readNumeral rest).map fun found => (.number found.1, found.2)

/-- The items of an array up to its closing bracket. -/
def readItems : (fuel : Nat) → List Char → Option (List Syntax × List Char)
  | 0, _ => none
  | fuel + 1, cs =>
    match readValue fuel cs with
    | none => none
    | some (item, rest) =>
      match skipBlanks rest with
      | ']' :: rest => some ([item], rest)
      | ',' :: rest => (readItems fuel rest).map fun found => (item :: found.1, found.2)
      | _ => none

/-- The members of an object up to its closing brace. -/
def readMembers : (fuel : Nat) → List Char → Option (List (List Piece × Syntax) × List Char)
  | 0, _ => none
  | fuel + 1, cs =>
    match skipBlanks cs with
    | '"' :: rest =>
      match readText rest with
      | none => none
      | some (key, rest) =>
        match skipBlanks rest with
        | ':' :: rest =>
          match readValue fuel rest with
          | none => none
          | some (value, rest) =>
            match skipBlanks rest with
            | '\x7d' :: rest => some ([(key, value)], rest)
            | ',' :: rest =>
              (readMembers fuel rest).map fun found => ((key, value) :: found.1, found.2)
            | _ => none
        | _ => none
    | _ => none

end

/-- The value that a text consists of. -/
def Syntax.read? (text : String) : Option Syntax :=
  let cs := text.toList
  match readValue (2 * cs.length + 2) cs with
  | some (value, rest) => if (skipBlanks rest).isEmpty then some value else none
  | none => none

/-! ### Texts -/

/-- Whether a unit of UTF-16 is the first half of a pair. -/
def isHighSurrogate (code : Nat) : Bool := 0xD800 ≤ code && code ≤ 0xDBFF

/-- Whether a unit of UTF-16 is the second half of a pair. -/
def isLowSurrogate (code : Nat) : Bool := 0xDC00 ≤ code && code ≤ 0xDFFF

/-- The characters that pieces stand for; halves of pairs must come in pairs. -/
def charsOf? : List Piece → Option (List Char)
  | [] => some []
  | .plain c :: rest => (charsOf? rest).map (c :: ·)
  | .unit high :: .unit low :: rest =>
    if isHighSurrogate high then
      if isLowSurrogate low then
        (charsOf? rest).map
          (Char.ofNat (0x10000 + (high - 0xD800) * 1024 + (low - 0xDC00)) :: ·)
      else none
    else if isLowSurrogate high then none
    else (charsOf? (.unit low :: rest)).map (Char.ofNat high :: ·)
  | .unit code :: rest =>
    if isHighSurrogate code || isLowSurrogate code then none
    else (charsOf? rest).map (Char.ofNat code :: ·)

/-- The text that pieces stand for. -/
def textOf? (pieces : List Piece) : Option String := (charsOf? pieces).map String.ofList

end DeviceTrial.Json
