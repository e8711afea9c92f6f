/-
**Escapes and formats in shell scripts.**

Printing commands know escapes, which start with a backslash, and formats, in which specifiers stand
for arguments. A format is used again as long as arguments are left.

* `unescape` — the bytes of characters with escapes;
* `formatAll` — the bytes of a format with its arguments.
-/

namespace DeviceTrial.Sandbox

/-! ### Escapes -/

/-- The value of up to three octal digits at the start, and what follows them. -/
def readOctal (cs : List Char) : Nat × List Char :=
  let isOctal (c : Char) : Bool := '0' ≤ c && c ≤ '7'
  let digits := (cs.take 3).takeWhile isOctal
  (digits.foldl (fun value c => value * 8 + (c.toNat - 48)) 0, cs.drop digits.length)

/-- The bytes of a character. -/
def bytesOf (c : Char) : List UInt8 := c.toString.toUTF8.data.toList

/-- The bytes of a text. -/
def textBytes (text : String) : List UInt8 := text.toUTF8.data.toList

/-- The byte of a simple escape. -/
def escapeByte? : Char → Option UInt8
  | 'a' => some 7
  | 'b' => some 8
  | 'f' => some 12
  | 'n' => some 10
  | 'r' => some 13
  | 't' => some 9
  | 'v' => some 11
  | '\\' => some 92
  | _ => none

/-- Bytes, and whether all output is to end after them. -/
structure Unescaped where
  /-- The bytes. -/
  bytes : List UInt8
  /-- Whether all output is to end. -/
  stops : Bool
deriving DecidableEq

/-- Puts bytes in front. -/
def Unescaped.after (front : List UInt8) (rest : Unescaped) : Unescaped :=
  ⟨front ++ rest.bytes, rest.stops⟩

/-- The bytes of characters with escapes. An octal number follows a zero, and the escape `c` ends all
output. -/
def unescape : (fuel : Nat) → List Char → Unescaped
  | 0, _ => ⟨[], false⟩
  | _ + 1, [] => ⟨[], false⟩
  | fuel + 1, '\\' :: c :: rest =>
    match escapeByte? c with
    | some byte => (unescape fuel rest).after [byte]
    | none =>
      if c == 'c' then ⟨[], true⟩
      else if c == '0' then
        let (value, behind) := readOctal rest
        (unescape fuel behind).after [UInt8.ofNat value]
      else (unescape fuel (c :: rest)).after [92]
  | fuel + 1, c :: rest => (unescape fuel rest).after (bytesOf c)

/-- The bytes of a text with escapes. -/
def unescapeText (text : String) : Unescaped := unescape (text.length + 1) text.toList

/-! ### Numbers in arguments -/

/-- The value of a digit in any base up to sixteen. -/
def digitValue? (c : Char) : Option Nat :=
  if c.isDigit then some (c.toNat - 48)
  else if 'a' ≤ c && c ≤ 'f' then some (c.toNat - 87)
  else if 'A' ≤ c && c ≤ 'F' then some (c.toNat - 55)
  else none

/-- The number at the start in a base, and what follows it. -/
def readDigits (base : Nat) : Nat → List Char → Nat × List Char
  | value, [] => (value, [])
  | value, c :: rest =>
    match digitValue? c with
    | some digit =>
      if digit < base then readDigits base (value * base + digit) rest else (value, c :: rest)
    | none => (value, c :: rest)

/-- The number at the start, in the base that its first characters say. -/
def readMagnitude : List Char → Nat × List Char
  | '0' :: 'x' :: rest => readDigits 16 0 rest
  | '0' :: 'X' :: rest => readDigits 16 0 rest
  | '0' :: rest => readDigits 8 0 rest
  | cs => readDigits 10 0 cs

/-- The number that an argument stands for, and what is wrong with it. -/
def readArgument (text : String) : Int × Option String :=
  let cs := text.toList.dropWhile fun c => c == ' '
  match cs with
  | [] => (0, if text.isEmpty then none else some "expected numeric value")
  | '"' :: c :: _ => (c.toNat, none)
  | '\'' :: c :: _ => (c.toNat, none)
  | c :: rest =>
    let (negative, digits) := if c == '-' then (true, rest) else if c == '+' then (false, rest)
      else (false, cs)
    let (magnitude, behind) := readMagnitude digits
    let value : Int := if negative then -(magnitude : Int) else magnitude
    if !(digits.head?.any Char.isDigit) then (0, some "expected numeric value")
    else (value, if behind.isEmpty then none else some "not completely converted")

/-! ### Specifiers -/

/-- A specifier of a format. -/
structure Specifier where
  /-- The characters that change the form. -/
  flags : List Char
  /-- The least number of characters. -/
  width : Nat
  /-- The least number of digits, or the greatest number of characters of a text. -/
  precision : Option Nat
  /-- What the argument is. -/
  kind : Char
deriving DecidableEq

/-- Whether a character changes the form of a specifier. -/
def isFormFlag (c : Char) : Bool := c == '-' || c == '+' || c == ' ' || c == '#' || c == '0'

/-- The specifier after a percent sign, and what follows it. -/
def readSpecifier (cs : List Char) : Option (Specifier × List Char) :=
  let flags := cs.takeWhile isFormFlag
  let (width, rest) := readDigits 10 0 (cs.dropWhile isFormFlag)
  let (precision, rest) := match rest with
    | '.' :: digits => let (value, rest) := readDigits 10 0 digits; (some value, rest)
    | rest => (none, rest)
  match rest with
  | kind :: rest => some (⟨flags, width, precision, kind⟩, rest)
  | [] => none

/-- Fills bytes up to a width. -/
def Specifier.fill (form : Specifier) (bytes : List UInt8) : List UInt8 :=
  let blanks := List.replicate (form.width - bytes.length) 32
  if form.flags.contains '-' then bytes ++ blanks else blanks ++ bytes

/-- The digits of a number in a base. -/
def digitsIn (base : Nat) (upper : Bool) (n : Nat) : List Char :=
  let digits := Nat.toDigits base n
  if upper then digits.map Char.toUpper else digits

/-- The bytes of a number. -/
def Specifier.ofNumber (form : Specifier) (negative : Bool) (digits : List Char) : List UInt8 :=
  let sign := if negative then ['-'] else if form.flags.contains '+' then ['+']
    else if form.flags.contains ' ' then [' '] else []
  let least := match form.precision with
    | some least => least
    | none =>
      if form.flags.contains '0' && !form.flags.contains '-' then form.width - sign.length else 0
  let zeros := List.replicate (least - digits.length) '0'
  form.fill ((sign ++ zeros ++ digits).flatMap bytesOf)

/-- The bytes of a number without sign; a negative one stands for its remainder. -/
def Specifier.ofUnsigned (form : Specifier) (base : Nat) (value : Int) : List UInt8 :=
  let form := { form with flags := form.flags.filter fun c => c != '+' && c != ' ' }
  form.ofNumber false (digitsIn base (form.kind == 'X') (value % Int.pow 2 64).toNat)

/-- What one argument becomes: bytes, a complaint, whether all output ends. -/
structure Shown where
  bytes : List UInt8
  complaint : Option String
  stops : Bool

/-- What an argument becomes under a specifier; `none` for a kind that is not known. -/
def Specifier.show? (form : Specifier) (argument : String) : Option Shown :=
  let cut (bytes : List UInt8) : List UInt8 := match form.precision with
    | some most => bytes.take most
    | none => bytes
  let (value, wrong) := readArgument argument
  let complaint := wrong.map fun reason => argument ++ ": " ++ reason
  match form.kind with
  | 's' => some ⟨form.fill (cut (textBytes argument)), none, false⟩
  | 'b' =>
    let unescaped := unescapeText argument
    some ⟨form.fill (cut unescaped.bytes), none, unescaped.stops⟩
  | 'c' => some ⟨form.fill (textBytes (argument.take 1).toString), none, false⟩
  | 'd' | 'i' =>
    some ⟨form.ofNumber (value < 0) (digitsIn 10 false value.natAbs), complaint, false⟩
  | 'u' => some ⟨form.ofUnsigned 10 value, complaint, false⟩
  | 'o' => some ⟨form.ofUnsigned 8 value, complaint, false⟩
  | 'x' | 'X' => some ⟨form.ofUnsigned 16 value, complaint, false⟩
  | _ => none

/-! ### Formats -/

/-- What a pass over a format yields. -/
structure Formatted where
  /-- The bytes. -/
  bytes : List UInt8
  /-- The arguments that are left. -/
  rest : List String
  /-- What is wrong with arguments. -/
  complaints : List String
  /-- Whether all output is to end. -/
  stops : Bool

/-- Puts bytes in front. -/
def Formatted.after (front : List UInt8) (later : Formatted) : Formatted :=
  { later with bytes := front ++ later.bytes }

/-- One pass over a format. -/
def formatOnce : (fuel : Nat) → List Char → List String → Formatted
  | 0, _, arguments => ⟨[], arguments, [], false⟩
  | _ + 1, [], arguments => ⟨[], arguments, [], false⟩
  | fuel + 1, '%' :: '%' :: rest, arguments => (formatOnce fuel rest arguments).after [37]
  | fuel + 1, '%' :: rest, arguments =>
    match readSpecifier rest with
    | none => ⟨[37], arguments, [], false⟩
    | some (form, behind) =>
      match form.show? (arguments.headD "") with
      | none => ⟨[], arguments, ["%" ++ form.kind.toString ++ ": invalid directive"], true⟩
      | some shown =>
        if shown.stops then ⟨shown.bytes, arguments.tail, [], true⟩
        else
          let later := (formatOnce fuel behind arguments.tail).after shown.bytes
          { later with complaints := shown.complaint.toList ++ later.complaints }
  | fuel + 1, '\\' :: c :: rest, arguments =>
    if '0' ≤ c && c ≤ '7' then
      let (value, behind) := readOctal (c :: rest)
      (formatOnce fuel behind arguments).after [UInt8.ofNat value]
    else
      match escapeByte? c with
      | some byte => (formatOnce fuel rest arguments).after [byte]
      | none => (formatOnce fuel (c :: rest) arguments).after [92]
  | fuel + 1, c :: rest, arguments => (formatOnce fuel rest arguments).after (bytesOf c)

/-- The passes over a format, as long as arguments are left. -/
def formatAll (format : String) : (fuel : Nat) → List String → Formatted
  | 0, arguments => ⟨[], arguments, [], false⟩
  | fuel + 1, arguments =>
    let first := formatOnce (format.length + 1) format.toList arguments
    if first.stops || first.rest.isEmpty || first.rest.length = arguments.length then first
    else
      let later := (formatAll format fuel first.rest).after first.bytes
      { later with complaints := first.complaints ++ later.complaints }

end DeviceTrial.Sandbox
