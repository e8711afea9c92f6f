/-
**Characters, blanks and quoted texts of TOML.**

Readers work on the characters that are left and give what they read together with the rest. Control
characters may stand nowhere but for tabs and the ends of lines.

* `readQuoted` — a text between quotes of either kind, on one line or on several.
-/

namespace DeviceTrial.Toml

/-- Whether a character may stand in a comment or a text. -/
def isPrintable (c : Char) : Bool := c == '\t' || (32 ≤ c.toNat && c.toNat ≠ 127)

/-- Whether a character separates the parts of a line. -/
def isBlank (c : Char) : Bool := c == ' ' || c == '\t'

/-- What follows blanks. -/
def skipBlanks (cs : List Char) : List Char := cs.dropWhile isBlank

/-- What follows the end of the line at the start. -/
def newline? : List Char → Option (List Char)
  | '\n' :: rest => some rest
  | '\r' :: '\n' :: rest => some rest
  | _ => none

/-- What follows a comment at the start, or nothing when the comment has a forbidden character. -/
def skipComment : List Char → Option (List Char)
  | '#' :: rest =>
    match rest.dropWhile isPrintable with
    | [] => some []
    | left => if (newline? left).isSome then some left else none
  | cs => some cs

/-- What follows the end of a line with the blanks and the comment before it. -/
def endLine (cs : List Char) : Option (List Char) := do
  let cs ← skipComment (skipBlanks cs)
  if cs.isEmpty then return [] else newline? cs

/-- What follows blanks, comments and ends of lines. -/
def skipLines : (fuel : Nat) → List Char → Option (List Char)
  | 0, cs => some cs
  | fuel + 1, cs => do
    let cs ← skipComment (skipBlanks cs)
    match newline? cs with
    | some rest => skipLines fuel rest
    | none => return cs

/-! ### Escapes -/

/-- The value of a hexadecimal digit in either case. -/
def hexDigit? (c : Char) : Option Nat :=
  if c.isDigit then some (c.toNat - 48)
  else if 'a' ≤ c && c ≤ 'f' then some (c.toNat - 87)
  else if 'A' ≤ c && c ≤ 'F' then some (c.toNat - 55)
  else none

/-- The character whose number is given by `count` hexadecimal digits. -/
def readCode (count : Nat) (cs : List Char) : Option (Char × List Char) := do
  let digits ← (cs.take count).mapM hexDigit?
  if digits.length ≠ count then none
  else
    let code := digits.foldl (fun value digit => value * 16 + digit) 0
    if code.isValidChar then return (Char.ofNat code, cs.drop count) else none

/-- The character of an escape, whose backslash has been read. -/
def readEscape : List Char → Option (Char × List Char)
  | 'b' :: rest => some ('\x08', rest)
  | 't' :: rest => some ('\t', rest)
  | 'n' :: rest => some ('\n', rest)
  | 'f' :: rest => some ('\x0c', rest)
  | 'r' :: rest => some ('\r', rest)
  | 'e' :: rest => some ('\x1b', rest)
  | '"' :: rest => some ('"', rest)
  | '\\' :: rest => some ('\\', rest)
  | 'x' :: rest => readCode 2 rest
  | 'u' :: rest => readCode 4 rest
  | 'U' :: rest => readCode 8 rest
  | _ => none

/-! ### Texts on one line -/

/-- Puts a character in front of what a reader has read. -/
def prepend (c : Char) (found : List Char × List Char) : List Char × List Char :=
  (c :: found.1, found.2)

/-- The rest of a text after its opening double quote. -/
def readBasic : (fuel : Nat) → List Char → Option (List Char × List Char)
  | 0, _ => none
  | _ + 1, [] => none
  | _ + 1, '"' :: rest => some ([], rest)
  | fuel + 1, '\\' :: rest => do
    let (c, rest) ← readEscape rest
    return prepend c (← readBasic fuel rest)
  | fuel + 1, c :: rest => do
    if isPrintable c then return prepend c (← readBasic fuel rest) else none

/-- The rest of a text after its opening single quote. -/
def readLiteral : List Char → Option (List Char × List Char)
  | [] => none
  | '\'' :: rest => some ([], rest)
  | c :: rest => do
    if isPrintable c then return prepend c (← readLiteral rest) else none

/-! ### Texts on several lines -/

/-- The number of times that a character stands at the start. -/
def runLength (c : Char) (cs : List Char) : Nat := (cs.takeWhile (· == c)).length

/-- The end of a text on several lines: three quotes, and up to two that belong to the text. -/
def closing? (quote : Char) (cs : List Char) : Option (List Char × List Char) :=
  let quotes := min 5 (runLength quote cs)
  if 3 ≤ quotes then some (List.replicate (quotes - 3) quote, cs.drop quotes) else none

/-- What follows a backslash at the end of a line: blanks and ends of lines do not count. -/
def skipContinuation : (fuel : Nat) → List Char → List Char
  | 0, cs => cs
  | fuel + 1, cs =>
    let cs := skipBlanks cs
    match newline? cs with
    | some rest => skipContinuation fuel rest
    | none => cs

/-- Whether nothing but blanks is left on the line. -/
def atLineEnd (cs : List Char) : Bool := (newline? (skipBlanks cs)).isSome

/-- The rest of a text on several lines after its opening quotes; with double quotes there are
escapes. -/
def readMultiline (quote : Char) : (fuel : Nat) → List Char → Option (List Char × List Char)
  | 0, _ => none
  | fuel + 1, cs =>
    match closing? quote cs with
    | some found => some found
    | none =>
      match cs with
      | [] => none
      | '\n' :: rest => do return prepend '\n' (← readMultiline quote fuel rest)
      | '\r' :: '\n' :: rest => do
        return prepend '\r' (prepend '\n' (← readMultiline quote fuel rest))
      | '\\' :: rest =>
        if quote == '"' then
          if atLineEnd rest then readMultiline quote fuel (skipContinuation fuel rest)
          else do
            let (c, rest) ← readEscape rest
            return prepend c (← readMultiline quote fuel rest)
        else do return prepend '\\' (← readMultiline quote fuel rest)
      | c :: rest => do
        if isPrintable c then return prepend c (← readMultiline quote fuel rest) else none

/-- A text on several lines does not start with the end of its first line. -/
def afterFirstNewline (cs : List Char) : List Char := (newline? cs).getD cs

/-- A text between quotes at the start; `none` when there is none or it is malformed. -/
def readQuoted (cs : List Char) : Option (String × List Char) := do
  let fuel := cs.length + 1
  let found ← match cs with
    | '"' :: '"' :: '"' :: rest => readMultiline '"' fuel (afterFirstNewline rest)
    | '\'' :: '\'' :: '\'' :: rest => readMultiline '\'' fuel (afterFirstNewline rest)
    | '"' :: rest => readBasic fuel rest
    | '\'' :: rest => readLiteral rest
    | _ => none
  return (String.ofList found.1, found.2)

/-- A text between quotes on one line at the start. -/
def readQuotedKey (cs : List Char) : Option (String × List Char) := do
  let found ← match cs with
    | '"' :: rest => readBasic (cs.length + 1) rest
    | '\'' :: rest => readLiteral rest
    | _ => none
  return (String.ofList found.1, found.2)

/-- Whether a character may stand in a key without quotes. -/
def isBareKeyChar (c : Char) : Bool := c.isAlphanum || c == '_' || c == '-'

/-- One key at the start. -/
def readKey (cs : List Char) : Option (String × List Char) :=
  match cs.takeWhile isBareKeyChar with
  | [] => readQuotedKey cs
  | bare => some (String.ofList bare, cs.dropWhile isBareKeyChar)

/-- Keys separated by points, blanks around them included. -/
def readKeys : (fuel : Nat) → List Char → Option (List String × List Char)
  | 0, _ => none
  | fuel + 1, cs => do
    let (key, rest) ← readKey (skipBlanks cs)
    match skipBlanks rest with
    | '.' :: rest => do
      let (keys, rest) ← readKeys fuel rest
      return (key :: keys, rest)
    | rest => return ([key], rest)

end DeviceTrial.Toml
