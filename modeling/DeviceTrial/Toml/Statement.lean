/-
**The statements of a TOML document.**

A document is a list of statements, one a line: a header, a header in double brackets, or an entry.
What the statements together stand for is the matter of `DeviceTrial.Toml.Document`.

* `readStatements` — the statements of a text; the first malformed one makes the text malformed.
-/

import DeviceTrial.Toml.Moment
import DeviceTrial.Toml.Number

namespace DeviceTrial.Toml

/-- One line of a document. -/
inductive Statement where
  /-- The entries that follow belong to the table of these keys. -/
  | header (keys : List String)
  /-- The entries that follow belong to a new table at the end of the tables of these keys. -/
  | item (keys : List String)
  /-- An entry. -/
  | entry (keys : List String) (value : Value)

/-- The deepest nesting of arrays and tables in braces. -/
def deepest : Nat := 80

/-- Whether a character may stand in a value without quotes and brackets. -/
def isScalarChar (c : Char) : Bool :=
  c.isAlphanum || c == '_' || c == '-' || c == '+' || c == '.' || c == ':'

/-- The characters of a value without quotes and brackets; a date and a time may have a space between
them. -/
def takeScalar (cs : List Char) : List Char × List Char :=
  let word := cs.takeWhile isScalarChar
  let rest := cs.dropWhile isScalarChar
  match rest with
  | ' ' :: d :: more =>
    if isDate word && d.isDigit then
      (word ++ ' ' :: (d :: more).takeWhile isScalarChar, (d :: more).dropWhile isScalarChar)
    else (word, rest)
  | _ => (word, rest)

/-- The value that is written without quotes and brackets. -/
def scalar? (word : List Char) : Option Value :=
  if word = "true".toList then some (.flag true)
  else if word = "false".toList then some (.flag false)
  else
    match whole? word with
    | some value => some (.whole value)
    | none =>
      match float? word with
      | some tooGreat => some (.float tooGreat)
      | none => if isMoment word then some .moment else none

/-- Puts a value under dotted keys into a table in braces. -/
def addInline : List String → Value → List (String × Value) → Option (List (String × Value))
  | [], _, _ => none
  | [key], value, entries =>
    if (found? key entries).isSome then none else some (putEntry key value entries)
  | key :: second :: keys, value, entries =>
    match found? key entries with
    | none => do
      let inner ← addInline (second :: keys) value []
      return putEntry key (.table .dotted inner) entries
    | some (.table .dotted inner) => do
      let inner ← addInline (second :: keys) value inner
      return putEntry key (.table .dotted inner) entries
    | some _ => none

mutual

/-- The value at the start. -/
def readValue : (fuel depth : Nat) → List Char → Option (Value × List Char)
  | 0, _, _ => none
  | fuel + 1, depth, cs =>
    match cs with
    | '"' :: _ => (readQuoted cs).map fun found => (.text found.1, found.2)
    | '\'' :: _ => (readQuoted cs).map fun found => (.text found.1, found.2)
    | '[' :: rest =>
      if deepest ≤ depth then none
      else (readItems fuel (depth + 1) rest).map fun found => (.array found.1, found.2)
    | '\x7b' :: rest =>
      if deepest ≤ depth then none
      else (readEntries fuel (depth + 1) [] rest).map fun found =>
        (.table .braces found.1, found.2)
    | _ => do
      let (word, rest) := takeScalar cs
      return (← scalar? word, rest)

/-- The items of an array up to its closing bracket; a comma may follow the last one. -/
def readItems : (fuel depth : Nat) → List Char → Option (List Value × List Char)
  | 0, _, _ => none
  | fuel + 1, depth, cs => do
    match ← skipLines cs.length cs with
    | ']' :: rest => return ([], rest)
    | start =>
      let (item, rest) ← readValue fuel depth start
      match ← skipLines rest.length rest with
      | ']' :: rest => return ([item], rest)
      | ',' :: rest =>
        let (items, rest) ← readItems fuel depth rest
        return (item :: items, rest)
      | _ => none

/-- The entries of a table up to its closing brace, added to those before; a comma may follow the last
one. -/
def readEntries : (fuel depth : Nat) → List (String × Value) → List Char →
    Option (List (String × Value) × List Char)
  | 0, _, _, _ => none
  | fuel + 1, depth, before, cs => do
    match ← skipLines cs.length cs with
    | '\x7d' :: rest => return (before, rest)
    | start =>
      let (keys, rest) ← readKeys start.length start
      let '=' :: rest := rest | none
      let (value, rest) ← readValue fuel depth (skipBlanks rest)
      let entries ← addInline keys value before
      match ← skipLines rest.length rest with
      | '\x7d' :: rest => return (entries, rest)
      | ',' :: rest => readEntries fuel depth entries rest
      | _ => none

end

/-- The statement on the line at the start, and what follows the line; `none` inside for a line without
one. -/
def readLine (cs : List Char) : Option (Option Statement × List Char) := do
  let fuel := 2 * cs.length + 2
  match skipBlanks cs with
  | '[' :: '[' :: rest =>
    let (keys, rest) ← readKeys fuel rest
    let ']' :: ']' :: rest := rest | none
    return (some (.item keys), ← endLine rest)
  | '[' :: rest =>
    let (keys, rest) ← readKeys fuel rest
    let ']' :: rest := rest | none
    return (some (.header keys), ← endLine rest)
  | start =>
    match endLine start with
    | some rest => return (none, rest)
    | none =>
      let (keys, rest) ← readKeys fuel start
      let '=' :: rest := rest | none
      let (value, rest) ← readValue fuel 0 (skipBlanks rest)
      return (some (.entry keys value), ← endLine rest)

/-- The statements of the lines, at most `fuel` of them. -/
def readLines : (fuel : Nat) → List Char → Option (List Statement)
  | 0, cs => if cs.isEmpty then some [] else none
  | fuel + 1, cs =>
    if cs.isEmpty then some []
    else do
      let (statement, rest) ← readLine cs
      let others ← readLines fuel rest
      return statement.toList ++ others

/-- The mark that a text may start with. -/
def byteOrderMark : Char := '\ufeff'

/-- The statements of a text. -/
def readStatements (text : String) : Option (List Statement) :=
  let cs := match text.toList with
    | c :: rest => if c = byteOrderMark then rest else c :: rest
    | [] => []
  readLines (cs.length + 1) cs

end DeviceTrial.Toml
