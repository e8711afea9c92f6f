/-
**Arithmetic in shell scripts.**

An expression is made of whole numbers, variables, signs, parentheses and operators of two operands,
which stand on levels: an operator of a later level binds more tightly, and those of one level are
carried out from the left. Truth is 1 and falsehood is 0.

* `evaluate?` — the number that an expression stands for; `none` when it stands for none.
-/

namespace DeviceTrial.Sandbox.Arithmetic

/-- A token of an expression. -/
inductive Item where
  /-- A number. -/
  | number (value : Int)
  /-- A name, whose value is to be taken. -/
  | name (text : String)
  /-- An operator or a parenthesis. -/
  | mark (text : String)
deriving DecidableEq, Repr

/-- The operators of two operands, level by level. -/
def levels : List (List String) :=
  [["||"], ["&&"], ["==", "!="], ["<=", ">=", "<", ">"], ["+", "-"], ["*", "/", "%"]]

/-- The marks, longer ones before their beginnings. -/
def marks : List String := levels.flatten ++ ["!", "(", ")"]

/-- Whether a character may stand in a name. -/
def isNameChar (c : Char) : Bool := c.isAlphanum || c == '_'

/-- The number of decimal digits. -/
def numberOf (digits : List Char) : Nat :=
  digits.foldl (fun value c => value * 10 + (c.toNat - 48)) 0

/-- The mark at the start, and what follows it. -/
def markAt? (cs : List Char) : Option (String × List Char) :=
  marks.findSome? fun mark =>
    if mark.toList.isPrefixOf cs then some (mark, cs.drop mark.length) else none

/-- The tokens of an expression. -/
def itemsOf : (fuel : Nat) → List Char → Option (List Item)
  | 0, _ => none
  | _ + 1, [] => some []
  | fuel + 1, c :: rest =>
    if c == ' ' || c == '\t' || c == '\n' || c == '$' then itemsOf fuel rest
    else if c.isDigit then
      let digits := (c :: rest).takeWhile Char.isDigit
      (itemsOf fuel ((c :: rest).dropWhile Char.isDigit)).map (.number (numberOf digits) :: ·)
    else if isNameChar c then
      let text := String.ofList ((c :: rest).takeWhile isNameChar)
      (itemsOf fuel ((c :: rest).dropWhile isNameChar)).map (.name text :: ·)
    else
      match markAt? (c :: rest) with
      | some (mark, after) => (itemsOf fuel after).map (.mark mark :: ·)
      | none => none

/-- The number of a truth value. -/
def ofBool (truth : Bool) : Int := if truth then 1 else 0

/-- The result of an operator; a division by zero has none. -/
def combined? (operator : String) (left right : Int) : Option Int :=
  match operator with
  | "+" => some (left + right)
  | "-" => some (left - right)
  | "*" => some (left * right)
  | "/" => if right = 0 then none else some (left.tdiv right)
  | "%" => if right = 0 then none else some (left.tmod right)
  | "<" => some (ofBool (left < right))
  | "<=" => some (ofBool (left ≤ right))
  | ">" => some (ofBool (right < left))
  | ">=" => some (ofBool (right ≤ left))
  | "==" => some (ofBool (left == right))
  | "!=" => some (ofBool (left != right))
  | "&&" => some (ofBool (left != 0 && right != 0))
  | "||" => some (ofBool (left != 0 || right != 0))
  | _ => none

mutual

/-- The value of an expression whose operators are on the given levels, and what follows it. -/
def readExpression (value : String → Int) : (fuel : Nat) → List (List String) → List Item →
    Option (Int × List Item)
  | 0, _, _ => none
  | fuel + 1, [], items => readOperand value fuel items
  | fuel + 1, level :: tighter, items => do
    let (first, rest) ← readExpression value fuel tighter items
    readMore value fuel level tighter first rest

/-- Carries out the operators of one level from the left. -/
def readMore (value : String → Int) : (fuel : Nat) → List String → List (List String) → Int →
    List Item → Option (Int × List Item)
  | 0, _, _, _, _ => none
  | fuel + 1, level, tighter, left, items =>
    match items with
    | .mark operator :: rest =>
      if level.contains operator then do
        let (right, rest) ← readExpression value fuel tighter rest
        readMore value fuel level tighter (← combined? operator left right) rest
      else some (left, items)
    | _ => some (left, items)

/-- The value of an operand. -/
def readOperand (value : String → Int) : (fuel : Nat) → List Item → Option (Int × List Item)
  | 0, _ => none
  | fuel + 1, items =>
    match items with
    | .number n :: rest => some (n, rest)
    | .name text :: rest => some (value text, rest)
    | .mark "-" :: rest => (readOperand value fuel rest).map fun found => (-found.1, found.2)
    | .mark "+" :: rest => readOperand value fuel rest
    | .mark "!" :: rest =>
      (readOperand value fuel rest).map fun found => (ofBool (found.1 == 0), found.2)
    | .mark "(" :: rest =>
      match readExpression value fuel levels rest with
      | some (found, .mark ")" :: after) => some (found, after)
      | _ => none
    | _ => none

end

/-- The number that an expression stands for, given the values of names. -/
def evaluate? (value : String → Int) (text : String) : Option Int := do
  let items ← itemsOf (text.length + 1) text.toList
  match ← readExpression value (12 * items.length + 12) levels items with
  | (found, []) => return found
  | _ => none

end DeviceTrial.Sandbox.Arithmetic
