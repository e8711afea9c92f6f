/-
**Numbers of TOML.**

Digits may be grouped by single underscores. Whole numbers are read exactly, whatever their size; of a
floating-point number only its form matters here, and whether it is too great.

* `digits?_nil` — a number has at least one digit.
-/

import DeviceTrial.Decimal.Binary
import DeviceTrial.Toml.Characters
import DeviceTrial.Toml.Value

namespace DeviceTrial.Toml

/-- The digits of a number in the given base, grouped by single underscores. -/
def digits? (base : Nat) : List Char → Option (List Nat)
  | [] => none
  | [c] => do
    let d ← hexDigit? c
    if d < base then return [d] else none
  | c :: '_' :: rest => do
    let d ← hexDigit? c
    if d < base then return d :: (← digits? base rest) else none
  | c :: rest => do
    let d ← hexDigit? c
    if d < base then return d :: (← digits? base rest) else none

@[simp] theorem digits?_nil (base : Nat) : digits? base [] = none := rfl

/-- The number that digits stand for. -/
def valueOf (base : Nat) (digits : List Nat) : Nat :=
  digits.foldl (fun value digit => value * base + digit) 0

/-- Takes a sign off: whether it is there, whether it is a minus, and the rest. -/
def takeSign : List Char → Bool × Bool × List Char
  | '+' :: rest => (true, false, rest)
  | '-' :: rest => (true, true, rest)
  | rest => (false, false, rest)

/-- The digits of a decimal number, which starts with no zero unless it is one. -/
def decimal? (cs : List Char) : Option (List Nat) :=
  match digits? 10 cs with
  | some (0 :: _ :: _) => none
  | found => found

/-- A whole number. -/
def whole? (cs : List Char) : Option Int :=
  match cs with
  | '0' :: 'x' :: rest => (digits? 16 rest).map fun digits => (valueOf 16 digits : Int)
  | '0' :: 'o' :: rest => (digits? 8 rest).map fun digits => (valueOf 8 digits : Int)
  | '0' :: 'b' :: rest => (digits? 2 rest).map fun digits => (valueOf 2 digits : Int)
  | _ =>
    let (_, negative, rest) := takeSign cs
    (decimal? rest).map fun digits =>
      if negative then -(valueOf 10 digits : Int) else (valueOf 10 digits : Int)

/-- The characters before a mark, and those behind it when it is there. -/
def splitAt (isMark : Char → Bool) (cs : List Char) : List Char × Option (List Char) :=
  match cs.dropWhile fun c => !isMark c with
  | [] => (cs, none)
  | _ :: rest => (cs.takeWhile fun c => !isMark c, some rest)

/-- The digits that a decimal number may have before the point for it to be compared exactly. -/
def widestPlace : Int := 400

/-- Whether `digits · 10 ^ power` is too great for a floating-point number. -/
def isTooGreat (digits : List Nat) (power : Int) : Bool :=
  let significant := digits.dropWhile (· == 0)
  let place := (significant.length : Int) + power
  if significant.isEmpty || place < 0 then false
  else if widestPlace < place then true
  else
    let value := valueOf 10 significant
    match power with
    | .ofNat up => (Decimal.roundQuotient (value * Nat.pow 10 up) 1).isNone
    | .negSucc down => (Decimal.roundQuotient value (Nat.pow 10 (down + 1))).isNone

/-- The exponent of a floating-point number. -/
def exponent? (cs : List Char) : Option Int :=
  let (_, negative, rest) := takeSign cs
  (digits? 10 rest).map fun digits =>
    if negative then -(valueOf 10 digits : Int) else (valueOf 10 digits : Int)

/-- A floating-point number: whether it is too great. -/
def float? (cs : List Char) : Option Bool :=
  let (_, _, rest) := takeSign cs
  if rest = ['i', 'n', 'f'] || rest = ['n', 'a', 'n'] then some false
  else do
    let (front, behind) := splitAt (fun c => c == 'e' || c == 'E') rest
    let power ← match behind with
      | none => some 0
      | some cs => exponent? cs
    let (wholePart, fractionPart) := splitAt (· == '.') front
    let whole ← decimal? wholePart
    match fractionPart with
    | none => if behind.isSome then return isTooGreat whole power else none
    | some cs =>
      let fraction ← digits? 10 cs
      return isTooGreat (whole ++ fraction) (power - (fraction.length : Int))

end DeviceTrial.Toml
