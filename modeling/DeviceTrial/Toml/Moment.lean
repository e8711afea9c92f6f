/-
**Dates and times of TOML.**

A moment is a date, a time, or a date and a time with or without an offset. Days exist in the months
and years they are said to be in.

* `daysIn_february` — February has 29 days in leap years.
-/

namespace DeviceTrial.Toml

/-- The value of so many decimal digits at the start, and the rest. -/
def fixedDigits (count : Nat) (cs : List Char) : Option (Nat × List Char) :=
  let digits := cs.take count
  if digits.length = count && digits.all Char.isDigit then
    some (digits.foldl (fun value c => value * 10 + (c.toNat - 48)) 0, cs.drop count)
  else none

/-- Whether a year has a 29th of February. -/
def isLeapYear (year : Nat) : Bool := year % 4 == 0 && (year % 100 != 0 || year % 400 == 0)

/-- The number of days of a month. -/
def daysIn (year month : Nat) : Nat :=
  if month = 2 then if isLeapYear year then 29 else 28
  else if month = 4 || month = 6 || month = 9 || month = 11 then 30
  else 31

theorem daysIn_february (year : Nat) :
    daysIn year 2 = if isLeapYear year then 29 else 28 := rfl

/-- What follows a date. -/
def date? (cs : List Char) : Option (List Char) := do
  let (year, rest) ← fixedDigits 4 cs
  let '-' :: rest := rest | none
  let (month, rest) ← fixedDigits 2 rest
  let '-' :: rest := rest | none
  let (day, rest) ← fixedDigits 2 rest
  if 1 ≤ month && month ≤ 12 && 1 ≤ day && day ≤ daysIn year month then return rest else none

/-- What follows the digits behind the point of a second. -/
def fraction? : List Char → Option (List Char)
  | '.' :: rest =>
    if (rest.takeWhile Char.isDigit).isEmpty then none else some (rest.dropWhile Char.isDigit)
  | rest => some rest

/-- What follows the seconds of a time, which may be left out. -/
def seconds? : List Char → Option (List Char)
  | ':' :: rest => do
    let (second, rest) ← fixedDigits 2 rest
    if second ≤ 60 then fraction? rest else none
  | rest => some rest

/-- What follows a time. -/
def time? (cs : List Char) : Option (List Char) := do
  let (hour, rest) ← fixedDigits 2 cs
  let ':' :: rest := rest | none
  let (minute, rest) ← fixedDigits 2 rest
  if hour ≤ 23 && minute ≤ 59 then seconds? rest else none

/-- Whether the characters are an offset from universal time, in hours and minutes of the day, or
nothing. -/
def isOffset : List Char → Bool
  | [] => true
  | ['Z'] => true
  | ['z'] => true
  | sign :: rest =>
    (sign == '+' || sign == '-') &&
      match fixedDigits 2 rest with
      | some (hours, ':' :: rest) =>
        match fixedDigits 2 rest with
        | some (minutes, []) => hours ≤ 23 && minutes ≤ 59
        | _ => false
      | _ => false

/-- Whether the characters are a date, a time, or both. -/
def isMoment (cs : List Char) : Bool :=
  match date? cs with
  | some [] => true
  | some (mark :: rest) =>
    (mark == 'T' || mark == 't' || mark == ' ') &&
      match time? rest with
      | some offset => isOffset offset
      | none => false
  | none =>
    match time? cs with
    | some [] => true
    | _ => false

/-- Whether the characters are a date alone. -/
def isDate (cs : List Char) : Bool :=
  match date? cs with
  | some [] => true
  | _ => false

end DeviceTrial.Toml
