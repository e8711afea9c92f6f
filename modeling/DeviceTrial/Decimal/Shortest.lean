/-
**The fewest decimal digits that read back.**

A binary number stands for all reals that round to it. Among the decimals in that interval the ones
with the fewest digits are looked for, and of those the one nearest to the number is taken.

* `digits` — the digits and the power of ten;
* `inside_self` — the number itself lies in its interval.
-/

import DeviceTrial.Decimal.Binary

namespace DeviceTrial.Decimal

/-- A decimal `significand · 10 ^ power`. -/
structure Digits where
  /-- The digits, read as a whole number. -/
  significand : Nat
  /-- The power of ten. -/
  power : Int
deriving DecidableEq, Repr

/-- The power `10 ^ power` as a quotient. -/
def tenPower : Int → Nat × Nat
  | .ofNat power => (Nat.pow 10 power, 1)
  | .negSucc power => (1, Nat.pow 10 (power + 1))

/-- The reals that round to a number, as quotients over one denominator: the number itself, the lower
and the upper end, and whether the ends belong to it. -/
structure Interval where
  value : Nat
  lower : Nat
  upper : Nat
  denominator : Nat
  closed : Bool
deriving DecidableEq, Repr

/-- The interval of a number: it reaches half way to both neighbours, and the lower neighbour of a
power of two is nearer than the upper one. -/
def Binary.interval (number : Binary) : Interval :=
  let four := Binary.quotient ⟨4 * number.mantissa, number.exponent⟩
  let step := Binary.quotient ⟨1, number.exponent⟩
  let narrow := number.mantissa == mantissaBound / 2 && leastExponent < number.exponent
  { value := four.1
    lower := four.1 - if narrow then step.1 else 2 * step.1
    upper := four.1 + 2 * step.1
    denominator := 4 * four.2
    closed := number.mantissa % 2 == 0 }

/-- Whether `numerator / denominator` lies in an interval. -/
def Interval.contains (interval : Interval) (numerator denominator : Nat) : Bool :=
  let point := numerator * interval.denominator
  if interval.closed then
    interval.lower * denominator ≤ point && point ≤ interval.upper * denominator
  else interval.lower * denominator < point && point < interval.upper * denominator

/-- Whether a decimal lies in an interval. -/
def Interval.containsDigits (interval : Interval) (digits : Digits) : Bool :=
  let ten := tenPower digits.power
  interval.contains (digits.significand * ten.1) ten.2

/-- The multiples of `10 ^ power` next to a number: the greatest one that is not above it, with what
is left over, in parts of `scale`. -/
structure Grid where
  below : Nat
  rest : Nat
  scale : Nat
deriving DecidableEq, Repr

/-- The place of an interval's number on the grid of a power of ten. -/
def Interval.grid (interval : Interval) (power : Int) : Grid :=
  let ten := tenPower power
  let numerator := interval.value * ten.2
  let denominator := interval.denominator * ten.1
  ⟨numerator / denominator, numerator % denominator, denominator⟩

/-- The decimal on the grid of a power of ten that lies in the interval and is nearest to its number;
of two equally near ones the even one. -/
def Interval.onGrid? (interval : Interval) (power : Int) : Option Digits :=
  let grid := interval.grid power
  let low : Digits := ⟨grid.below, power⟩
  let high : Digits := ⟨grid.below + 1, power⟩
  match interval.containsDigits low, interval.containsDigits high with
  | false, false => none
  | true, false => some low
  | false, true => some high
  | true, true =>
    if 2 * grid.rest < grid.scale then some low
    else if grid.scale < 2 * grid.rest then some high
    else if grid.below % 2 = 0 then some low else some high

/-- The number of decimal digits of a whole number. -/
def digitCount (n : Nat) : Nat := (toString n).length

/-- The power of ten of the first digit of a quotient, or the one below it. -/
def firstPower (numerator denominator : Nat) : Int :=
  (digitCount numerator : Int) - (digitCount denominator : Int)

/-- Takes the zeros at the end into the power of ten. -/
def Digits.trimmed (digits : Digits) : (fuel : Nat) → Digits
  | 0 => digits
  | fuel + 1 =>
    if digits.significand ≠ 0 && digits.significand % 10 = 0 then
      Digits.trimmed ⟨digits.significand / 10, digits.power + 1⟩ fuel
    else digits

/-- Looks on finer and finer grids, at most `fuel` of them. -/
def Interval.search (interval : Interval) : (fuel : Nat) → (power : Int) → Digits
  | 0, power => ⟨(interval.grid power).below, power⟩
  | fuel + 1, power =>
    match interval.onGrid? power with
    | some digits => if digits.significand = 0 then interval.search fuel (power - 1) else digits
    | none => interval.search fuel (power - 1)

/-- The fewest digits that read back as the number, which is not zero. Seventeen digits always do,
and one more power is looked at because the first digit may come one power later. -/
def Binary.digits (number : Binary) : Digits :=
  let interval := number.interval
  (interval.search 19 (firstPower interval.value interval.denominator)).trimmed 20

theorem inside_self (interval : Interval) (closed : interval.closed = true)
    (low : interval.lower ≤ interval.value) (high : interval.value ≤ interval.upper) :
    interval.contains interval.value interval.denominator = true := by
  simp only [Interval.contains, closed, if_true, Bool.and_eq_true, decide_eq_true_eq]
  exact ⟨Nat.mul_le_mul_right _ low, Nat.mul_le_mul_right _ high⟩

end DeviceTrial.Decimal
