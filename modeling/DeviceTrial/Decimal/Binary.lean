/-
**Binary floating-point numbers in exact arithmetic.**

A `Binary` is a finite number of binary64 without its sign: a whole number of at most 53 bits times a
power of two. A quotient of whole numbers is rounded to the nearest of them, and a half goes to the
even one.

* `halfEven_le`, `le_halfEven` — rounding a quotient goes to one of its two neighbours;
* `roundQuotient_zero` — nothing becomes zero.
-/

namespace DeviceTrial.Decimal

/-- The number `mantissa · 2 ^ exponent`. -/
structure Binary where
  /-- The whole number, below `2 ^ 53`. -/
  mantissa : Nat
  /-- The power of two. -/
  exponent : Int
deriving DecidableEq, Repr, Inhabited

/-- The smallest exponent. -/
def leastExponent : Int := -1074

/-- The greatest exponent. -/
def greatestExponent : Int := 971

/-- The first whole number that a mantissa cannot be. -/
def mantissaBound : Nat := Nat.pow 2 53

/-- Zero. -/
def Binary.zero : Binary := ⟨0, leastExponent⟩

/-- Whether a number is zero. -/
def Binary.isZero (number : Binary) : Bool := number.mantissa == 0

/-- The quotient rounded to a whole number; a half goes to the even neighbour. -/
def halfEven (numerator denominator : Nat) : Nat :=
  let below := numerator / denominator
  let rest := numerator % denominator
  if denominator < 2 * rest || (2 * rest == denominator && below % 2 == 1) then below + 1
  else below

theorem le_halfEven (numerator denominator : Nat) :
    numerator / denominator ≤ halfEven numerator denominator := by
  unfold halfEven; dsimp only; split <;> omega

theorem halfEven_le (numerator denominator : Nat) :
    halfEven numerator denominator ≤ numerator / denominator + 1 := by
  unfold halfEven; dsimp only; split <;> omega

/-- The quotient `numerator / denominator / 2 ^ exponent` as a quotient of whole numbers. -/
def scaled (numerator denominator : Nat) : Int → Nat × Nat
  | .ofNat exponent => (numerator, denominator * Nat.pow 2 exponent)
  | .negSucc exponent => (numerator * Nat.pow 2 (exponent + 1), denominator)

/-- The exponent at which a quotient has a mantissa of 53 bits, or the smallest exponent. -/
def exponentFor (numerator denominator : Nat) : Int :=
  let guess := max leastExponent ((numerator.log2 : Int) - (denominator.log2 : Int) - 53)
  let quotient := scaled numerator denominator guess
  if mantissaBound ≤ quotient.1 / quotient.2 then guess + 1 else guess

/-- The nearest number to a quotient, or nothing when the quotient is too great. -/
def roundQuotient (numerator denominator : Nat) : Option Binary :=
  if numerator = 0 then some .zero
  else
    let exponent := exponentFor numerator denominator
    let quotient := scaled numerator denominator exponent
    let mantissa := halfEven quotient.1 quotient.2
    let rounded : Binary :=
      if mantissa = mantissaBound then ⟨mantissaBound / 2, exponent + 1⟩ else ⟨mantissa, exponent⟩
    if greatestExponent < rounded.exponent then none else some rounded

@[simp] theorem roundQuotient_zero (denominator : Nat) :
    roundQuotient 0 denominator = some .zero := rfl

/-- A number as a quotient of whole numbers. -/
def Binary.quotient (number : Binary) : Nat × Nat :=
  match number.exponent with
  | .ofNat exponent => (number.mantissa * Nat.pow 2 exponent, 1)
  | .negSucc exponent => (number.mantissa, Nat.pow 2 (exponent + 1))

/-- The nearest number to a product. -/
def Binary.mul (left right : Binary) : Option Binary :=
  let a := left.quotient
  let b := right.quotient
  roundQuotient (a.1 * b.1) (a.2 * b.2)

/-- The nearest number to a quotient of numbers, the divisor not being zero. -/
def Binary.div (left right : Binary) : Option Binary :=
  let a := left.quotient
  let b := right.quotient
  roundQuotient (a.1 * b.2) (a.2 * b.1)

/-- The nearest number to a whole number. -/
def Binary.ofNat? (n : Nat) : Option Binary := roundQuotient n 1

/-- The greatest power of ten that is a number. -/
def greatestPower : Nat := 308

/-- Multiplies or divides by the nearest number to a power of ten. -/
def Binary.shift (number : Binary) (power : Nat) (up : Bool) : Option Binary :=
  (Binary.ofNat? (Nat.pow 10 power)).bind fun ten =>
    if up then number.mul ten else number.div ten

/-- Divides by powers of ten that are numbers, at most `fuel` times the greatest of them. -/
def Binary.shiftDown (number : Binary) : (fuel : Nat) → (power : Nat) → Option Binary
  | 0, _ => some .zero
  | fuel + 1, power =>
    if power ≤ greatestPower then number.shift power false
    else if number.isZero then some .zero
    else (number.shift greatestPower false).bind fun next =>
      next.shiftDown fuel (power - greatestPower)

/-- The number that a whole number times a power of ten is read as: the whole number is rounded
first, and then every step of scaling is. Nothing when it is too great. -/
def Binary.ofParts? (significand : Nat) (power : Int) : Option Binary :=
  (Binary.ofNat? significand).bind fun number =>
    match power with
    | .ofNat up =>
      if up ≤ greatestPower then number.shift up true
      else if number.isZero then some .zero else none
    | .negSucc down => number.shiftDown 4 (down + 1)

end DeviceTrial.Decimal
