/-!
# Double-precision numbers

A finite double is kept exactly, as a sign, a mantissa and a power of two. Products and quotients
are rounded to the nearest double, by integer arithmetic alone. A decimal becomes a double by a few
of them, so it need not become the nearest one.
-/

namespace CdsDeclarations

/-- The value `mantissa * 2 ^ exponent` with a sign, which zero has too. -/
structure Double where
  negative : Bool
  mantissa : Nat
  exponent : Int
  deriving DecidableEq, Repr

/-- The value `digits * 10 ^ exponent`. -/
structure Decimal where
  digits : Nat
  exponent : Int
  deriving DecidableEq, Repr

/-- Numerator and denominator of `factor * base ^ exponent`. -/
def scaledFraction (factor base : Nat) (exponent : Int) : Nat × Nat :=
  (factor * base.pow exponent.toNat, base.pow (-exponent).toNat)

/-- A quotient to the nearest integer, a half to the even one. -/
def roundHalfEven (numerator denominator : Nat) : Nat :=
  let quotient := numerator / denominator
  let twiceRest := 2 * (numerator % denominator)
  if twiceRest < denominator || (twiceRest = denominator && quotient % 2 = 0) then quotient
  else quotient + 1

namespace Double

/-- Bits in a full mantissa. -/
def precision : Nat := 53

def leastExponent : Int := -1074

def greatestExponent : Int := 971

def zero (negative : Bool) : Double := ⟨negative, 0, leastExponent⟩

/-- The exponent of the leading bit of a positive fraction. -/
def leadingBit (numerator denominator : Nat) : Int :=
  let guess : Int := numerator.log2 - denominator.log2
  let (n, d) := scaledFraction denominator 2 guess
  if n ≤ numerator * d then guess else guess - 1

/-- The double nearest to a positive fraction, or `none` beyond the largest one. -/
def nearestFraction? (negative : Bool) (numerator denominator : Nat) : Option Double :=
  let exponent := max (leadingBit numerator denominator - (precision - 1)) leastExponent
  let mantissa :=
    roundHalfEven (numerator * Nat.pow 2 (-exponent).toNat)
      (denominator * Nat.pow 2 exponent.toNat)
  let (mantissa, exponent) :=
    if mantissa = Nat.pow 2 precision then (Nat.pow 2 (precision - 1), exponent + 1)
    else (mantissa, exponent)
  if greatestExponent < exponent then none
  else if mantissa = 0 then some (zero negative)
  else some ⟨negative, mantissa, exponent⟩

/-- The double nearest to a natural number. -/
def ofNat? (n : Nat) : Option Double :=
  nearestFraction? false n 1

/-- Numerator and denominator of the magnitude. -/
def fraction (x : Double) : Nat × Nat :=
  scaledFraction x.mantissa 2 x.exponent

/-- The double nearest to a product, or `none` beyond the largest one. -/
def multiply? (x y : Double) : Option Double :=
  nearestFraction? (x.negative != y.negative) (x.fraction.1 * y.fraction.1)
    (x.fraction.2 * y.fraction.2)

/-- The double nearest to a quotient, or `none` beyond the largest one. -/
def divide? (x y : Double) : Option Double :=
  nearestFraction? (x.negative != y.negative) (x.fraction.1 * y.fraction.2)
    (x.fraction.2 * y.fraction.1)

/-- The exponent of the greatest power of ten within the range of doubles. -/
def greatestPower : Nat := 308

/-- The double nearest to a power of ten. -/
def powerOfTen? (exponent : Nat) : Option Double :=
  ofNat? (Nat.pow 10 exponent)

/-- A double times a power of ten, or `none` beyond the largest double. A small power takes several
divisions, and every step rounds. -/
def scale? (x : Double) (exponent : Int) : Option Double :=
  if exponent.natAbs ≤ greatestPower then do
    let power ← powerOfTen? exponent.natAbs
    if 0 ≤ exponent then x.multiply? power else x.divide? power
  else if x.mantissa = 0 then some x
  else if 0 ≤ exponent then none
  else do
    let power ← powerOfTen? greatestPower
    let quotient ← x.divide? power
    quotient.scale? (exponent + greatestPower)
termination_by exponent.natAbs
decreasing_by
  simp only [greatestPower] at *
  omega

/-- The double that a decimal is read as, or `none` beyond the largest one. The last digit may
differ from that of the nearest double. -/
def ofDecimal? (negative : Bool) (decimal : Decimal) : Option Double := do
  let digits ← ofNat? decimal.digits
  let magnitude ← digits.scale? decimal.exponent
  return { magnitude with negative := negative }

end Double

end CdsDeclarations
