import CdsDeclarations.Number.Double

/-!
# Shortest decimals

The decimal with the fewest digits among those that round to a given double.
-/

namespace CdsDeclarations

/-- The number of decimal digits of a natural number. -/
def decimalLength (n : Nat) : Nat :=
  (Nat.toDigits 10 n).length

namespace Double

/-- How far the reals that round to a double reach below it, in quarters of its last place. -/
def belowGap (x : Double) : Nat :=
  if x.mantissa = Nat.pow 2 (precision - 1) && leastExponent < x.exponent then 1 else 2

/-- Whether a positive decimal lies among the reals that round to a double. The ends of that
interval belong to it when the mantissa is even; below a power of two it reaches half as far. -/
def isRoundedFrom (x : Double) (decimal : Decimal) : Bool :=
  let (number, unit) := scaledFraction decimal.digits 10 decimal.exponent
  let (quarter, part) := scaledFraction 1 2 (x.exponent - 2)
  let low := (4 * x.mantissa - x.belowGap) * quarter * unit
  let high := (4 * x.mantissa + 2) * quarter * unit
  let value := number * part
  if x.mantissa % 2 = 0 then low ≤ value && value ≤ high else low < value && value < high

/-- The exponent of the leading decimal digit of a positive fraction. -/
def leadingDigit (numerator denominator : Nat) : Int :=
  let guess : Int := decimalLength numerator - decimalLength denominator
  let (n, d) := scaledFraction denominator 10 guess
  if n ≤ numerator * d then guess else guess - 1

/-- The closer of the two neighbours of a positive double on a decimal grid, of those that round to
it; a tie goes to the even one. -/
def neighbourOnGrid? (x : Double) (gridExponent : Int) : Option Decimal :=
  let (binary, part) := scaledFraction x.mantissa 2 x.exponent
  let (grid, unit) := scaledFraction 1 10 gridExponent
  let numerator := binary * unit
  let denominator := part * grid
  let below : Decimal := ⟨numerator / denominator, gridExponent⟩
  let above : Decimal := ⟨numerator / denominator + 1, gridExponent⟩
  if x.isRoundedFrom below && x.isRoundedFrom above then
    some ⟨roundHalfEven numerator denominator, gridExponent⟩
  else if x.isRoundedFrom below then some below
  else if x.isRoundedFrom above then some above
  else none

/-- The exact value of a double as a decimal. -/
def exactDecimal (x : Double) : Decimal :=
  ⟨x.mantissa * Nat.pow 2 x.exponent.toNat * Nat.pow 5 (-x.exponent).toNat, min x.exponent 0⟩

/-- The decimal of the coarsest grid on which a positive double has a neighbour that rounds to
it. -/
def shortestDecimal (x : Double) : Decimal :=
  let (numerator, denominator) := scaledFraction x.mantissa 2 x.exponent
  let leading := leadingDigit numerator denominator
  ((List.range 17).findSome? fun (digits : Nat) => x.neighbourOnGrid? (leading - digits)).getD
    x.exactDecimal

end Double

end CdsDeclarations
