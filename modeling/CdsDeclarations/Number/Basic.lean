import CdsDeclarations.Number.Shortest

/-!
# Numbers and their text

A number is an integer of 64 bits or a double. Integers are written in decimal, doubles by their
shortest digits.
-/

namespace CdsDeclarations

inductive Number
  | integer (value : Int)
  | floating (value : Double)
  deriving DecidableEq, Repr

namespace Number

/-- Doubles whose leading digit stands at one of these powers of ten are written positionally. -/
def positionalFrom : Int := -5

def positionalBelow : Int := 16

/-- Digits without the zeros at their end; a single zero stays. -/
def significantDigits (digits : List Char) : List Char :=
  match (digits.reverse.dropWhile (· = '0')).reverse with
  | [] => ['0']
  | kept => kept

/-- Digits with the point before, inside or after them, and always a digit after the point. -/
def positional (digits : List Char) (leading : Int) : List Char :=
  if leading < 0 then
    '0' :: '.' :: List.replicate (-leading - 1).toNat '0' ++ digits
  else
    let whole := leading.toNat + 1
    let padded := digits ++ List.replicate (whole + 1 - digits.length) '0'
    padded.take whole ++ '.' :: padded.drop whole

/-- One digit, the others after a point, and the signed exponent. -/
def scientific (digits : List Char) (leading : Int) : List Char :=
  let fraction := if digits.length ≤ 1 then [] else '.' :: digits.drop 1
  digits.take 1 ++ fraction ++ 'e' :: (if leading < 0 then '-' else '+') ::
    Nat.toDigits 10 leading.natAbs

def decimalText (decimal : Decimal) : List Char :=
  let digits := Nat.toDigits 10 decimal.digits
  let leading := decimal.exponent + digits.length - 1
  let kept := significantDigits digits
  if positionalFrom ≤ leading && leading < positionalBelow then positional kept leading
  else scientific kept leading

def doubleText (x : Double) : List Char :=
  (if x.negative then ['-'] else []) ++
    (if x.mantissa = 0 then ['0', '.', '0'] else decimalText x.shortestDecimal)

/-- Integers in decimal; doubles positionally from `0.00001` to below `10 ^ 16`, with at least one
digit after the point, else with an exponent that always has a sign. -/
def text : Number → String
  | integer value => toString value
  | floating value => String.ofList (doubleText value)

end Number

end CdsDeclarations
