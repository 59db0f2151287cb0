/-!
# Digits

The ten digits from zero to nine, the number that a row of them writes, and hexadecimal digits.
-/

namespace CdsDeclarations

def isDigit (c : Char) : Bool :=
  '0' ≤ c && c ≤ '9'

/-- The number that a value becomes with one more digit behind its own. -/
def appendDigit (value : Nat) (c : Char) : Nat :=
  value * 10 + (c.toNat - '0'.toNat)

/-- The number written by decimal digits. -/
def digitsValue (digits : List Char) : Nat :=
  digits.foldl appendDigit 0

/-- The value of a hexadecimal digit. -/
def hexDigit? (c : Char) : Option Nat :=
  if '0' ≤ c && c ≤ '9' then some (c.toNat - '0'.toNat)
  else if 'a' ≤ c && c ≤ 'f' then some (c.toNat - 'a'.toNat + 10)
  else if 'A' ≤ c && c ≤ 'F' then some (c.toNat - 'A'.toNat + 10)
  else none

end CdsDeclarations
