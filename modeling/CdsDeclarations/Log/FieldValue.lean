import CdsDeclarations.Pattern.Support

/-!
# Values asked of fields

A directive may ask that a field has a value. The value is a truth value, a number or a pattern; a
truth value is read by the same rules as a pattern, so that only numbers need rules of their own.
-/

namespace CdsDeclarations.FieldValue

/-- The exponent at the end of a number, if there is one. -/
def isExponent : List Char → Bool
  | [] => true
  | c :: rest =>
    let digits := if rest.head? = some '+' ∨ rest.head? = some '-' then rest.tail else rest
    (c = 'e' || c = 'E') && digits ≠ [] && digits.all isDigit

/-- The words for numbers that have no digits. -/
def numberWords : List (List Char) :=
  ["inf", "infinity", "nan"].map String.toList

/-- A number without its sign: digits with or without a point among them, and an exponent. -/
def isUnsignedNumber (chars : List Char) : Bool :=
  let whole := chars.takeWhile isDigit
  let rest := chars.dropWhile isDigit
  let behindPoint := if rest.head? = some '.' then rest.tail else []
  let fraction := behindPoint.takeWhile isDigit
  let rest := if rest.head? = some '.' then behindPoint.dropWhile isDigit else rest
  ((whole ≠ [] || fraction ≠ []) && isExponent rest) ||
    numberWords.contains (chars.map Char.toLower)

def isNumber (chars : List Char) : Bool :=
  isUnsignedNumber
    (if chars.head? = some '+' ∨ chars.head? = some '-' then chars.tail else chars)

/-- Whether a field can be asked to have a value. -/
def isValid (chars : List Char) : Bool :=
  isNumber chars || isPattern chars

end CdsDeclarations.FieldValue
