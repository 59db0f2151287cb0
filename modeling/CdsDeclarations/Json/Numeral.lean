import CdsDeclarations.Json.Fault
import CdsDeclarations.Text.Digits

/-!
# Numerals

A number as it stands in a text, split into its digits, and the number it is read as. A numeral may
also break off, because the text ends or because a digit is missing. A double is read from as many
digits as fit into 64 bits and need not be the nearest one.
-/

namespace CdsDeclarations.Json

/-- How a numeral comes to its end. -/
inductive NumeralEnd
  | complete
  | textEnds
  | invalid
  deriving DecidableEq, Repr

/-- The parts of a numeral. Fraction and exponent are absent, or hold the digits read so far. -/
structure Numeral where
  negative : Bool
  whole : List Char
  fraction : Option (List Char) := none
  exponentNegative : Bool := false
  exponent : Option (List Char) := none
  ending : NumeralEnd := .complete
  deriving DecidableEq, Repr

namespace Numeral

/-- Whether a digit is missing because the text ends or because something else stands there. -/
def missingDigit : List Char → NumeralEnd
  | [] => .textEnds
  | _ :: _ => .invalid

/-- The exponent after its mark: an optional sign and at least one digit. -/
def readExponent (numeral : Numeral) (text : List Char) : Numeral × List Char :=
  let (negative, text) :=
    match text with
    | '-' :: rest => (true, rest)
    | '+' :: rest => (false, rest)
    | _ => (false, text)
  let digits := text.takeWhile isDigit
  let rest := text.dropWhile isDigit
  let ending := if digits.isEmpty then missingDigit rest else .complete
  ({ numeral with exponentNegative := negative, exponent := some digits, ending := ending }, rest)

def readExponentMark (numeral : Numeral) : List Char → Numeral × List Char
  | [] => (numeral, [])
  | c :: rest => if c = 'e' || c = 'E' then numeral.readExponent rest else (numeral, c :: rest)

/-- The fraction after its point: at least one digit, then perhaps an exponent. -/
def readFraction (numeral : Numeral) (text : List Char) : Numeral × List Char :=
  let digits := text.takeWhile isDigit
  let rest := text.dropWhile isDigit
  let numeral := { numeral with fraction := some digits }
  if digits.isEmpty then ({ numeral with ending := missingDigit rest }, rest)
  else numeral.readExponentMark rest

/-- What may follow the whole digits. A leading zero stands alone. -/
def readAfterWhole (numeral : Numeral) (text : List Char) : Numeral × List Char :=
  match text with
  | '.' :: rest => numeral.readFraction rest
  | _ => numeral.readExponentMark text

/-- A numeral after its sign. -/
def readUnsigned (negative : Bool) (text : List Char) : Numeral × List Char :=
  match text with
  | '0' :: rest =>
    if (rest.takeWhile isDigit).isEmpty then
      readAfterWhole { negative := negative, whole := ['0'] } rest
    else ({ negative := negative, whole := ['0'], ending := .invalid }, rest)
  | _ =>
    let digits := text.takeWhile isDigit
    let rest := text.dropWhile isDigit
    if digits.isEmpty then
      ({ negative := negative, whole := [], ending := missingDigit text }, text)
    else readAfterWhole { negative := negative, whole := digits } rest

/-- Appends digits to a number as long as it stays below `2 ^ 64`, and counts the digits that are
left over. -/
def appendFitting (value : Nat) : List Char → Nat × Nat
  | [] => (value, 0)
  | c :: rest =>
    if appendDigit value c < Nat.pow 2 64 then appendFitting (appendDigit value c) rest
    else (value, rest.length + 1)

/-- The decimal that a numeral is cut down to. A whole digit that does not fit any more counts as a
zero, a digit of the fraction is left out. -/
def decimal (numeral : Numeral) : Decimal :=
  let fraction := numeral.fraction.getD []
  let exponent : Int := digitsValue (numeral.exponent.getD [])
  let (whole, zeros) := appendFitting 0 numeral.whole
  let (digits, omitted) := appendFitting whole fraction
  ⟨digits,
    (if numeral.exponentNegative then -exponent else exponent) + zeros -
      (fraction.length - omitted : Nat)⟩

/-- Whole numbers of 64 bits stay integers. The negative zero and all other numerals are
doubles. -/
def integer? (numeral : Numeral) : Option Int :=
  if numeral.fraction.isSome || numeral.exponent.isSome then none
  else
    let magnitude := digitsValue numeral.whole
    if numeral.negative then
      if 0 < magnitude && magnitude ≤ Nat.pow 2 63 then some (-magnitude) else none
    else if magnitude < Nat.pow 2 64 then some magnitude
    else none

/-- The number that a numeral is read as. The last digit of a double may be off. -/
def read (numeral : Numeral) : Except Fault Number :=
  match numeral.ending with
  | .textEnds => .error .endInValue
  | .invalid => .error .invalidNumber
  | .complete =>
    match numeral.integer? with
    | some value => .ok (.integer value)
    | none =>
      match Double.ofDecimal? numeral.negative numeral.decimal with
      | some value => .ok (.floating value)
      | none => .error .numberOutOfRange

/-- A skimmed numeral has to be complete, but may denote any number. -/
def skim (numeral : Numeral) : Except Fault Unit :=
  match numeral.ending with
  | .complete => .ok ()
  | _ => .error .invalidNumber

end Numeral

end CdsDeclarations.Json
