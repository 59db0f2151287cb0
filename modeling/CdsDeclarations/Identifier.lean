import CdsDeclarations.Text.Alphabetic
import CdsDeclarations.Text.Digits
import CdsDeclarations.Text.LetterCase

/-!
# Identifiers

Model names are dot-separated and may hold any character. A declaration, field or member name is
an identifier: letters, decimal digits, the underscore and the dollar sign, no digit in front.
-/

namespace CdsDeclarations.Identifier

/-- The characters that identifiers are made of. -/
def isAllowed (c : Char) : Bool :=
  isDigit c || c = '_' || c = '$' || isAlphabetic c

def replaceForbidden (c : Char) : Char :=
  if isAllowed c then c else '_'

/-- An underscore goes before a leading digit. -/
def protectDigit : List Char → List Char
  | [] => []
  | c :: rest => if isDigit c then '_' :: c :: rest else c :: rest

def sanitizeChars (chars : List Char) : List Char :=
  protectDigit (chars.map replaceForbidden)

/-- Every character outside the alphabet becomes an underscore, and a leading digit gets one more
in front. -/
def sanitize (raw : String) : String :=
  String.ofList (sanitizeChars raw.toList)

/-- The characters after the last dot. -/
def localChars (chars : List Char) : List Char :=
  (chars.reverse.takeWhile (· ≠ '.')).reverse

/-- The local part of a qualified name: everything after the last dot. -/
def localPart (qualified : String) : String :=
  String.ofList (localChars qualified.toList)

/-- The identifier under which the thing with a qualified name is declared. -/
def ofQualified (qualified : String) : String :=
  sanitize (localPart qualified)

end CdsDeclarations.Identifier
