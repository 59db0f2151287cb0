import CdsDeclarations.Number.Basic
import CdsDeclarations.Text.Quoted

/-!
# Faults of a text

Why a text could not be read: it breaks the grammar, it ends too early, or it holds a value of the
wrong kind. Reading stops at the first fault.
-/

namespace CdsDeclarations.Json

/-- What was found in place of the expected kind of value. -/
inductive Found
  | null
  | boolean (value : Bool)
  | number (value : Number)
  | text (value : String)
  | sequence
  | map
  deriving DecidableEq, Repr

inductive Fault
  | endInValue
  | endInObject
  | endInList
  | endInText
  | expectedValue
  | expectedIdentifier
  | invalidNumber
  | numberOutOfRange
  | expectedColon
  | expectedObjectSeparator
  | expectedListSeparator
  | keyNotText
  | trailingComma
  | trailingCharacters
  | invalidEscape
  | controlCharacter
  | unexpectedEndOfEscape
  | loneSurrogate
  | recursionLimit
  | duplicateField (key : String)
  | invalidLength (length : Nat) (expected : String)
  | wrongKind (found : Found) (expected : String)
  | integerOutOfRange (value : Int) (expected : String)
  deriving DecidableEq, Repr

/-- The three sorts of faults: the text ends, the text breaks the grammar, or the data do not
fit. -/
inductive Category
  | ended
  | grammar
  | data
  deriving DecidableEq, Repr

/-- A part of a message between backticks. -/
def backticked (text : String) : String :=
  "\x60" ++ text ++ "\x60"

def Found.description : Found → String
  | null => "null"
  | boolean value => "boolean " ++ backticked (if value then "true" else "false")
  | number (.integer value) => "integer " ++ backticked (Number.integer value).text
  | number (.floating value) => "floating point " ++ backticked (Number.floating value).text
  | text value => "string " ++ quotedForMessage value
  | sequence => "sequence"
  | map => "map"

namespace Fault

def category : Fault → Category
  | endInValue | endInObject | endInList | endInText => .ended
  | duplicateField _ | invalidLength _ _ | wrongKind _ _ | integerOutOfRange _ _ => .data
  | _ => .grammar

def message : Fault → String
  | endInValue => "EOF while parsing a value"
  | endInObject => "EOF while parsing an object"
  | endInList => "EOF while parsing a list"
  | endInText => "EOF while parsing a string"
  | expectedValue => "expected value"
  | expectedIdentifier => "expected ident"
  | invalidNumber => "invalid number"
  | numberOutOfRange => "number out of range"
  | expectedColon => "expected " ++ backticked ":"
  | expectedObjectSeparator => "expected " ++ backticked "," ++ " or " ++ backticked "\x7d"
  | expectedListSeparator => "expected " ++ backticked "," ++ " or " ++ backticked "]"
  | keyNotText => "key must be a string"
  | trailingComma => "trailing comma"
  | trailingCharacters => "trailing characters"
  | invalidEscape => "invalid escape"
  | controlCharacter => "control character (\\u0000-\\u001F) found while parsing a string"
  | unexpectedEndOfEscape => "unexpected end of hex escape"
  | loneSurrogate => "lone leading surrogate in hex escape"
  | recursionLimit => "recursion limit exceeded"
  | duplicateField key => "duplicate field " ++ backticked key
  | invalidLength length expected =>
    "invalid length " ++ toString length ++ ", expected " ++ expected
  | wrongKind found expected => "invalid type: " ++ found.description ++ ", expected " ++ expected
  | integerOutOfRange value expected =>
    "invalid value: integer " ++ backticked (toString value) ++ ", expected " ++ expected

end Fault

end CdsDeclarations.Json
