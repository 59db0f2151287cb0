/-!
# Built-in scalar types

The closed list of scalar types of the modeling language, their names, and which tags stand for
them. A tag may leave out the leading namespace.
-/

namespace CdsDeclarations

inductive ScalarType
  | uuid | string | largeString | boolean
  | integer | integer64 | int16 | int32 | int64 | uint8 | decimal | decimalFloat | double
  | date | time | dateTime | timestamp | binary | largeBinary
  deriving DecidableEq, Repr

namespace ScalarType

/-- All scalar types, in their fixed order. -/
def all : List ScalarType :=
  [uuid, string, largeString, boolean, integer, integer64, int16, int32, int64, uint8, decimal,
    decimalFloat, double, date, time, dateTime, timestamp, binary, largeBinary]

/-- The name of a scalar type inside its namespace. -/
def shortName : ScalarType → String
  | uuid => "UUID"
  | string => "String"
  | largeString => "LargeString"
  | boolean => "Boolean"
  | integer => "Integer"
  | integer64 => "Integer64"
  | int16 => "Int16"
  | int32 => "Int32"
  | int64 => "Int64"
  | uint8 => "UInt8"
  | decimal => "Decimal"
  | decimalFloat => "DecimalFloat"
  | double => "Double"
  | date => "Date"
  | time => "Time"
  | dateTime => "DateTime"
  | timestamp => "Timestamp"
  | binary => "Binary"
  | largeBinary => "LargeBinary"

/-- The namespace of the built-in types, with its dot. -/
def builtinNamespace : String := "cds."

def qualifiedName (scalar : ScalarType) : String :=
  builtinNamespace ++ scalar.shortName

/-- Whether a tag lies in the namespace of the built-in types. -/
def isBuiltinTag (tag : String) : Bool :=
  builtinNamespace.toList.isPrefixOf tag.toList

/-- The tag without one leading built-in namespace. -/
def withoutNamespace (tag : String) : String :=
  if isBuiltinTag tag then String.ofList (tag.toList.drop builtinNamespace.toList.length) else tag

/-- The scalar type that a tag names, with or without the namespace. -/
def ofTag? (tag : String) : Option ScalarType :=
  all.find? fun scalar => scalar.shortName = withoutNamespace tag

def isNumeric : ScalarType → Bool
  | integer | integer64 | int16 | int32 | int64 | uint8 | decimal | decimalFloat | double => true
  | _ => false

/-- Whether a tag is a scalar rather than the name of another definition. Everything in the
built-in namespace counts, known or not. -/
def isScalarTag (tag : String) : Bool :=
  isBuiltinTag tag || (ofTag? tag).isSome

def isNumericTag (tag : String) : Bool :=
  (ofTag? tag).any isNumeric

end ScalarType

end CdsDeclarations
