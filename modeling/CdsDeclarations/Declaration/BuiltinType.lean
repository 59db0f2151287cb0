import CdsDeclarations.Model.ScalarType

/-!
# Built-in types of declarations

The types that scalars are declared with.
-/

namespace CdsDeclarations

inductive BuiltinType
  | string
  | boolean
  | number
  | date
  | buffer
  | any
  deriving DecidableEq, Repr

namespace BuiltinType

def name : BuiltinType → String
  | string => "string"
  | boolean => "boolean"
  | number => "number"
  | date => "Date"
  | buffer => "Buffer"
  | any => "any"

def ofScalar : ScalarType → BuiltinType
  | .uuid | .string | .largeString => string
  | .boolean => boolean
  | .integer | .integer64 | .int16 | .int32 | .int64 | .uint8 | .decimal | .decimalFloat
  | .double => number
  | .date | .time | .dateTime | .timestamp => date
  | .binary | .largeBinary => buffer

/-- The type that a scalar tag is declared with. A tag that names no scalar has any type. -/
def ofTag (tag : String) : BuiltinType :=
  (ScalarType.ofTag? tag).elim any ofScalar

end BuiltinType

end CdsDeclarations
