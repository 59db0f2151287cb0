import CdsDeclarations.Rendering.Context

/-!
# Rendered definitions

The declarations that stand for a definition. An interface is preceded by the enums of its fields,
which are declared next to it.
-/

namespace CdsDeclarations

/-- The literal of a member. A bare member of a numeric enum is counted on, any other one has its
own model name as its value. -/
def enumLiteral (numeric : Bool) (name : String) : EnumValue → Option EnumLiteral
  | .number value => some (.number value)
  | .text value => some (.text value)
  | .flag value => some (.text (if value then "true" else "false"))
  | .implicit => if numeric then none else some (.text name)

def renderMember (numeric : Bool) (entry : String × EnumValue) : EnumMember :=
  ⟨Identifier.sanitize entry.1, enumLiteral numeric entry.1 entry.2⟩

/-- The enum under a name with the members of a map, in their order. -/
def renderEnum (name : String) (type : Option String) (members : Option EnumMembers) :
    Declaration :=
  .enumeration (Identifier.ofQualified name)
    ((members.elim [] (·.entries)).map (renderMember (type.any ScalarType.isNumericTag)))

/-- The enum that is declared for a field. -/
def fieldEnum? (owner field : String) (element : Element) : Option Declaration :=
  element.enumCarrier?.map fun carrier =>
    renderEnum (ResolvedType.inlineEnumName owner field) carrier.type carrier.members

namespace Context

def property (context : Context) (owner : String) (field : String × Element) : Property where
  name := Identifier.sanitize field.1
  isOptional := field.2.isOptional
  type := context.typeExpression (.ofField owner field.1 field.2)

/-- The interface of a definition alone. -/
def renderInterface (context : Context) (name : String) (definition : Definition) : Declaration :=
  .interface (context.interfaceName name) (definition.fields.map (context.property name))

/-- The enums of the fields in field order, and the interface after them. -/
def renderStructured (context : Context) (name : String) (definition : Definition) :
    List Declaration :=
  definition.fields.filterMap (fun field => fieldEnum? name field.1 field.2) ++
    [context.renderInterface name definition]

def renderAlias (context : Context) (name : String) (definition : Definition) : Declaration :=
  .typeAlias (Identifier.ofQualified name)
    (context.typeExpression (.ofElement definition.underlying))

end Context

/-- A definition with its shape, the name it is declared under, the model names that it refers to,
and its declarations. -/
structure Rendered where
  shape : Shape
  name : String
  references : List String
  declarations : List Declaration
  deriving DecidableEq, Repr

/-- The text of declarations, a blank line between one and the next. -/
def declarationsText (declarations : List Declaration) : String :=
  blocksText (declarations.map Declaration.text)

namespace Context

def renderAs (context : Context) (name : String) (definition : Definition) (shape : Shape) :
    Rendered where
  shape := shape
  name := context.declarationName name shape
  references :=
    match shape with
    | .interface => definition.fieldReferences
    | .enumeration => []
    | .typeAlias => definition.underlyingReferences
  declarations :=
    match shape with
    | .interface => context.renderStructured name definition
    | .enumeration => [renderEnum name definition.type definition.members]
    | .typeAlias => [context.renderAlias name definition]

/-- Renders a definition that is declared. -/
def render? (context : Context) (name : String) (definition : Definition) : Option Rendered :=
  (Shape.of? definition).map (context.renderAs name definition)

end Context

end CdsDeclarations
