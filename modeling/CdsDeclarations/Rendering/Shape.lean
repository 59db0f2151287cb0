import CdsDeclarations.Model.Schema

/-!
# Shapes

What a definition is declared as. Definitions of other kinds are not declared.
-/

namespace CdsDeclarations

inductive Shape
  | interface
  | enumeration
  | typeAlias
  deriving DecidableEq, Repr

/-- Entities and structured types become interfaces; a type with enum members is an enum even if it
has elements. -/
def Shape.of? (definition : Definition) : Option Shape :=
  match definition.kind with
  | .entity => some interface
  | .enum => some enumeration
  | .type =>
    if definition.isEnum then some enumeration
    else if definition.isStructured then some interface
    else some typeAlias
  | .other => none

end CdsDeclarations
