import CdsDeclarations.Rendering.ResolvedType
import CdsDeclarations.Rendering.Shape
import CdsDeclarations.Declaration.Basic

/-!
# Names of declarations and references

Interfaces carry a prefix, enums and aliases do not. A reference by type tag has the prefix if the
model declares its target as an interface; an association always has it.
-/

namespace CdsDeclarations

/-- What naming depends on: the prefix of interfaces and, where there is one, the model. -/
structure Context where
  interfacePrefix : String
  schema : Option Schema := none

namespace Context

def interfaceName (context : Context) (modelName : String) : String :=
  context.interfacePrefix ++ Identifier.ofQualified modelName

/-- Whether the model declares a name as an interface. -/
def isInterface (context : Context) (modelName : String) : Bool :=
  (context.schema.bind (·.get? modelName)).bind Shape.of? = some .interface

/-- The name by which the target of a type tag is referred to. -/
def referenceName (context : Context) (modelName : String) : String :=
  if context.isInterface modelName then context.interfaceName modelName
  else Identifier.ofQualified modelName

def headName (context : Context) : TypeHead → String
  | .builtin type => type.name
  | .associated target => context.interfaceName target
  | .named tag => context.referenceName tag
  | .inlineEnum name => name

def typeExpression (context : Context) (type : ResolvedType) : TypeExpression :=
  ⟨context.headName type.head, type.depth⟩

/-- The name of the declaration that a definition gets. -/
def declarationName (context : Context) (modelName : String) : Shape → String
  | .interface => context.interfaceName modelName
  | .enumeration | .typeAlias => Identifier.ofQualified modelName

end Context

end CdsDeclarations
