import CdsDeclarations.Model.Element

/-!
# Schemas

A compiled model: its namespace and its top-level definitions in the order they were declared.
-/

namespace CdsDeclarations

/-- What a definition declares. Services, contexts, actions and everything else are `other`. -/
inductive Kind
  | entity
  | type
  | enum
  | other
  deriving DecidableEq, Repr

structure Definition where
  kind : Kind := .other
  elements : Option (OrderedMap Element) := none
  members : Option EnumMembers := none
  type : Option String := none
  cardinality : Option Cardinality := none
  items : Option Element := none
  target : Option String := none
  deriving DecidableEq

instance : Inhabited Definition := ⟨{}⟩

namespace Definition

def entity (elements : OrderedMap Element) : Definition :=
  { kind := .entity, elements := some elements }

/-- A type with enum members. -/
def enumeration (type : Option String) (members : EnumMembers) : Definition :=
  { kind := .type, type := type, members := some members }

/-- A type that renames another one. -/
def ofTag (tag : String) : Definition :=
  { kind := .type, type := some tag }

def isStructured (definition : Definition) : Bool :=
  definition.elements.isSome

def isEnum (definition : Definition) : Bool :=
  definition.members.isSome

/-- The fields in order; none if the definition has no element map. -/
def fields (definition : Definition) : List (String × Element) :=
  definition.elements.elim [] (·.entries)

/-- The type that a definition renames, as an element. -/
def underlying (definition : Definition) : Element :=
  { type := definition.type, cardinality := definition.cardinality,
    target := definition.target, items := definition.items }

end Definition

structure Schema where
  namespaceName : Option String := none
  definitions : OrderedMap Definition := .empty
  deriving DecidableEq

namespace Schema

/-- A schema of definitions without a namespace. -/
def ofDefinitions (definitions : OrderedMap Definition) : Schema :=
  { definitions := definitions }

def get? (schema : Schema) (name : String) : Option Definition :=
  schema.definitions.get? name

def size (schema : Schema) : Nat :=
  schema.definitions.size

def isEmpty (schema : Schema) : Bool :=
  schema.definitions.isEmpty

end Schema

end CdsDeclarations
