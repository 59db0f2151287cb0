import CdsDeclarations.Identifier
import CdsDeclarations.Model.Schema
import CdsDeclarations.Text.LetterCase
import CdsDeclarations.Declaration.BuiltinType

/-!
# Resolved types

What the type of a field comes down to: a head and a number of array levels. The head is a built-in
type, a reference to another definition, or the enum that is declared for the field itself.
References are also collected on their own, for the imports that a file needs.
-/

namespace CdsDeclarations

inductive TypeHead
  | builtin (type : BuiltinType)
  | associated (target : String)
  | named (tag : String)
  | inlineEnum (name : String)
  deriving DecidableEq, Repr

/-- A head under so many array levels. -/
structure ResolvedType where
  head : TypeHead
  depth : Nat
  deriving DecidableEq, Repr

/-- The head that a type tag stands for. A scalar tag is never a reference. -/
def TypeHead.ofTag : Option String → TypeHead
  | some tag => if ScalarType.isScalarTag tag then builtin (.ofTag tag) else named tag
  | none => builtin .any

/-- The head of an association; one without a target may be anything. -/
def TypeHead.ofTarget : Option String → TypeHead
  | some target => associated target
  | none => builtin .any

namespace ResolvedType

def arrayOf (type : ResolvedType) : ResolvedType :=
  { type with depth := type.depth + 1 }

def arrayIf (many : Bool) (type : ResolvedType) : ResolvedType :=
  if many then type.arrayOf else type

/-- The type of an element, its enum members left aside. Every level of items and every cardinality
of many adds an array level. -/
def ofElement (element : Element) : ResolvedType :=
  let single :=
    if element.isAssociation then ⟨.ofTarget element.target, 0⟩
    else
      match element with
      | ⟨_, _, _, _, some items, _, _⟩ => (ofElement items).arrayOf
      | ⟨type, _, _, _, none, _, _⟩ => ⟨.ofTag type, 0⟩
  single.arrayIf element.isToMany

/-- The name of the enum declared for a field: the owner's name and the capitalized field name. -/
def inlineEnumName (owner field : String) : String :=
  Identifier.ofQualified owner ++ capitalize (Identifier.sanitize field)

/-- The type of a field. A field with enum members has its own enum as the head, under one array
level if it is arrayed or to many. -/
def ofField (owner field : String) (element : Element) : ResolvedType :=
  if element.enumCarrier?.isSome then
    (⟨.inlineEnum (inlineEnumName owner field), 0⟩ : ResolvedType).arrayIf
      (element.items.isSome || element.isToMany)
  else ofElement element

end ResolvedType

/-- The model name that a type tag refers to. -/
def tagReference : Option String → List String
  | some tag => if ScalarType.isScalarTag tag then [] else [tag]
  | none => []

/-- The model names that the type of an element refers to. An element with enum members, at any
level, refers to none. -/
def Element.references (element : Element) : List String :=
  if element.enumCarrier?.isSome then []
  else if element.isAssociation then element.target.toList
  else
    match element with
    | ⟨_, _, _, _, some items, _, _⟩ => references items
    | ⟨type, _, _, _, none, _, _⟩ => tagReference type

namespace Definition

/-- The model names that the fields refer to, in field order. -/
def fieldReferences (definition : Definition) : List String :=
  definition.fields.flatMap fun field => field.2.references

/-- The model names that the renamed type refers to. -/
def underlyingReferences (definition : Definition) : List String :=
  match definition.target, definition.items with
  | some target, _ => [target]
  | none, some items => items.references
  | none, none => tagReference definition.type

end Definition

end CdsDeclarations
