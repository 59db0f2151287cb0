import CdsDeclarations.Number.Basic
import CdsDeclarations.OrderedMap

/-!
# Elements

A field of an entity or structured type: its type tag, cardinality, inline enum members,
association target, and the element type of an arrayed field, nested to any depth.
-/

namespace CdsDeclarations

inductive Cardinality
  | toOne
  | toMany
  deriving DecidableEq, Repr

/-- The literal of an enum member. -/
inductive EnumValue
  | number (value : Number)
  | text (value : String)
  | flag (value : Bool)
  | implicit
  deriving DecidableEq, Repr

abbrev EnumMembers := OrderedMap EnumValue

structure Element where
  type : Option String := none
  cardinality : Option Cardinality := none
  members : Option EnumMembers := none
  target : Option String := none
  items : Option Element := none
  isKey : Bool := false
  isNotNull : Bool := false

instance : Inhabited Element := ⟨{}⟩

/-- The type tag of a managed association. -/
def associationTag : String := "cds.Association"

/-- The type tag of a composition. -/
def compositionTag : String := "cds.Composition"

namespace Element

def decideEq : (a b : Element) → Decidable (a = b)
  | ⟨ta, ca, ma, ga, none, ka, na⟩, ⟨tb, cb, mb, gb, none, kb, nb⟩ =>
    decidable_of_iff (ta = tb ∧ ca = cb ∧ ma = mb ∧ ga = gb ∧ ka = kb ∧ na = nb) (by simp)
  | ⟨ta, ca, ma, ga, some ia, ka, na⟩, ⟨tb, cb, mb, gb, some ib, kb, nb⟩ =>
    have := decideEq ia ib
    decidable_of_iff (ta = tb ∧ ca = cb ∧ ma = mb ∧ ga = gb ∧ ia = ib ∧ ka = kb ∧ na = nb)
      (by simp)
  | ⟨_, _, _, _, none, _, _⟩, ⟨_, _, _, _, some _, _, _⟩ => isFalse (by simp)
  | ⟨_, _, _, _, some _, _, _⟩, ⟨_, _, _, _, none, _, _⟩ => isFalse (by simp)

instance : DecidableEq Element := decideEq

/-- An element of the given type. -/
def ofType (tag : String) : Element :=
  { type := some tag }

/-- A managed association to a target. -/
def association (target : String) (cardinality : Cardinality) : Element :=
  { type := some associationTag, target := some target, cardinality := some cardinality }

/-- An element with inline enum members. -/
def withEnum (type : Option String) (members : EnumMembers) : Element :=
  { type := type, members := some members }

def isAssociation (element : Element) : Bool :=
  element.target.isSome || element.type = some associationTag ||
    element.type = some compositionTag

def isToMany (element : Element) : Bool :=
  element.cardinality = some .toMany

/-- Associations may be absent, unless they are keys or declared not null. -/
def isOptional (element : Element) : Bool :=
  element.isAssociation && !element.isKey && !element.isNotNull

/-- The element whose inline enum members a field has: itself, or the element type of an arrayed
field. -/
def enumCarrier? (element : Element) : Option Element :=
  if element.members.isSome then some element
  else element.items.filter fun items => items.members.isSome

end Element

end CdsDeclarations
