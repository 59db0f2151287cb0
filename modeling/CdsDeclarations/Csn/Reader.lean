import CdsDeclarations.Json.Record
import CdsDeclarations.Model.Schema

/-!
# Reading models

The compiled form of a model: a document with a namespace and definitions, which hold elements,
which hold enum members. Only plain type names are kept, and cardinalities and enum literals are
read leniently from any value.
-/

namespace CdsDeclarations.Csn

open Json

/-- A type tag: any value, of which only a text is kept. -/
def readTypeTag (depth : Nat) (node : Node) : Except Fault (Option String) := do
  match ← readAny depth node with
  | .text tag => return some tag
  | _ => return none

/-- Whether a value names an upper bound above one. -/
def boundsMany : Found → Bool
  | .text bound => bound = "*"
  | .number (.integer bound) => 1 < bound
  | _ => false

def namesMany (name : String) : Bool :=
  name = "to-many" || name = "many" || name = "*"

/-- A cardinality: a name for many, or an object of which the last upper bound counts. Everything
else is at most one. -/
def readCardinality (depth : Nat) (node : Node) : Except Fault Cardinality := do
  let many ←
    match depth, node with
    | depth + 1, .object members =>
      members.fold anyKey
        (fun many key value => do
          let found ← readAny depth value
          return if key = "max" then boundsMany found else many)
        false
    | _, _ =>
      match ← readAny depth node with
      | .text name => pure (namesMany name)
      | _ => pure false
  return if many then .toMany else .toOne

/-- An enum literal: a scalar, or an object of which the last value counts, read in the same way.
Everything else is implicit. -/
def readEnumValue : Decoder EnumValue
  | depth + 1, .object members =>
    members.fold anyKey
      (fun literal key value => do
        if key = "val" then readEnumValue depth value
        else
          let _ ← readAny depth value
          return literal)
      .implicit
  | depth, node => do
    match ← readAny depth node with
    | .number value => return .number value
    | .text value => return .text value
    | .boolean value => return .flag value
    | _ => return .implicit

def readMembers : Decoder EnumMembers :=
  readMap readEnumValue

inductive ElementSlot
  | type | cardinality | enum | target | items | key | notNull
  deriving DecidableEq

abbrev ElementSlot.Content : ElementSlot → Type
  | type => Option String
  | cardinality => Option Cardinality
  | enum => Option EnumMembers
  | target => Option String
  | items => Option Element
  | key => Bool
  | notNull => Bool

def elementFormat : RecordFormat ElementSlot where
  expected := "struct Element"
  slots := [.type, .cardinality, .enum, .target, .items, .key, .notNull]
  key
    | .type => "type"
    | .cardinality => "cardinality"
    | .enum => "enum"
    | .target => "target"
    | .items => "items"
    | .key => "key"
    | .notNull => "notNull"
  mayLack
    | .type | .key | .notNull => true
    | _ => false

def elementOfDraft (draft : Draft ElementSlot.Content) : Element where
  type := (draft .type).join
  cardinality := (draft .cardinality).join
  members := (draft .enum).join
  target := (draft .target).join
  items := (draft .items).join
  isKey := (draft .key).getD false
  isNotNull := (draft .notNull).getD false

/-- Reads a slot of an element, given how to read the element type of an arrayed one. -/
def readElementSlot (depth : Nat) (readItems : Node → Except Fault Element) :
    (slot : ElementSlot) → Node → Except Fault slot.Content
  | .type => readTypeTag depth
  | .cardinality => readOptional (readCardinality depth)
  | .enum => readOptional (readMembers depth)
  | .target => readOptional readString
  | .items => readOptional readItems
  | .key => readBoolean
  | .notNull => readBoolean

def readElement : Decoder Element
  | 0, node => .error (node.closedMismatch elementFormat.expected)
  | depth + 1, node => do
    let draft ← elementFormat.read (readElementSlot depth (readElement depth)) node
    return elementOfDraft draft

def readElements : Decoder (OrderedMap Element) :=
  readMap readElement

def kindOfName (name : String) : Kind :=
  if name = "entity" then .entity
  else if name = "type" then .type
  else if name = "enum" then .enum
  else .other

/-- The object form of a kind: one entry, the kind's name with null. -/
def readKindEntry : Members → Except Fault Kind
  | .close => .error .expectedValue
  | .broken cause => .error cause.fault
  | .noColon name textEnds => do
    let _ ← name.read
    .error (colonFault textEnds)
  | .member name value rest => do
    let name ← name.read
    readUnit value
    match rest with
    | .close => return kindOfName name
    | .broken .textEnds => .error .endInObject
    | _ => .error .expectedValue

def readKind : Decoder Kind
  | _, .missing => .error .endInValue
  | _, .text literal => kindOfName <$> literal.read
  | 0, .object _ => .error .recursionLimit
  | _ + 1, .object members => readKindEntry members
  | _, _ => .error .expectedValue

inductive DefinitionSlot
  | kind | elements | enum | type | cardinality | items | target
  deriving DecidableEq

abbrev DefinitionSlot.Content : DefinitionSlot → Type
  | kind => Kind
  | elements => Option (OrderedMap Element)
  | enum => Option EnumMembers
  | type => Option String
  | cardinality => Option Cardinality
  | items => Option Element
  | target => Option String

def definitionFormat : RecordFormat DefinitionSlot where
  expected := "struct Definition"
  slots := [.kind, .elements, .enum, .type, .cardinality, .items, .target]
  key
    | .kind => "kind"
    | .elements => "elements"
    | .enum => "enum"
    | .type => "type"
    | .cardinality => "cardinality"
    | .items => "items"
    | .target => "target"
  mayLack
    | .kind | .type => true
    | _ => false

def definitionOfDraft (draft : Draft DefinitionSlot.Content) : Definition where
  kind := (draft .kind).getD .other
  elements := (draft .elements).join
  members := (draft .enum).join
  type := (draft .type).join
  cardinality := (draft .cardinality).join
  items := (draft .items).join
  target := (draft .target).join

def readDefinitionSlot (depth : Nat) :
    (slot : DefinitionSlot) → Node → Except Fault slot.Content
  | .kind => readKind depth
  | .elements => readOptional (readElements depth)
  | .enum => readOptional (readMembers depth)
  | .type => readTypeTag depth
  | .cardinality => readOptional (readCardinality depth)
  | .items => readOptional (readElement depth)
  | .target => readOptional readString

def readDefinition : Decoder Definition
  | 0, node => .error (node.closedMismatch definitionFormat.expected)
  | depth + 1, node => do
    let draft ← definitionFormat.read (readDefinitionSlot depth) node
    return definitionOfDraft draft

inductive DocumentSlot
  | namespaceName | definitions
  deriving DecidableEq

abbrev DocumentSlot.Content : DocumentSlot → Type
  | namespaceName => Option String
  | definitions => Option (OrderedMap Definition)

def documentFormat : RecordFormat DocumentSlot where
  expected := "struct CsnDocument"
  slots := [.namespaceName, .definitions]
  key
    | .namespaceName => "namespace"
    | .definitions => "definitions"
  mayLack _ := false

def readDocumentSlot (depth : Nat) : (slot : DocumentSlot) → Node → Except Fault slot.Content
  | .namespaceName => readOptional readString
  | .definitions => readOptional (readMap readDefinition depth)

def readDocument : Decoder (Draft DocumentSlot.Content)
  | 0, node => .error (node.closedMismatch documentFormat.expected)
  | depth + 1, node => documentFormat.read (readDocumentSlot depth) node

end CdsDeclarations.Csn
