import CdsDeclarations.Json.Skim
import CdsDeclarations.OrderedMap

/-!
# Decoders

Reading a node as a value of a wanted kind. Everything is read from left to right, and the first
fault ends the reading. A decoder is told how many containers may still be opened inside its node.
-/

namespace CdsDeclarations.Json

/-- Reads a node in which so many nested containers may be opened. -/
abbrev Decoder (α : Type) := Nat → Node → Except Fault α

/-- The number of containers that may be open at once. -/
def nestingLimit : Nat := 127

def ListBreak.fault : ListBreak → Fault
  | textEnds => .endInList
  | noSeparator => .expectedListSeparator
  | closedAfterComma => .trailingComma

def ObjectBreak.fault : ObjectBreak → Fault
  | textEnds => .endInObject
  | textEndsAfterComma => .endInValue
  | noSeparator => .expectedObjectSeparator
  | closedAfterComma => .trailingComma
  | noKey => .keyNotText

/-- The fault of a node that is not of the expected kind. A scalar is read first, so that a
malformed one has its own fault. -/
def Node.mismatch (expected : String) : Node → Fault
  | .missing => .endInValue
  | .unknown => .expectedValue
  | .brokenWord textEnds => wordFault textEnds
  | .null => .wrongKind .null expected
  | .boolean value => .wrongKind (.boolean value) expected
  | .number numeral =>
    match numeral.read with
    | .ok value => .wrongKind (.number value) expected
    | .error fault => fault
  | .text literal =>
    match literal.read with
    | .ok value => .wrongKind (.text value) expected
    | .error fault => fault
  | .list _ => .wrongKind .sequence expected
  | .object _ => .wrongKind .map expected

/-- The fault of a node where a container is expected but none may be opened. -/
def Node.closedMismatch (expected : String) : Node → Fault
  | .list _ => .recursionLimit
  | .object _ => .recursionLimit
  | node => node.mismatch expected

variable {α σ : Type}

/-- Reads the items of a list one after the other. -/
def Items.fold (step : σ → Node → Except Fault σ) (state : σ) : Items → Except Fault σ
  | .close => .ok state
  | .item value rest => do
    let state ← step state value
    rest.fold step state
  | .broken cause => .error cause.fault

/-- Reads the members of an object one after the other. Whether a key is admitted is asked before
its value is looked at. -/
def Members.fold (checkKey : σ → String → Except Fault Unit)
    (step : σ → String → Node → Except Fault σ) (state : σ) : Members → Except Fault σ
  | .close => .ok state
  | .member key value rest => do
    let key ← key.read
    checkKey state key
    let state ← step state key value
    rest.fold checkKey step state
  | .noColon key textEnds => do
    let key ← key.read
    checkKey state key
    .error (colonFault textEnds)
  | .broken cause => .error cause.fault

def anyKey (_ : σ) (_ : String) : Except Fault Unit := .ok ()

/-- Nothing but the closing bracket may follow the last item of a list of fixed length. -/
def Items.requireClose : Items → Except Fault Unit
  | .close => .ok ()
  | .item _ _ => .error .trailingCharacters
  | .broken .textEnds => .error .endInList
  | .broken .noSeparator => .error .trailingCharacters
  | .broken .closedAfterComma => .error .trailingComma

/-- Nothing but null. -/
def readUnit : Node → Except Fault Unit
  | .null => .ok ()
  | node => .error (node.mismatch "unit")

def readBoolean : Node → Except Fault Bool
  | .boolean value => .ok value
  | node => .error (node.mismatch "a boolean")

def readString : Node → Except Fault String
  | .text literal => literal.read
  | node => .error (node.mismatch "a string")

/-- The least number that an integer of 64 bits with a sign does not reach. -/
def int64Bound : Nat := Nat.pow 2 63

/-- An integer of 64 bits with a sign. -/
def readInt64 : Node → Except Fault Int
  | .number numeral => do
    match ← numeral.read with
    | .integer value =>
      if -int64Bound ≤ value && value < int64Bound then .ok value
      else .error (.integerOutOfRange value "i64")
    | .floating value => .error (.wrongKind (.number (.floating value)) "i64")
  | node => .error (node.mismatch "i64")

/-- Null is absence. -/
def readOptional (read : Node → Except Fault α) : Node → Except Fault (Option α)
  | .null => .ok none
  | node => some <$> read node

/-- Any value, read in full; the answer tells what it is from outside. -/
def readAny : Decoder Found
  | _, .missing => .error .endInValue
  | _, .unknown => .error .expectedValue
  | _, .brokenWord textEnds => .error (wordFault textEnds)
  | _, .null => .ok .null
  | _, .boolean value => .ok (.boolean value)
  | _, .number numeral => .number <$> numeral.read
  | _, .text literal => .text <$> literal.read
  | 0, .list _ => .error .recursionLimit
  | 0, .object _ => .error .recursionLimit
  | depth + 1, .list items => do
    items.fold (fun _ value => do let _ ← readAny depth value) ()
    return .sequence
  | depth + 1, .object members => do
    members.fold anyKey (fun _ _ value => do let _ ← readAny depth value) ()
    return .map

def pairExpected : String := "a tuple of size 2"

/-- A name and a value, as the two items of a list. -/
def readPairItems (read : Node → Except Fault α) : Items → Except Fault (String × α)
  | .close => .error (.invalidLength 0 pairExpected)
  | .broken cause => .error cause.fault
  | .item name rest => do
    let name ← readString name
    match rest with
    | .close => .error (.invalidLength 1 pairExpected)
    | .broken cause => .error cause.fault
    | .item value rest =>
      let value ← read value
      rest.requireClose
      return (name, value)

def readPair (read : Decoder α) : Decoder (String × α)
  | 0, node => .error (match node with
    | .list _ => .recursionLimit
    | _ => node.mismatch pairExpected)
  | depth + 1, .list items => readPairItems (read depth) items
  | _ + 1, node => .error (node.mismatch pairExpected)

def mapExpected : String := "a JSON object or an array of [name, value] pairs"

/-- A map, written as an object or as a list of pairs. A repeated name keeps its first position and
takes its last value, in both spellings. -/
def readMap (read : Decoder α) : Decoder (OrderedMap α)
  | 0, node => .error (node.closedMismatch mapExpected)
  | depth + 1, .object members =>
    members.fold anyKey
      (fun map name value => do
        let value ← read depth value
        return map.insert name value)
      .empty
  | depth + 1, .list items =>
    items.fold
      (fun map pair => do
        let (name, value) ← readPair read depth pair
        return map.insert name value)
      .empty
  | _ + 1, node => .error (node.mismatch mapExpected)

/-- Reads a whole text. After the value only blanks may follow. -/
def readText (read : Decoder α) (text : String) : Except Fault α := do
  let text := Text.ofString text
  let value ← read nestingLimit text.root
  if text.hasTrailing then .error .trailingCharacters else return value

end CdsDeclarations.Json
