import CdsDeclarations.Json.Decoder

/-!
# Records

A record with a fixed set of slots is written as an object, whose other keys are skimmed, or as a
list of the slots' values in their order. A slot may not come twice.
-/

namespace CdsDeclarations.Json

/-- The slots of a record: how messages name it, its slots in order, their keys, and which of them
a list may lack. -/
structure RecordFormat (Slot : Type) where
  expected : String
  slots : List Slot
  key : Slot → String
  mayLack : Slot → Bool

/-- The slots read so far, each with its content. -/
def Draft {Slot : Type} (Content : Slot → Type) :=
  (slot : Slot) → Option (Content slot)

variable {Slot : Type} [DecidableEq Slot] {Content : Slot → Type}

namespace Draft

/-- No slot read yet. -/
def empty : Draft Content := fun _ => none

def set (draft : Draft Content) (slot : Slot) (content : Content slot) : Draft Content :=
  fun other => if h : slot = other then some (h ▸ content) else draft other

end Draft

namespace RecordFormat

def slot? (format : RecordFormat Slot) (key : String) : Option Slot :=
  format.slots.find? fun slot => format.key slot = key

def checkKey (format : RecordFormat Slot) (draft : Draft Content) (key : String) :
    Except Fault Unit :=
  match format.slot? key with
  | some slot => if (draft slot).isSome then .error (.duplicateField key) else .ok ()
  | none => .ok ()

/-- Takes a member into the draft, or skims it. -/
def step (format : RecordFormat Slot)
    (read : (slot : Slot) → Node → Except Fault (Content slot)) (draft : Draft Content)
    (key : String) (value : Node) : Except Fault (Draft Content) :=
  match format.slot? key with
  | some slot => do
    let content ← read slot value
    return draft.set slot content
  | none => do
    value.skim
    return draft

def lengthFault (format : RecordFormat Slot) (length : Nat) : Fault :=
  .invalidLength length
    (format.expected ++ " with " ++ toString format.slots.length ++ " elements")

/-- Reads the remaining slots, of which the first is the one at `position`. -/
def readSlots (format : RecordFormat Slot)
    (read : (slot : Slot) → Node → Except Fault (Content slot)) :
    List Slot → Nat → Draft Content → Items → Except Fault (Draft Content)
  | [], _, draft, items => do
    items.requireClose
    return draft
  | slot :: slots, position, draft, .item value rest => do
    let content ← read slot value
    format.readSlots read slots (position + 1) (draft.set slot content) rest
  | slot :: slots, position, draft, .close =>
    if format.mayLack slot then format.readSlots read slots (position + 1) draft .close
    else .error (format.lengthFault position)
  | _ :: _, _, _, .broken cause => .error cause.fault

/-- Reads a record in either spelling. -/
def read (format : RecordFormat Slot)
    (read : (slot : Slot) → Node → Except Fault (Content slot)) :
    Node → Except Fault (Draft Content)
  | .object members => members.fold format.checkKey (format.step read) .empty
  | .list items => format.readSlots read format.slots 0 .empty items
  | node => .error (node.mismatch format.expected)

end RecordFormat

end CdsDeclarations.Json
