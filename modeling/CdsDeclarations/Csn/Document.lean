import CdsDeclarations.Csn.Reader
import CdsDeclarations.Files.Fault

/-!
# Model documents

A text is read as a document first; a document without definitions is not a model.
-/

namespace CdsDeclarations

/-- Why a model could not be had. -/
inductive ModelFault
  | json (fault : Json.Fault)
  | file (fault : FileFault)
  | invalid (problem : String)
  deriving DecidableEq, Repr

namespace ModelFault

def message : ModelFault → String
  | json fault => "JSON parsing error: " ++ fault.message
  | file fault => "IO error: " ++ fault.message
  | invalid problem => "invalid schema structure: " ++ problem

/-- The message and, where another fault lies behind this one, that fault's message. -/
def chain : ModelFault → List String
  | json fault => [(json fault).message, fault.message]
  | file fault => [(file fault).message, fault.message]
  | invalid problem => [(invalid problem).message]

end ModelFault

namespace Csn

/-- The model in a document. Absent definitions and null are the same. -/
def schemaOfDraft (draft : Json.Draft DocumentSlot.Content) : Except ModelFault Schema :=
  match (draft .definitions).join with
  | some definitions =>
    .ok { namespaceName := (draft .namespaceName).join, definitions := definitions }
  | none => .error (.invalid "no definitions object found")

/-- Reads a compiled model from its text. -/
def readSchema (text : String) : Except ModelFault Schema :=
  match Json.readText readDocument text with
  | .ok draft => schemaOfDraft draft
  | .error fault => .error (.json fault)

end Csn

end CdsDeclarations
