import CdsDeclarations.Generation.Output

/-!
# Conversions

From the text of a model to documents, and from a file that holds one.
-/

namespace CdsDeclarations

/-- The documents of a model and what was reported while they were made. -/
structure Conversion where
  documents : List Document
  events : List Event
  deriving DecidableEq, Repr

/-- Converts the text of a model. -/
def convert (config : Config) (text : String) : Except Failure Conversion :=
  match Csn.readSchema text with
  | .ok schema => .ok ⟨schema.documents config, schema.events config⟩
  | .error fault => .error (.model fault)

variable {m : Type → Type} [Monad m]

namespace FileSystem

/-- Reads the model in a file. -/
def readSchema (system : FileSystem m) (path : String) : m (Except ModelFault Schema) := do
  match ← system.readText path with
  | .ok text => return Csn.readSchema text
  | .error fault => return .error (.file fault)

/-- Converts the model in a file. -/
def convertFile (system : FileSystem m) (config : Config) (path : String) :
    m (Except Failure Conversion) := do
  match ← system.readText path with
  | .ok text => return convert config text
  | .error fault => return .error (.file fault)

end FileSystem

end CdsDeclarations
