import CdsDeclarations.Csn.Document

/-!
# Failures

Why a conversion ends without a result: the model cannot be read, a file cannot be reached, or the
documents do not fit where they should go.
-/

namespace CdsDeclarations

inductive Failure
  | model (fault : ModelFault)
  | file (fault : FileFault)
  | output (path problem : String)
  deriving DecidableEq, Repr

namespace Failure

def message : Failure → String
  | model fault => "schema parse error: " ++ fault.message
  | file fault => "IO error: " ++ fault.message
  | output path problem => "cannot write output to '" ++ path ++ "': " ++ problem

/-- The message, and the messages of the faults that lie behind it. -/
def chain : Failure → List String
  | model fault => (model fault).message :: fault.chain
  | file fault => [(file fault).message, fault.message]
  | output path problem => [(output path problem).message]

end Failure

end CdsDeclarations
