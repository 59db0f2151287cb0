import CdsDeclarations.CommandLine.Run

/-!
# The command

Runs the command line on the files of the system.
-/

namespace CdsDeclarations

/-- The fault that an error of the system stands for. -/
def faultOfError (error : IO.Error) : FileFault :=
  match error with
  | .noFileOrDirectory _ _ _ => .notFound
  | .alreadyExists _ _ _ => .alreadyExists
  | .inappropriateType _ code _ => if code = 21 then .isDirectory else .notDirectory
  | _ => .other (toString error)

/-- Runs an action whose errors are faults. -/
def catchFault {α : Type} (action : IO α) : IO (Except FileFault α) := do
  try
    return .ok (← action)
  catch error =>
    return .error (faultOfError error)

/-- The files of the system. -/
def systemFiles : FileSystem IO where
  readText path := do
    match ← catchFault (IO.FS.readBinFile path) with
    | .error fault => return .error fault
    | .ok bytes => return (String.fromUTF8? bytes).elim (.error .notText) .ok
  makeDirectories path :=
    catchFault (if path = "" then return () else IO.FS.createDirAll path)
  writeText path content := catchFault (IO.FS.writeFile path content)

/-- Prints what a run gives, and ends with its status. -/
def runOnSystem (arguments : List String) : IO UInt32 := do
  let requestedFilter ← IO.getEnv "RUST_LOG"
  let outcome ← runArguments systemFiles requestedFilter arguments
  for line in outcome.logLines do
    IO.eprintln line
  IO.print outcome.output
  if outcome.report ≠ "" then
    IO.eprintln outcome.report
  return UInt32.ofNat outcome.status

end CdsDeclarations

def main (arguments : List String) : IO UInt32 :=
  CdsDeclarations.runOnSystem arguments
