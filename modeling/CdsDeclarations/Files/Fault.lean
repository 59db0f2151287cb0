/-!
# Faults of files

Why a file could not be read or written, with the system's wording and numbers.
-/

namespace CdsDeclarations

inductive FileFault
  | notFound
  | alreadyExists
  | notDirectory
  | isDirectory
  | notText
  | other (description : String)
  deriving DecidableEq, Repr

/-- The wording of a fault. One that has no case of its own is worded by the system. -/
def FileFault.message : FileFault → String
  | notFound => "No such file or directory (os error 2)"
  | alreadyExists => "File exists (os error 17)"
  | notDirectory => "Not a directory (os error 20)"
  | isDirectory => "Is a directory (os error 21)"
  | notText => "stream did not contain valid UTF-8"
  | other description => description

end CdsDeclarations
