import CdsDeclarations.Failure
import CdsDeclarations.Files.FileSystem
import CdsDeclarations.Generation.SourceFile

/-!
# Output

Where documents go. A path that names a source file takes exactly one document; every other path is
a directory that takes each document under its own file name. Whether the documents fit is settled
before anything is written.
-/

namespace CdsDeclarations

/-- A directory to make, and the files to write after it with their contents. -/
structure OutputPlan where
  directory : String
  files : List (String × String)
  deriving DecidableEq, Repr

/-- The first document whose file name, in lower case, an earlier one has. -/
def duplicate? : List String → List Document → Option Document
  | _, [] => none
  | seen, document :: rest =>
    if seen.contains (lowercase document.fileName) then some document
    else duplicate? (lowercase document.fileName :: seen) rest

namespace OutputPlan

def ofSourceFile (documents : List Document) (path : String) : Except Failure OutputPlan :=
  match documents with
  | [document] => .ok ⟨Path.parent path, [(path, document.content)]⟩
  | _ =>
    .error (.output path
      (toString documents.length ++ " documents need a directory, not a single file"))

def ofDirectory (documents : List Document) (path : String) : Except Failure OutputPlan :=
  match duplicate? [] documents with
  | some document =>
    .error (.output (Path.join path document.fileName)
      "more than one document has this file name")
  | none =>
    .ok ⟨path, documents.map fun document =>
      (Path.join path document.fileName, document.content)⟩

/-- The plan for writing documents to a path. -/
def ofDocuments (documents : List Document) (path : String) : Except Failure OutputPlan :=
  if Path.isSourceFile path then ofSourceFile documents path else ofDirectory documents path

end OutputPlan

/-- What came of writing: the paths of the files, or why not all of them were written; and what was
reported on the way. -/
structure WriteReport where
  events : List Event
  result : Except Failure (List String)

namespace WriteReport

def failed (failure : Failure) : WriteReport :=
  ⟨[], .error failure⟩

def none : WriteReport := ⟨[], .ok []⟩

/-- The report of a file that was written, before that of the others. -/
def wrote (path content : String) (rest : WriteReport) : WriteReport :=
  ⟨.wrote path content.utf8ByteSize :: rest.events, rest.result.map (path :: ·)⟩

end WriteReport

variable {m : Type → Type} [Monad m]

namespace FileSystem

/-- Writes files one after the other, up to the first fault. -/
def writeFiles (system : FileSystem m) : List (String × String) → m WriteReport
  | [] => return .none
  | (path, content) :: rest => do
    match ← system.writeText path content with
    | .error fault => return .failed (.file fault)
    | .ok () =>
      let report ← writeFiles system rest
      return WriteReport.wrote path content report

def execute (system : FileSystem m) (plan : OutputPlan) : m WriteReport := do
  match ← system.makeDirectories plan.directory with
  | .error fault => return .failed (.file fault)
  | .ok () => system.writeFiles plan.files

/-- Writes documents to a path. If they do not fit, nothing is written. -/
def writeDocuments (system : FileSystem m) (documents : List Document) (path : String) :
    m WriteReport :=
  match OutputPlan.ofDocuments documents path with
  | .error failure => return .failed failure
  | .ok plan => system.execute plan

end FileSystem

end CdsDeclarations
