import CdsDeclarations.Files.Fault
import CdsDeclarations.Files.Path

/-!
# File trees

Files and directories in memory. Paths are walked name by name, every name but the last has to be
that of a directory, and nothing is created on the way. There are no symbolic links and no hard
links: two places are always two entries.
-/

namespace CdsDeclarations

/-- The content of a file: a text, or bytes that are none. -/
inductive FileContent
  | text (value : String)
  | bytes (value : List UInt8)
  deriving DecidableEq, Repr

inductive FileEntry
  | directory
  | file (content : FileContent)
  deriving DecidableEq, Repr

/-- The names that lead from the top of a tree to an entry. -/
abbrev Place := List String

/-- The entries of a tree below its top, which is a directory itself. A place stands for its own
entry alone, as links are left out. -/
structure FileTree where
  entries : List (Place × FileEntry) := []

namespace FileTree

def empty : FileTree := {}

def get? (tree : FileTree) (place : Place) : Option FileEntry :=
  if place = [] then some .directory else tree.entries.lookup place

def put (tree : FileTree) (place : Place) (entry : FileEntry) : FileTree :=
  ⟨(place, entry) :: tree.entries.filter fun other => other.1 ≠ place⟩

/-- The place one name further. Above the top is the top. -/
def advance (place : Place) (name : String) : Place :=
  if name = Path.parentName then place.dropLast else place ++ [name]

/-- The place of a directory that names lead to. -/
def walk (tree : FileTree) : Place → List String → Except FileFault Place
  | place, [] => .ok place
  | place, name :: rest =>
    match tree.get? (advance place name) with
    | none => .error .notFound
    | some (.file _) => .error .notDirectory
    | some .directory => tree.walk (advance place name) rest

/-- A path taken apart: the names up to the last one, the last one, and how the path ends. -/
structure Route where
  before : List String
  last : String
  ending : Path.Ending

def Route.ofNames? (names : List String) (ending : Path.Ending) : Option Route :=
  names.getLast?.map fun last => ⟨names.dropLast, last, ending⟩

/-- The route of a path; none if it has no names. -/
def Route.ofPath? (path : String) : Option Route :=
  ofNames? (Path.names path) (Path.ending path)

/-- Where a route ends, and what is there. -/
def find (tree : FileTree) (route : Route) : Except FileFault (Place × Option FileEntry) := do
  let directory ← tree.walk [] route.before
  let place := advance directory route.last
  return (place, tree.get? place)

def isDirectoryAt (tree : FileTree) (route : Route) : Bool :=
  match tree.find route with
  | .ok (_, some .directory) => true
  | _ => false

/-- The text of a file. -/
def readText (tree : FileTree) (path : String) : Except FileFault String :=
  if path = "" then .error .notFound
  else
    match Route.ofPath? path with
    | none => .error .isDirectory
    | some route => do
      match (← tree.find route).2 with
      | none => .error .notFound
      | some .directory => .error .isDirectory
      | some (.file content) =>
        if route.ending ≠ .name then .error .notDirectory
        else
          match content with
          | .text value => .ok value
          | .bytes _ => .error .notText

/-- What is wrong with creating an entry on a route: a directory is there already, which is the
fault `present`, or the route ends in a dot and has to be one. -/
def creationFault? (route : Route) (present : FileFault) :
    Option FileEntry → Option FileFault
  | some .directory => some present
  | some (.file _) => if route.ending = .dot then some .notDirectory else none
  | none => if route.ending = .dot then some .notFound else none

/-- Writes a file, in place of one that is there. -/
def writeText (tree : FileTree) (path content : String) : Except FileFault FileTree :=
  if path = "" then .error .notFound
  else
    match Route.ofPath? path with
    | none => .error .isDirectory
    | some route => do
      let (place, found) ← tree.find route
      match creationFault? route .isDirectory found with
      | some fault => .error fault
      | none =>
        if route.ending = .slash then .error .isDirectory
        else return tree.put place (.file (.text content))

/-- Makes one directory where nothing is yet. -/
def makeDirectory (tree : FileTree) (route : Route) : Except FileFault FileTree := do
  let (place, found) ← tree.find route
  match creationFault? route .alreadyExists found with
  | some fault => .error fault
  | none =>
    if found.isSome then .error .alreadyExists
    else return tree.put place .directory

/-- Makes the first directory of a list, and those behind it if they are what it lacks. A directory
that is there already is no fault. -/
def makeFirst (tree : FileTree) : List Route → FileTree × Except FileFault Unit
  | [] => (tree, .ok ())
  | route :: above =>
    match tree.makeDirectory route with
    | .ok made => (made, .ok ())
    | .error .notFound =>
      match tree.makeFirst above with
      | (tree, .error fault) => (tree, .error fault)
      | (tree, .ok ()) =>
        match tree.makeDirectory route with
        | .ok made => (made, .ok ())
        | .error fault => (tree, if tree.isDirectoryAt route then .ok () else .error fault)
    | .error fault => (tree, if tree.isDirectoryAt route then .ok () else .error fault)

/-- The routes of the directories above a place, the nearest first. -/
def routesAbove : Nat → List String → List Route
  | 0, _ => []
  | count + 1, names =>
    (Route.ofNames? names .name).toList ++ routesAbove count names.dropLast

/-- Makes a directory and the missing ones above it. The empty path needs nothing. -/
def makeDirectories (tree : FileTree) (path : String) : FileTree × Except FileFault Unit :=
  match Route.ofPath? path with
  | none => (tree, .ok ())
  | some route => tree.makeFirst (route :: routesAbove route.before.length route.before)

end FileTree

end CdsDeclarations
