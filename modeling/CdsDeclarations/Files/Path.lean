/-!
# Paths

A path is a text of names between slashes. Empty pieces and single dots stand for nothing, except
that a path which ends in one of them can only mean a directory.
-/

namespace CdsDeclarations.Path

/-- The pieces between slashes. -/
def pieces : List Char → List (List Char)
  | [] => [[]]
  | c :: rest =>
    if c = '/' then [] :: pieces rest
    else
      match pieces rest with
      | [] => [[c]]
      | piece :: others => (c :: piece) :: others

def isAbsolute (path : String) : Bool :=
  ['/'].isPrefixOf path.toList

/-- The step to the directory above. -/
def parentName : String := ".."

/-- The names on a path. -/
def names (path : String) : List String :=
  ((pieces path.toList).filter fun piece => piece ≠ [] && piece ≠ ['.']).map String.ofList

/-- How a path ends: with a name, with a slash, or with a dot that stands for the place itself. -/
inductive Ending
  | name
  | slash
  | dot
  deriving DecidableEq, Repr

def ending (path : String) : Ending :=
  match ((pieces path.toList).reverse.dropWhile (· = [])).head? with
  | some ['.'] => .dot
  | _ => if ['/'].isSuffixOf path.toList then .slash else .name

/-- The path without its last name. -/
def parent (path : String) : String :=
  (if isAbsolute path then "/" else "") ++ "/".intercalate (names path).dropLast

/-- The path of a name below a directory. An absolute name stays as it is. -/
def join (directory name : String) : String :=
  if isAbsolute name || directory = "" then name
  else if ['/'].isSuffixOf directory.toList then directory ++ name
  else directory ++ "/" ++ name

/-- What the names of source files end in. -/
def sourceSuffix : List Char := ['.', 't', 's']

/-- Whether a path names a source file: something stands before the suffix. -/
def isSourceFile (path : String) : Bool :=
  (names path).getLast?.any fun name =>
    sourceSuffix.isSuffixOf name.toList && sourceSuffix.length < name.toList.length

end CdsDeclarations.Path
