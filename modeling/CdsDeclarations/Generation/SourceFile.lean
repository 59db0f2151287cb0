import CdsDeclarations.Generation.Unit

/-!
# Source files

The files that a model is declared in: one file with everything, or one file for each unit. Such a
file begins with the imports of the names that it refers to. File names are distinct even where the
case of letters does not count.
-/

namespace CdsDeclarations

structure SourceFile where
  fileName : String
  imports : List TypeImport
  declarations : List Declaration
  deriving DecidableEq, Repr

/-- A file name with its content. -/
structure Document where
  fileName : String
  content : String
  deriving DecidableEq, Repr

/-- The imports as one block, if there are any. -/
def importBlock (imports : List TypeImport) : List String :=
  if imports.isEmpty then [] else ["\n".intercalate (imports.map TypeImport.line)]

namespace SourceFile

/-- The blocks of a file: its imports, then its declarations. -/
def blocks (file : SourceFile) : List String :=
  importBlock file.imports ++ file.declarations.map Declaration.text

/-- The blocks with a blank line between one and the next, and a line end. -/
def content (file : SourceFile) : String :=
  blocksText file.blocks ++ "\n"

def document (file : SourceFile) : Document :=
  ⟨file.fileName, file.content⟩

end SourceFile

/-- The name of the file that holds everything. -/
def singleFileName : String := "index.ts"

/-- What the name of a written file ends in. -/
def fileSuffix : String := ".ts"

/-- A unit with the stem of its file. -/
structure PlacedUnit where
  unit : DeclarationUnit
  stem : String
  deriving DecidableEq, Repr

/-- Gives every unit the first free stem, where stems that differ in case alone are the same. -/
def placeUnits : List String → List DeclarationUnit → List PlacedUnit
  | _, [] => []
  | taken, unit :: rest =>
    let stem := freeName lowercase taken unit.name
    ⟨unit, stem⟩ :: placeUnits (lowercase stem :: taken) rest

namespace PlacedUnit

/-- The placed unit of a model name. -/
def find? (units : List PlacedUnit) (modelName : String) : Option PlacedUnit :=
  units.find? fun placed => placed.unit.modelName = some modelName

/-- Whether a unit needs no import to use the name of another one: they share a file or a name. -/
def knows (placed other : PlacedUnit) : Bool :=
  other.stem = placed.stem || other.unit.name = placed.unit.name

/-- The imports for a list of references. No name is imported twice. -/
def importsOf (placed : PlacedUnit) (units : List PlacedUnit) :
    List String → List String → List TypeImport
  | _, [] => []
  | imported, reference :: rest =>
    match find? units reference with
    | none => importsOf placed units imported rest
    | some other =>
      if placed.knows other || imported.contains other.unit.name then
        importsOf placed units imported rest
      else
        ⟨other.unit.name, other.stem⟩ ::
          importsOf placed units (other.unit.name :: imported) rest

def sourceFile (units : List PlacedUnit) (placed : PlacedUnit) : SourceFile where
  fileName := placed.stem ++ fileSuffix
  imports := placed.importsOf units [] placed.unit.references
  declarations := placed.unit.declarations

/-- A unit whose file is not named like it is reported by its model name. -/
def events (placed : PlacedUnit) : List Event :=
  if placed.stem = placed.unit.name then []
  else [.fileRenamed (placed.unit.modelName.getD placed.unit.name) placed.stem placed.unit.name]

end PlacedUnit

namespace Schema

/-- The one file with all declarations. -/
def singleFile (schema : Schema) (config : Config) : SourceFile where
  fileName := singleFileName
  imports := []
  declarations := (schema.units config).flatMap (·.declarations)

def placedUnits (schema : Schema) (config : Config) : List PlacedUnit :=
  placeUnits [] (schema.units config)

/-- The source files of a model. -/
def sourceFiles (schema : Schema) (config : Config) : List SourceFile :=
  match config.mode with
  | .single => [schema.singleFile config]
  | .perDefinition =>
    let placed := schema.placedUnits config
    placed.map (PlacedUnit.sourceFile placed)

def documents (schema : Schema) (config : Config) : List Document :=
  (schema.sourceFiles config).map SourceFile.document

/-- The events of making the source files. -/
def events (schema : Schema) (config : Config) : List Event :=
  schema.unitEvents config ++
    match config.mode with
    | .single => []
    | .perDefinition => (schema.placedUnits config).flatMap PlacedUnit.events

end Schema

end CdsDeclarations
