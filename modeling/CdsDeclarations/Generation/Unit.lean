import CdsDeclarations.Generation.FreeName
import CdsDeclarations.Log.Event
import CdsDeclarations.Rendering.Rendered

/-!
# Units

The declarations of a whole model, one unit for each definition that is declared, in the order of
the definitions. An index of all entities may follow as the last unit.
-/

namespace CdsDeclarations

inductive OutputMode
  | single
  | perDefinition
  deriving DecidableEq, Repr

structure Config where
  interfacePrefix : String := ""
  mode : OutputMode := .single
  entityIndex : Bool := false
  deriving DecidableEq, Repr

/-- Declarations that stay together, the name they are known by, and the model names that they refer
to. The index comes from no definition and has no model name. -/
structure DeclarationUnit where
  modelName : Option String
  name : String
  references : List String
  declarations : List Declaration
  deriving DecidableEq, Repr

def Config.context (config : Config) (schema : Schema) : Context where
  interfacePrefix := config.interfacePrefix
  schema := some schema

namespace Schema

/-- The unit of a definition, if it is declared. -/
def unit? (context : Context) (entry : String × Definition) : Option DeclarationUnit :=
  (context.render? entry.1 entry.2).map fun rendered =>
    ⟨some entry.1, rendered.name, rendered.references, rendered.declarations⟩

/-- The units of the definitions. -/
def definitionUnits (schema : Schema) (config : Config) : List DeclarationUnit :=
  schema.definitions.entries.filterMap (unit? (config.context schema))

/-- Whether a definition is listed in the index. -/
def isListed (entry : String × Definition) : Bool :=
  entry.2.kind = .entity

/-- The members of the index: every entity by its own identifier, with its model name as value. -/
def indexMembers (schema : Schema) : EnumMembers :=
  .ofList ((schema.definitions.entries.filter isListed).map fun entry =>
    (Identifier.ofQualified entry.1, .text entry.1))

/-- The name of the index, numbered if a definition is declared under it. -/
def indexName (schema : Schema) (config : Config) : String :=
  freeName id ((schema.definitionUnits config).map (·.name)) entityIndexName

def indexUnit (schema : Schema) (config : Config) : DeclarationUnit where
  modelName := none
  name := schema.indexName config
  references := []
  declarations := [renderEnum (schema.indexName config) none (some schema.indexMembers)]

/-- The units of a model, the index last. -/
def units (schema : Schema) (config : Config) : List DeclarationUnit :=
  schema.definitionUnits config ++ if config.entityIndex then [schema.indexUnit config] else []

/-- The events of a definition, given the names declared before it, the newest first. -/
def renderingEvents (earlier : List (String × String)) (modelName : String)
    (rendered : Rendered) : List Event :=
  .rendering modelName rendered.shape rendered.name ::
    (earlier.lookup rendered.name).toList.map fun previous =>
      .collision previous modelName rendered.name

/-- The events of the definitions one after the other. A name is reported with the newest earlier
definition declared under it. -/
def definitionEvents (context : Context) :
    List (String × String) → List (String × Definition) → List Event
  | _, [] => []
  | earlier, (modelName, definition) :: rest =>
    match context.render? modelName definition with
    | none => .skipping modelName :: definitionEvents context earlier rest
    | some rendered =>
      renderingEvents earlier modelName rendered ++
        definitionEvents context ((rendered.name, modelName) :: earlier) rest

def indexEvents (schema : Schema) (config : Config) : List Event :=
  if config.entityIndex && schema.indexName config ≠ entityIndexName then
    [.indexRenamed (schema.indexName config)]
  else []

/-- The events of making the units. -/
def unitEvents (schema : Schema) (config : Config) : List Event :=
  .generating schema.size schema.namespaceName ::
    definitionEvents (config.context schema) [] schema.definitions.entries ++
    schema.indexEvents config

end Schema

end CdsDeclarations
