import CdsDeclarations.Proofs.Collisions
import CdsDeclarations.Proofs.PlainWords

/-!
# Origins of names

Every declared name is made from a definition, from a field with an enum, or for the index. The
origins come in the order of the declarations.
-/

namespace CdsDeclarations

open Identifier

/-- What the name of a declaration is made from. -/
inductive NameOrigin
  | definition (name : String) (shape : Shape)
  | fieldEnum (owner field : String)
  | index
  deriving DecidableEq

namespace NameOrigin

def declaredName (schema : Schema) (config : Config) : NameOrigin → String
  | definition name shape => (config.context schema).declarationName name shape
  | fieldEnum owner field => ofQualified (ResolvedType.inlineEnumName owner field)
  | index => schema.indexName config

end NameOrigin

namespace Schema

/-- The origins of the enums that are declared for the fields of a definition. -/
def fieldEnumOrigins (entry : String × Definition) : List NameOrigin :=
  if Shape.of? entry.2 = some .interface then
    (entry.2.fields.filter (·.2.enumCarrier?.isSome)).map fun field => .fieldEnum entry.1 field.1
  else []

/-- The origins of all declared names, in the order of the declarations. -/
def nameOrigins (schema : Schema) (config : Config) : List NameOrigin :=
  (schema.definitions.entries.flatMap fun entry =>
    fieldEnumOrigins entry ++ (Shape.of? entry.2).toList.map (.definition entry.1)) ++
  if config.entityIndex then [.index] else []

section Names

variable {schema : Schema} {config : Config}

lemma map_declaredName_fieldEnumOrigins (schema : Schema) (config : Config)
    (entry : String × Definition) :
    (fieldEnumOrigins entry).map (NameOrigin.declaredName schema config) =
      inlineEnumNames entry := by
  rw [fieldEnumOrigins, inlineEnumNames]
  split
  · rw [List.map_map]
    rfl
  · rfl

lemma map_name_definitionUnits (config : Config) (entries : List (String × Definition)) :
    ((entries.filterMap (unit? (config.context schema))).flatMap (·.declarations)).map
        Declaration.name =
      (entries.flatMap fun entry => fieldEnumOrigins entry ++
        (Shape.of? entry.2).toList.map (.definition entry.1)).map
          (NameOrigin.declaredName schema config) := by
  induction entries with
  | nil => rfl
  | cons entry rest ih =>
    rw [List.filterMap_cons, List.flatMap_cons, List.map_append, List.map_append,
      map_declaredName_fieldEnumOrigins, ← ih]
    cases hshape : Shape.of? entry.2 with
    | none =>
      have hunit := unit?_eq_none (config.context schema) hshape
      rw [hunit, inlineEnumNames_of_not_declared hunit]
      rfl
    | some shape =>
      have hunit := unit?_eq_some (config.context schema) hshape
      rw [hunit, List.flatMap_cons, List.map_append, map_name_declarations hunit]
      rfl

lemma map_name_units (schema : Schema) (config : Config) :
    ((schema.units config).flatMap (·.declarations)).map Declaration.name =
      (schema.nameOrigins config).map (NameOrigin.declaredName schema config) := by
  rw [units, definitionUnits, List.flatMap_append, List.map_append, map_name_definitionUnits,
    nameOrigins, List.map_append]
  split
  · have hindex : (schema.indexUnit config).declarations.map Declaration.name =
        [schema.indexName config] := congrArg ([·]) (ofQualified_indexName schema config)
    rw [List.flatMap_singleton, hindex]
    rfl
  · rfl

/-- The files hold the declarations of the units, in the order of the units. -/
lemma declarations_sourceFiles (schema : Schema) (config : Config) :
    (schema.sourceFiles config).flatMap (·.declarations) =
      (schema.units config).flatMap (·.declarations) := by
  rw [sourceFiles]
  cases config.mode with
  | single => exact List.flatMap_singleton _ _
  | perDefinition =>
    rw [← map_unit_placedUnits, List.flatMap_map, List.flatMap_map]
    rfl

lemma map_name_sourceFiles (schema : Schema) (config : Config) :
    (schema.sourceFiles config).flatMap (fun file => file.declarations.map Declaration.name) =
      (schema.nameOrigins config).map (NameOrigin.declaredName schema config) := by
  rw [← map_name_units, ← declarations_sourceFiles, List.map_flatMap]

end Names

end Schema

/-- The index has no plain word but its own as its name. -/
lemma Schema.indexName_ne_of_plainWord {word : String} (hword : isPlainWord word.toList)
    (hne : word ≠ entityIndexName) (schema : Schema) (config : Config) :
    schema.indexName config ≠ word := by
  rw [indexName]
  rcases freeName_cases (tellsNumbers_id entityIndexName) with ⟨-, hfree⟩ | ⟨-, k, -, -, hfree, -⟩
  · rw [hfree]
    exact hne.symm
  · rw [hfree]
    rintro rfl
    refine underscore_not_mem_plainWord hword ?_
    rw [toList_numbered]
    exact List.mem_append_right _ List.mem_cons_self

end CdsDeclarations
