import CdsDeclarations.Proofs.NameOrigins
import CdsDeclarations.Proofs.ReferenceNames
import Mathlib.Data.List.Forall2

/-!
# Captured names

Built-in types are written by their own names, and no name is kept from the definitions of a model.
A file binds the name of a built-in type exactly if a definition in it, or one that is referred to
from it, or the enum of a field in it spells this name.
-/

namespace CdsDeclarations

open Identifier

/-- An origin spells a word if nothing has to be changed about the name that is made from it. -/
def NameOrigin.Spells (config : Config) (word : String) : NameOrigin → Prop
  | definition name shape =>
    (if shape = .interface then config.interfacePrefix else "") ++ localPart name = word
  | fieldEnum owner field =>
    localPart owner = "" ∧ capitalize (sanitize field) = word ∨ field = "" ∧ localPart owner = word
  | index => False

instance (config : Config) (word : String) :
    (origin : NameOrigin) → Decidable (origin.Spells config word)
  | .definition _ _ => inferInstanceAs (Decidable (_ = _))
  | .fieldEnum _ _ => inferInstanceAs (Decidable (_ ∨ _))
  | .index => inferInstanceAs (Decidable False)

/-- The model names that are collected for a definition. -/
def Definition.collectedReferences (definition : Definition) : List String :=
  match Shape.of? definition with
  | some .interface => definition.fieldReferences
  | some .typeAlias => definition.underlyingReferences
  | _ => []

lemma declaredName_eq_iff {word : String} (hword : isPlainWord word.toList)
    (hne : word ≠ entityIndexName) (schema : Schema) (config : Config) (origin : NameOrigin) :
    origin.declaredName schema config = word ↔ origin.Spells config word := by
  cases origin with
  | definition name shape =>
    rw [NameOrigin.declaredName, Context.declarationName_eq]
    exact append_ofQualified_eq_iff hword _ name
  | fieldEnum owner field => exact ofQualified_inlineEnumName_eq_iff hword owner field
  | index => exact iff_of_false (schema.indexName_ne_of_plainWord hword hne config) id

lemma isPlainWord_builtinName (builtin : BuiltinType) : isPlainWord builtin.name.toList := by
  cases builtin <;> decide

lemma builtinName_ne_entityIndexName (builtin : BuiltinType) : builtin.name ≠ entityIndexName := by
  cases builtin <;> decide

namespace Schema

/-- The types that the declarations of a definition are written with. -/
def typesOf (entry : String × Definition) : List ResolvedType :=
  (Shape.of? entry.2).elim [] (entry.2.writtenTypes entry.1)

def declaredEntries (schema : Schema) : List (String × Definition) :=
  schema.definitions.entries.filter fun entry => (Shape.of? entry.2).isSome

/-- The definitions whose declarations each of the files holds. The file of the index has none. -/
def fileOwners (schema : Schema) (config : Config) : List (List (String × Definition)) :=
  match config.mode with
  | .single => [schema.declaredEntries]
  | .perDefinition =>
    schema.declaredEntries.map ([·]) ++ if config.entityIndex then [[]] else []

/-- The origins of the names that these definitions bring into a file: the enums of their fields,
the definitions themselves, and those that they refer to. -/
def boundOrigins (schema : Schema) (owners : List (String × Definition)) : List NameOrigin :=
  owners.flatMap fieldEnumOrigins ++
    (schema.definitions.entries.filter fun entry =>
      entry ∈ owners ∨ ∃ owner ∈ owners, entry.1 ∈ owner.2.collectedReferences).flatMap
        fun entry => (Shape.of? entry.2).toList.map (.definition entry.1)

section Origins

variable {schema : Schema} {config : Config} {owners : List (String × Definition)}

lemma mem_boundOrigins_definition_iff {name : String} {shape : Shape} :
    .definition name shape ∈ schema.boundOrigins owners ↔
      ∃ entry ∈ schema.definitions.entries,
        (entry ∈ owners ∨ ∃ owner ∈ owners, entry.1 ∈ owner.2.collectedReferences) ∧
        entry.1 = name ∧ Shape.of? entry.2 = some shape := by
  have hnone : .definition name shape ∉ owners.flatMap fieldEnumOrigins := by
    simp [fieldEnumOrigins]
  rw [boundOrigins, List.mem_append, or_iff_right hnone]
  simp [and_assoc]

lemma mem_boundOrigins_fieldEnum_iff {owner field : String} :
    .fieldEnum owner field ∈ schema.boundOrigins owners ↔
      ∃ entry ∈ owners, .fieldEnum owner field ∈ fieldEnumOrigins entry := by
  rw [boundOrigins, List.mem_append, List.mem_flatMap]
  simp

lemma index_not_mem_boundOrigins : .index ∉ schema.boundOrigins owners := by
  simp [boundOrigins, fieldEnumOrigins]

lemma shape_of_mem_fieldEnumOrigins {entry : String × Definition} {origin : NameOrigin}
    (h : origin ∈ fieldEnumOrigins entry) : Shape.of? entry.2 = some .interface := by
  rw [fieldEnumOrigins] at h
  split at h
  · assumption
  · cases h

lemma mem_declaredEntries_iff {entry : String × Definition} :
    entry ∈ schema.declaredEntries ↔
      entry ∈ schema.definitions.entries ∧ ∃ shape, Shape.of? entry.2 = some shape := by
  rw [declaredEntries, List.mem_filter, Option.isSome_iff_exists]

/-- The one file binds what its definitions bring, and the index. -/
lemma mem_nameOrigins_iff {origin : NameOrigin} (hindex : origin ≠ .index) :
    origin ∈ schema.nameOrigins config ↔ origin ∈ schema.boundOrigins schema.declaredEntries := by
  have hlast : origin ∉ (if config.entityIndex then [NameOrigin.index] else []) := by
    split
    · exact fun hmem => hindex (List.mem_singleton.mp hmem)
    · exact List.not_mem_nil
  rw [nameOrigins, List.mem_append, or_iff_left hlast, List.mem_flatMap]
  simp only [List.mem_append]
  cases origin with
  | definition name shape =>
    rw [mem_boundOrigins_definition_iff]
    constructor
    · rintro ⟨entry, hentry, henum | hshape⟩
      · simp [fieldEnumOrigins] at henum
      · obtain ⟨found, hfound, hsame⟩ := List.mem_map.mp hshape
        obtain ⟨rfl, rfl⟩ := NameOrigin.definition.inj hsame
        have hof := Option.mem_toList.mp hfound
        exact ⟨entry, hentry, Or.inl (mem_declaredEntries_iff.mpr ⟨hentry, found, hof⟩), rfl, hof⟩
    · rintro ⟨entry, hentry, -, rfl, hshape⟩
      refine ⟨entry, hentry, Or.inr (List.mem_map_of_mem (Option.mem_toList.mpr hshape))⟩
  | fieldEnum owner field =>
    rw [mem_boundOrigins_fieldEnum_iff]
    constructor
    · rintro ⟨entry, hentry, henum | hshape⟩
      · exact ⟨entry, mem_declaredEntries_iff.mpr ⟨hentry, _, shape_of_mem_fieldEnumOrigins henum⟩,
          henum⟩
      · simp at hshape
    · rintro ⟨entry, hentry, henum⟩
      exact ⟨entry, (mem_declaredEntries_iff.mp hentry).1, Or.inl henum⟩
  | index => exact absurd rfl hindex

end Origins

section Units

variable {schema : Schema} {config : Config} {context : Context} {entry : String × Definition}
  {unit : DeclarationUnit}

lemma exists_shape_of_unit? (h : unit? context entry = some unit) :
    ∃ shape, Shape.of? entry.2 = some shape ∧
      unit.name = context.declarationName entry.1 shape := by
  obtain ⟨rendered, hrendered, rfl⟩ := Option.map_eq_some_iff.mp h
  obtain ⟨shape, hshape, rfl⟩ := Option.map_eq_some_iff.mp hrendered
  exact ⟨shape, hshape, rfl⟩

lemma references_of_unit? (h : unit? context entry = some unit) :
    unit.references = entry.2.collectedReferences := by
  obtain ⟨shape, hshape, -⟩ := exists_shape_of_unit? h
  rw [unit?_eq_some context hshape] at h
  obtain rfl := Option.some.inj h
  rw [Definition.collectedReferences, hshape]
  cases shape with
  | interface => rfl
  | enumeration => rfl
  | typeAlias => rfl

lemma types_of_unit? (h : unit? context entry = some unit) :
    unit.declarations.flatMap Declaration.types = (typesOf entry).map context.typeExpression := by
  obtain ⟨shape, hshape, -⟩ := exists_shape_of_unit? h
  rw [unit?_eq_some context hshape] at h
  obtain rfl := Option.some.inj h
  rw [typesOf, hshape]
  exact context.types_renderAs entry.1 entry.2 shape

lemma exists_placed_of_shape (config : Config) (hentry : entry ∈ schema.definitions.entries)
    {shape : Shape} (hshape : Shape.of? entry.2 = some shape) :
    ∃ placed ∈ schema.placedUnits config,
      unit? (config.context schema) entry = some placed.unit := by
  have hunit := unit?_eq_some (config.context schema) hshape
  have hmem := List.mem_append_left (if config.entityIndex then [schema.indexUnit config] else [])
    (List.mem_filterMap.mpr ⟨entry, hentry, hunit⟩)
  change _ ∈ schema.units config at hmem
  rw [← map_unit_placedUnits] at hmem
  obtain ⟨placed, hplaced, hsame⟩ := List.mem_map.mp hmem
  exact ⟨placed, hplaced, hsame ▸ hunit⟩

section Imports

variable {placed : PlacedUnit} (hplaced : placed ∈ schema.placedUnits config)
  (hunit : unit? (config.context schema) entry = some placed.unit)
include hunit

/-- A line is imported for a definition that the file's own definition refers to. -/
lemma exists_origin_of_mem_importsOf {line : TypeImport}
    (hline : line ∈ placed.importsOf (schema.placedUnits config) [] placed.unit.references) :
    ∃ origin ∈ schema.boundOrigins [entry], origin.declaredName schema config = line.name := by
  obtain ⟨reference, hreference, other, hfind, -, -, rfl⟩ :=
    PlacedUnit.exists_reference_of_mem_importsOf hline
  obtain ⟨hother, hmodel⟩ := find?_eq_some_iff.mp hfind
  rcases mem_units_cases (unit_mem_units hother) with ⟨found, hfound, hotherUnit⟩ | hindex
  · obtain ⟨shape, hshape, hname⟩ := exists_shape_of_unit? hotherUnit
    have hkey : found.1 = reference :=
      Option.some.inj ((modelName_of_unit? hotherUnit).symm.trans hmodel)
    refine ⟨.definition found.1 shape, mem_boundOrigins_definition_iff.mpr ⟨found, hfound,
      Or.inr ⟨entry, List.mem_singleton_self entry, ?_⟩, rfl, hshape⟩, hname.symm⟩
    rw [hkey, ← references_of_unit? hunit]
    exact hreference
  · rw [hindex] at hmodel
    cases hmodel

include hplaced

/-- The file imports what its definition refers to, unless it has the name of the definition. -/
lemma name_mem_imports_or_eq {other : PlacedUnit} (hother : other ∈ schema.placedUnits config)
    {found : String × Definition}
    (hotherUnit : unit? (config.context schema) found = some other.unit)
    (hreach : found = entry ∨ found.1 ∈ entry.2.collectedReferences) :
    other.unit.name ∈ (placed.importsOf (schema.placedUnits config) []
      placed.unit.references).map (·.name) ∨ other.unit.name = placed.unit.name := by
  cases hknows : placed.knows other with
  | true =>
    -- Units that share a file or a name with this one need no import.
    rw [PlacedUnit.knows, Bool.or_eq_true, decide_eq_true_eq, decide_eq_true_eq] at hknows
    rcases hknows with hstem | hname
    · rw [eq_of_stem_eq hplaced hother hstem]
      exact Or.inr rfl
    · exact Or.inr hname
  | false =>
    rcases hreach with rfl | hreference
    · rw [hunit] at hotherUnit
      rw [Option.some.inj hotherUnit]
      exact Or.inr rfl
    · rw [← references_of_unit? hunit] at hreference
      have hfind := find?_eq_some_iff.mpr ⟨hother, modelName_of_unit? hotherUnit⟩
      exact Or.inl (PlacedUnit.name_mem_importsOf hreference hfind hknows List.not_mem_nil)

/-- The file of a definition binds the names that its definition brings. -/
lemma mem_boundNames_sourceFile_iff (hentry : entry ∈ schema.definitions.entries) (name : String) :
    name ∈ (placed.sourceFile (schema.placedUnits config)).boundNames ↔
      ∃ origin ∈ schema.boundOrigins [entry], origin.declaredName schema config = name := by
  obtain ⟨shape, hshape, hname⟩ := exists_shape_of_unit? hunit
  have hown : .definition entry.1 shape ∈ schema.boundOrigins [entry] :=
    mem_boundOrigins_definition_iff.mpr
      ⟨entry, hentry, Or.inl (List.mem_singleton_self entry), rfl, hshape⟩
  change name ∈ (placed.importsOf (schema.placedUnits config) [] placed.unit.references).map
    (·.name) ++ placed.unit.declarations.map Declaration.name ↔ _
  rw [map_name_declarations hunit, ← map_declaredName_fieldEnumOrigins schema config,
    List.mem_append, List.mem_append, List.mem_singleton]
  constructor
  · rintro (himported | hfield | rfl)
    · obtain ⟨line, hline, rfl⟩ := List.mem_map.mp himported
      exact exists_origin_of_mem_importsOf hunit hline
    · obtain ⟨origin, horigin, rfl⟩ := List.mem_map.mp hfield
      refine ⟨origin, List.mem_append_left _ ?_, rfl⟩
      rw [List.flatMap_singleton]
      exact horigin
    · exact ⟨_, hown, hname.symm⟩
  · rintro ⟨origin, horigin, rfl⟩
    cases origin with
    | definition modelName otherShape =>
      obtain ⟨found, hfound, hreach, rfl, hotherShape⟩ := mem_boundOrigins_definition_iff.mp horigin
      obtain ⟨other, hother, hotherUnit⟩ := exists_placed_of_shape config hfound hotherShape
      obtain ⟨_, hsame, hotherName⟩ := exists_shape_of_unit? hotherUnit
      obtain rfl := Option.some.inj (hotherShape.symm.trans hsame)
      have hspelled : NameOrigin.declaredName schema config (.definition found.1 otherShape) =
          other.unit.name := hotherName.symm
      simp only [List.mem_singleton, exists_eq_left] at hreach
      rw [hspelled]
      exact (name_mem_imports_or_eq hplaced hunit hother hotherUnit hreach).imp_right Or.inr
    | fieldEnum owner field =>
      obtain ⟨found, hfound, henum⟩ := mem_boundOrigins_fieldEnum_iff.mp horigin
      rw [List.mem_singleton.mp hfound] at henum
      exact Or.inr (Or.inl (List.mem_map_of_mem henum))
    | index => exact absurd horigin index_not_mem_boundOrigins

end Imports

end Units

section Files

variable {schema : Schema} {config : Config}

lemma mem_boundNames_singleFile_iff {word : String} (hword : isPlainWord word.toList)
    (hne : word ≠ entityIndexName) :
    word ∈ (schema.singleFile config).boundNames ↔
      ∃ origin ∈ schema.boundOrigins schema.declaredEntries, origin.Spells config word := by
  have hbound : (schema.singleFile config).boundNames =
      (schema.nameOrigins config).map (NameOrigin.declaredName schema config) := by
    rw [← map_name_units]
    rfl
  rw [hbound, List.mem_map]
  constructor
  · rintro ⟨origin, horigin, hname⟩
    have hspells := (declaredName_eq_iff hword hne schema config origin).mp hname
    have hindex : origin ≠ .index := by
      rintro rfl
      exact hspells
    exact ⟨origin, (mem_nameOrigins_iff hindex).mp horigin, hspells⟩
  · rintro ⟨origin, horigin, hspells⟩
    have hindex : origin ≠ .index := by
      rintro rfl
      exact hspells
    exact ⟨origin, (mem_nameOrigins_iff hindex).mpr horigin,
      (declaredName_eq_iff hword hne schema config origin).mpr hspells⟩

/-- The definition that a unit declares, alone in a list; none for the index. -/
def Owns (schema : Schema) (config : Config) (unit : DeclarationUnit)
    (owners : List (String × Definition)) : Prop :=
  (∃ entry ∈ schema.definitions.entries,
    owners = [entry] ∧ unit? (config.context schema) entry = some unit) ∨
  owners = [] ∧ unit = schema.indexUnit config

lemma owns_filterMap {entries : List (String × Definition)}
    (hentries : entries ⊆ schema.definitions.entries) :
    List.Forall₂ (schema.Owns config) (entries.filterMap (unit? (config.context schema)))
      ((entries.filter fun entry => (Shape.of? entry.2).isSome).map ([·])) := by
  induction entries with
  | nil => exact .nil
  | cons entry rest ih =>
    obtain ⟨hentry, hrest⟩ := List.cons_subset.mp hentries
    rw [List.filterMap_cons, List.filter_cons]
    cases hshape : Shape.of? entry.2 with
    | none =>
      rw [unit?_eq_none _ hshape]
      exact ih hrest
    | some shape =>
      have hunit := unit?_eq_some (config.context schema) hshape
      rw [hunit, Option.isSome_some, if_pos rfl]
      exact .cons (Or.inl ⟨entry, hentry, rfl, hunit⟩) (ih hrest)

lemma owns_units (schema : Schema) (config : Config) :
    List.Forall₂ (schema.Owns config) (schema.units config)
      (schema.declaredEntries.map ([·]) ++ if config.entityIndex then [[]] else []) := by
  refine List.rel_append (owns_filterMap (List.Subset.refl _)) ?_
  split
  · exact .cons (Or.inr ⟨rfl, rfl⟩) .nil
  · exact .nil

lemma types_of_owns {unit : DeclarationUnit} {owners : List (String × Definition)}
    (h : schema.Owns config unit owners) :
    unit.declarations.flatMap Declaration.types =
      (owners.flatMap typesOf).map (config.context schema).typeExpression := by
  rcases h with ⟨entry, -, rfl, hunit⟩ | ⟨rfl, rfl⟩
  · rw [List.flatMap_singleton]
    exact types_of_unit? hunit
  · rfl

lemma types_of_forall₂_owns {units : List DeclarationUnit}
    {owners : List (List (String × Definition))}
    (h : List.Forall₂ (schema.Owns config) units owners) :
    (units.flatMap (·.declarations)).flatMap Declaration.types =
      (owners.flatten.flatMap typesOf).map (config.context schema).typeExpression := by
  induction h with
  | nil => rfl
  | cons hfirst _ ih =>
    rw [List.flatMap_cons, List.flatMap_append, types_of_owns hfirst, ih, List.flatten_cons,
      List.flatMap_append, List.map_append]

lemma types_singleFile (schema : Schema) (config : Config) :
    (schema.singleFile config).declarations.flatMap Declaration.types =
      (schema.declaredEntries.flatMap typesOf).map (config.context schema).typeExpression := by
  have hflat :
      (schema.declaredEntries.map ([·]) ++ if config.entityIndex then [[]] else []).flatten =
        schema.declaredEntries := by
    rw [List.flatten_append, ← List.flatMap_def, List.flatMap_singleton']
    split
    · exact List.append_nil _
    · exact List.append_nil _
  rw [singleFile, types_of_forall₂_owns (schema.owns_units config), hflat]

end Files

/-- What is written in a file for the types of its definitions, and when a built-in type among them
is written by a name that the file binds. -/
structure WritesBuiltins (schema : Schema) (config : Config) (file : SourceFile)
    (owners : List (String × Definition)) : Prop where
  types : file.declarations.flatMap Declaration.types =
    (owners.flatMap typesOf).map (config.context schema).typeExpression
  spelled : ∀ type ∈ owners.flatMap typesOf, ∀ builtin, type.head = .builtin builtin →
    ((config.context schema).typeExpression type).name = builtin.name
  captured : ∀ type ∈ owners.flatMap typesOf, ∀ builtin, type.head = .builtin builtin →
    (builtin.name ∈ file.boundNames ↔
      ∃ origin ∈ schema.boundOrigins owners, origin.Spells config builtin.name)

/-- A built-in type in a file has its own name. The file binds this name for something else exactly
if a definition or the enum of a field spells it. The index never does. -/
theorem builtin_types_captured_iff (schema : Schema) (config : Config) :
    List.Forall₂ (schema.WritesBuiltins config) (schema.sourceFiles config)
      (schema.fileOwners config) := by
  have hspelled : ∀ (type : ResolvedType) builtin, type.head = .builtin builtin →
      ((config.context schema).typeExpression type).name = builtin.name := by
    intro type builtin hhead
    rw [Context.typeExpression, hhead]
    rfl
  rw [sourceFiles, fileOwners]
  cases config.mode with
  | single =>
    refine .cons ⟨types_singleFile schema config, fun type _ => hspelled type, ?_⟩ .nil
    intro type _ builtin _
    exact mem_boundNames_singleFile_iff (isPlainWord_builtinName builtin)
      (builtinName_ne_entityIndexName builtin)
  | perDefinition =>
    have howns := schema.owns_units config
    rw [← map_unit_placedUnits, List.forall₂_map_left_iff] at howns
    have hplaced := (List.forall₂_and_left _ _).mpr
      ⟨fun placed hplaced => hplaced, howns⟩
    refine List.forall₂_map_left_iff.mpr (hplaced.imp fun placed owners hboth => ?_)
    obtain ⟨hmem, howned⟩ := hboth
    refine ⟨types_of_owns howned, fun type _ => hspelled type, fun type htype builtin _ => ?_⟩
    rcases howned with ⟨entry, hentry, rfl, hunit⟩ | ⟨rfl, -⟩
    · rw [mem_boundNames_sourceFile_iff hmem hunit hentry]
      refine exists_congr fun origin => and_congr_right fun _ => ?_
      exact declaredName_eq_iff (isPlainWord_builtinName builtin)
        (builtinName_ne_entityIndexName builtin) schema config origin
    · cases htype

theorem date_of_books_free :
    let books := Definition.entity (.ofList [("published", .ofType "cds.Date")])
    let schema := Schema.ofDefinitions (.ofList [("my.Books", books), ("Dates", .ofTag "cds.Date")])
    let config : Config := { interfacePrefix := "I", entityIndex := true }
    ⟨.builtin .date, 0⟩ ∈ schema.declaredEntries.flatMap typesOf ∧
      ((config.context schema).typeExpression ⟨.builtin .date, 0⟩).name = "Date" ∧
      "Date" ∉ (schema.singleFile config).boundNames := by
  intro books schema config
  have htype : ⟨.builtin .date, 0⟩ ∈ schema.declaredEntries.flatMap typesOf := by decide +kernel
  have hfree : ¬∃ origin ∈ schema.boundOrigins schema.declaredEntries,
      origin.Spells config "Date" := by
    decide +kernel
  obtain ⟨hfile, -⟩ := List.forall₂_cons.mp (builtin_types_captured_iff schema config)
  exact ⟨htype, hfile.spelled _ htype .date rfl,
    fun hmem => hfree ((hfile.captured _ htype .date rfl).mp hmem)⟩

/-- An alias named like its built-in type refers to itself, and a field of an entity named like one
has the entity as its type. -/
theorem alias_captures_date :
    let dates := Schema.ofDefinitions (.ofList [("Date", .ofTag "cds.Date")])
    let strings := Schema.ofDefinitions
      (.ofList [("my.string", .entity (.ofList [("name", .ofType "cds.String")]))])
    (dates.documents {} = [⟨"index.ts", "export type Date = Date;\n"⟩] ∧
      ⟨.builtin .date, 0⟩ ∈ dates.declaredEntries.flatMap typesOf ∧
      BuiltinType.date.name ∈ (dates.singleFile {}).boundNames) ∧
    strings.documents {} =
      [⟨"index.ts", "export interface string \x7b\n    name: string;\n\x7d\n"⟩] ∧
      ⟨.builtin .string, 0⟩ ∈ strings.declaredEntries.flatMap typesOf ∧
      BuiltinType.string.name ∈ (strings.singleFile {}).boundNames := by
  intro dates strings
  refine ⟨⟨?_, ?_, ?_⟩, ?_, ?_, ?_⟩
  · decide +kernel
  · decide +kernel
  · decide +kernel
  · decide +kernel
  · decide +kernel
  · decide +kernel

end Schema

end CdsDeclarations
