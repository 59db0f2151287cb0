import CdsDeclarations.Proofs.Imports
import Mathlib.Data.List.Perm.Basic

/-!
# Name collisions

A model whose units are made without a warning gives the definitions, the index and the imports of
a file distinct names. The enums of fields are not watched, so that a file has distinct names
exactly if these enums are apart from each other and from everything else in it.
-/

namespace CdsDeclarations

open Identifier

/-- The names that a file binds: those that it imports and those that it declares. -/
def SourceFile.boundNames (file : SourceFile) : List String :=
  file.imports.map (·.name) ++ file.declarations.map Declaration.name

/-- Names that are distinct and none of which is among the others. -/
structure NamesApart (names others : List String) : Prop where
  nodup : names.Nodup
  apart : ∀ name ∈ names, name ∉ others

lemma nodup_iff_namesApart {bound names others : List String}
    (hbound : bound.Perm (names ++ others)) (hothers : others.Nodup) :
    bound.Nodup ↔ NamesApart names others := by
  rw [hbound.nodup_iff, List.nodup_append]
  constructor
  · rintro ⟨hnames, -, hdisjoint⟩
    exact ⟨hnames, fun name hname hother => hdisjoint name hname name hother rfl⟩
  · rintro ⟨hnames, hapart⟩
    refine ⟨hnames, hothers, fun name hname other hother heq => ?_⟩
    rw [heq] at hname
    exact hapart other hname hother

namespace Schema

/-- The names of the enums that are declared for the fields of a definition. -/
def inlineEnumNames (entry : String × Definition) : List String :=
  if Shape.of? entry.2 = some .interface then
    (entry.2.fields.filter (·.2.enumCarrier?.isSome)).map fun field =>
      ofQualified (ResolvedType.inlineEnumName entry.1 field.1)
  else []

/-- In every file the enums of fields are apart from each other and from the other names. -/
def InlineEnumsApart (schema : Schema) (config : Config) : Prop :=
  match config.mode with
  | .single =>
    NamesApart (schema.definitions.entries.flatMap inlineEnumNames)
      ((schema.units config).map (·.name))
  | .perDefinition =>
    ∀ entry ∈ schema.definitions.entries, ∀ placed ∈ schema.placedUnits config,
      placed.unit.modelName = some entry.1 →
        NamesApart (inlineEnumNames entry)
          (placed.unit.name ::
            (placed.sourceFile (schema.placedUnits config)).imports.map (·.name))

lemma quiet_renderingEvents_iff {earlier : List (String × String)} {modelName : String}
    {rendered : Rendered} :
    (∀ event ∈ renderingEvents earlier modelName rendered, event.level ≠ .warn) ↔
      rendered.name ∉ earlier.map Prod.fst := by
  rw [renderingEvents]
  cases hlookup : earlier.lookup rendered.name with
  | none =>
    have hnew : rendered.name ∉ earlier.map Prod.fst := not_mem_keys_of_lookup_eq_none hlookup
    simp [hnew, Event.level]
  | some previous =>
    have hold : rendered.name ∈ earlier.map Prod.fst :=
      List.mem_map_of_mem (mem_of_lookup_eq_some hlookup)
    simp [hold, Event.level]

lemma quiet_definitionEvents_iff (context : Context) (earlier : List (String × String))
    (entries : List (String × Definition)) :
    (∀ event ∈ definitionEvents context earlier entries, event.level ≠ .warn) ↔
      ((entries.filterMap (unit? context)).map (·.name)).Nodup ∧
        ∀ name ∈ (entries.filterMap (unit? context)).map (·.name), name ∉ earlier.map Prod.fst := by
  induction entries generalizing earlier with
  | nil => simp [definitionEvents]
  | cons entry rest ih =>
    obtain ⟨modelName, definition⟩ := entry
    rw [definitionEvents, List.filterMap_cons, unit?]
    cases context.render? modelName definition with
    | none =>
      simp only [Option.map_none, List.forall_mem_cons, ih earlier]
      simp [Event.level]
    | some rendered =>
      simp only [Option.map_some, List.forall_mem_append, quiet_renderingEvents_iff, ih,
        List.map_cons, List.nodup_cons, List.mem_cons, forall_eq_or_imp, not_or]
      constructor
      · rintro ⟨hnew, hnodup, hrest⟩
        refine ⟨⟨fun hmem => (hrest _ hmem).1 rfl, hnodup⟩, hnew, fun name hname => ?_⟩
        exact (hrest name hname).2
      · rintro ⟨⟨hfresh, hnodup⟩, hnew, hrest⟩
        refine ⟨hnew, hnodup, fun name hname => ⟨?_, hrest name hname⟩⟩
        rintro rfl
        exact hfresh hname

section Quiet

variable {schema : Schema} {config : Config}

lemma names_nodup_of_quiet (hquiet : ∀ event ∈ schema.events config, event.level ≠ .warn) :
    ((schema.definitionUnits config).map (·.name)).Nodup := by
  have hunits : ∀ event ∈ definitionEvents (config.context schema) [] schema.definitions.entries,
      event.level ≠ .warn := by
    intro event hevent
    refine hquiet event (List.mem_append_left _ (List.mem_append_left _ ?_))
    exact List.mem_cons_of_mem _ hevent
  exact ((quiet_definitionEvents_iff _ _ _).mp hunits).1

lemma indexName_of_quiet (hquiet : ∀ event ∈ schema.events config, event.level ≠ .warn)
    (hindex : config.entityIndex) : schema.indexName config = entityIndexName := by
  by_contra hne
  have hevents : schema.indexEvents config = [.indexRenamed (schema.indexName config)] := by
    rw [indexEvents, if_pos (by simp [hindex, hne])]
  have hwarn : Event.indexRenamed (schema.indexName config) ∈ schema.events config := by
    refine List.mem_append_left _ (List.mem_append_right _ ?_)
    rw [hevents]
    exact List.mem_singleton_self _
  exact hquiet _ hwarn rfl

end Quiet

lemma map_name_fieldEnums (owner : String) (fields : List (String × Element)) :
    (fields.filterMap fun field => fieldEnum? owner field.1 field.2).map Declaration.name =
      (fields.filter (·.2.enumCarrier?.isSome)).map fun field =>
        ofQualified (ResolvedType.inlineEnumName owner field.1) := by
  induction fields with
  | nil => rfl
  | cons field rest ih =>
    rw [List.filterMap_cons, List.filter_cons, fieldEnum?]
    cases field.2.enumCarrier? with
    | none => exact ih
    | some carrier => exact congrArg (_ :: ·) ih

lemma map_name_declarations {context : Context} {entry : String × Definition}
    {unit : DeclarationUnit} (h : unit? context entry = some unit) :
    unit.declarations.map Declaration.name = inlineEnumNames entry ++ [unit.name] := by
  obtain ⟨rendered, hrendered, rfl⟩ := Option.map_eq_some_iff.mp h
  obtain ⟨shape, hshape, rfl⟩ := Option.map_eq_some_iff.mp hrendered
  rw [inlineEnumNames, hshape]
  cases shape with
  | interface =>
    change (context.renderStructured entry.1 entry.2).map Declaration.name = _
    rw [Context.renderStructured, List.map_append, map_name_fieldEnums, if_pos rfl]
    rfl
  | enumeration => rfl
  | typeAlias => rfl

lemma inlineEnumNames_of_not_declared {context : Context} {entry : String × Definition}
    (h : unit? context entry = none) : inlineEnumNames entry = [] := by
  have hshape : Shape.of? entry.2 = none := Option.map_eq_none_iff.mp (Option.map_eq_none_iff.mp h)
  rw [inlineEnumNames, hshape]
  rfl

lemma declared_perm (context : Context) (entries : List (String × Definition)) :
    ((entries.filterMap (unit? context)).flatMap fun unit =>
        unit.declarations.map Declaration.name).Perm
      (entries.flatMap inlineEnumNames ++ (entries.filterMap (unit? context)).map (·.name)) := by
  induction entries with
  | nil => exact List.Perm.refl []
  | cons entry rest ih =>
    rw [List.filterMap_cons, List.flatMap_cons]
    cases hunit : unit? context entry with
    | none =>
      rw [inlineEnumNames_of_not_declared hunit]
      exact ih
    | some unit =>
      rw [List.flatMap_cons, map_name_declarations hunit, List.map_cons, List.append_assoc,
        List.append_assoc]
      refine List.Perm.append_left _ ?_
      exact (ih.cons unit.name).trans List.perm_middle.symm

lemma mem_units_cases {schema : Schema} {config : Config} {unit : DeclarationUnit}
    (hunit : unit ∈ schema.units config) :
    (∃ entry ∈ schema.definitions.entries, unit? (config.context schema) entry = some unit) ∨
      unit = schema.indexUnit config := by
  rw [units] at hunit
  rcases List.mem_append.mp hunit with hdefinition | hindex
  · exact Or.inl (List.mem_filterMap.mp hdefinition)
  · by_cases h : config.entityIndex = true
    · rw [if_pos h] at hindex
      exact Or.inr (List.mem_singleton.mp hindex)
    · rw [if_neg h] at hindex
      cases hindex

lemma boundNames_singleFile_perm {schema : Schema} {config : Config}
    (hindex : config.entityIndex → schema.indexName config = entityIndexName) :
    (schema.singleFile config).boundNames.Perm
      (schema.definitions.entries.flatMap inlineEnumNames ++
        (schema.units config).map (·.name)) := by
  rw [SourceFile.boundNames, singleFile, List.map_nil, List.nil_append, List.map_flatMap, units]
  have hdefinitions := declared_perm (config.context schema) schema.definitions.entries
  by_cases h : config.entityIndex = true
  · have hname : ofQualified (schema.indexName config) = schema.indexName config := by
      rw [hindex h]
      exact ofQualified_eq_self_iff.mpr isIdentifier_entityIndexName
    have hdeclared :
        (schema.indexUnit config).declarations.map Declaration.name = [schema.indexName config] :=
      congrArg ([·]) hname
    rw [if_pos h, List.flatMap_append, List.map_append, List.flatMap_singleton, hdeclared,
      ← List.append_assoc]
    exact hdefinitions.append_right _
  · rw [if_neg h, List.append_nil]
    exact hdefinitions

lemma boundNames_sourceFile_nodup_iff {context : Context} {entry : String × Definition}
    {placed : PlacedUnit} (units : List PlacedUnit) (hunit : unit? context entry = some placed.unit) :
    (placed.sourceFile units).boundNames.Nodup ↔
      NamesApart (inlineEnumNames entry)
        (placed.unit.name :: (placed.sourceFile units).imports.map (·.name)) := by
  refine nodup_iff_namesApart ?_ (List.nodup_cons.mpr ⟨fun hmem => ?_, ?_⟩)
  · have hdeclared : (placed.sourceFile units).declarations.map Declaration.name =
        inlineEnumNames entry ++ [placed.unit.name] := map_name_declarations hunit
    rw [SourceFile.boundNames, hdeclared]
    refine List.perm_append_comm.trans ?_
    rw [List.append_assoc]
    exact List.Perm.refl _
  · obtain ⟨line, hline, hname⟩ := List.mem_map.mp hmem
    obtain ⟨_, -, other, -, hknows, -, rfl⟩ := PlacedUnit.exists_reference_of_mem_importsOf hline
    rw [PlacedUnit.knows, Bool.or_eq_false_iff] at hknows
    exact of_decide_eq_false hknows.2 hname
  · exact PlacedUnit.importsOf_names_nodup placed units [] placed.unit.references

lemma boundNames_index_nodup (schema : Schema) (config : Config) (units : List PlacedUnit)
    {placed : PlacedUnit} (hunit : placed.unit = schema.indexUnit config) :
    (placed.sourceFile units).boundNames.Nodup := by
  rw [SourceFile.boundNames, PlacedUnit.sourceFile, hunit]
  exact List.nodup_singleton _

/-- Without a warning, the names in every file are distinct exactly if the enums of fields are
apart from each other and from the other names there. -/
theorem quiet_names_distinct_iff (schema : Schema) (config : Config)
    (hquiet : ∀ event ∈ schema.events config, event.level ≠ .warn) :
    (∀ file ∈ schema.sourceFiles config, file.boundNames.Nodup) ↔
      schema.InlineEnumsApart config := by
  rw [InlineEnumsApart, sourceFiles]
  cases config.mode with
  | single =>
    have hnames := (names_units_nodup_iff schema config).mpr (names_nodup_of_quiet hquiet)
    have hperm := boundNames_singleFile_perm (indexName_of_quiet hquiet)
    simp only [List.mem_singleton, forall_eq]
    exact nodup_iff_namesApart hperm hnames
  | perDefinition =>
    simp only [List.forall_mem_map]
    constructor
    · intro hfiles entry hentry placed hplaced hname
      rcases mem_units_cases (unit_mem_units hplaced) with ⟨found, hfound, hunit⟩ | hindex
      · have hkey : found.1 = entry.1 :=
          Option.some.inj ((modelName_of_unit? hunit).symm.trans hname)
        obtain rfl : found = entry :=
          List.inj_on_of_nodup_map schema.definitions.keys_nodup hfound hentry hkey
        exact (boundNames_sourceFile_nodup_iff _ hunit).mp (hfiles placed hplaced)
      · rw [hindex] at hname
        cases hname
    · intro hapart placed hplaced
      rcases mem_units_cases (unit_mem_units hplaced) with ⟨entry, hentry, hunit⟩ | hindex
      · refine (boundNames_sourceFile_nodup_iff _ hunit).mpr ?_
        exact hapart entry hentry placed hplaced (modelName_of_unit? hunit)
      · exact boundNames_index_nodup schema config _ hindex

theorem status_of_books_apart :
    let status := Element.withEnum none (.ofList [("Draft", .implicit)])
    let schema := Schema.ofDefinitions
      (.ofList [("Books", .entity (.ofList [("status", status)])), ("Authors", .entity .empty)])
    let config : Config := { interfacePrefix := "I", entityIndex := true }
    (∀ event ∈ schema.events config, event.level ≠ .warn) ∧
      ∀ file ∈ schema.sourceFiles config, file.boundNames.Nodup := by
  intro status schema config
  have hquiet : ∀ event ∈ schema.events config, event.level ≠ .warn := by decide +kernel
  have hapart : schema.InlineEnumsApart config := by
    constructor
    · decide +kernel
    · decide +kernel
  exact ⟨hquiet, (quiet_names_distinct_iff schema config hquiet).mpr hapart⟩

/-- Without a warning, the enum of a field can take the name of another definition, and two fields
can have enums of one name. -/
theorem field_enum_takes_name_quietly :
    let element := Element.withEnum none (.ofList [("X", .implicit)])
    let schema := Schema.ofDefinitions
      (.ofList [("A", .entity (.ofList [("b", element)])), ("AB", .entity .empty)])
    let twice := Schema.ofDefinitions
      (.ofList [("A", .entity (.ofList [("b-c", element), ("b_c", element)]))])
    ((∀ event ∈ schema.events {}, event.level ≠ .warn) ∧
      ∃ file ∈ schema.sourceFiles {},
        file.boundNames = ["AB", "A", "AB"] ∧ ¬file.boundNames.Nodup) ∧
    (∀ event ∈ twice.events {}, event.level ≠ .warn) ∧
      ∃ file ∈ twice.sourceFiles {},
        file.boundNames = ["AB_c", "AB_c", "A"] ∧ ¬file.boundNames.Nodup := by
  intro element schema twice
  refine ⟨⟨?_, ?_⟩, ?_, ?_⟩
  · decide +kernel
  · decide +kernel
  · decide +kernel
  · decide +kernel

end Schema

end CdsDeclarations
