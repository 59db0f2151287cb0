import CdsDeclarations.Proofs.FileNames
import CdsDeclarations.Proofs.InsertionOrder
import CdsDeclarations.Proofs.Mentions
import CdsDeclarations.Proofs.Units

/-!
# Appended definitions

A definition may be put behind the others of a model under a name that none of them mentions. Then
the files of the others stay as they are, also where the new definition is declared under the name
of an old one, and one file with everything keeps its text in front.
-/

namespace CdsDeclarations

/-- Text is only added behind the blocks that were there. -/
lemma blocksText_append (blocks more : List String) :
    ∃ rest, blocksText (blocks ++ more) ++ "\n" = blocksText blocks ++ rest := by
  by_cases hblocks : blocks = []
  · refine ⟨blocksText more ++ "\n", ?_⟩
    rw [hblocks, List.nil_append]
    exact String.empty_append.symm
  by_cases hmore : more = []
  · exact ⟨"\n", by rw [hmore, List.append_nil]⟩
  · refine ⟨"\n\n" ++ blocksText more ++ "\n", ?_⟩
    rw [blocksText, String.intercalate_append_of_ne_nil hblocks hmore]
    simp only [blocksText, String.append_assoc]

section Placing

variable {placed rest : List PlacedUnit}

/-- Units that follow change nothing in where the earlier ones are placed. -/
lemma placeUnits_append (taken : List String) (units more : List DeclarationUnit) :
    ∃ rest, placeUnits taken (units ++ more) = placeUnits taken units ++ rest ∧
      rest.map (·.unit) = more := by
  induction units generalizing taken with
  | nil => exact ⟨placeUnits taken more, rfl, map_unit_placeUnits taken more⟩
  | cons unit others ih =>
    obtain ⟨rest, hplaced, hrest⟩ := ih (lowercase (freeName lowercase taken unit.name) :: taken)
    refine ⟨rest, ?_, hrest⟩
    rw [List.cons_append, placeUnits, placeUnits, hplaced, List.cons_append]

namespace PlacedUnit

lemma find?_append_of_forall_ne {reference : String}
    (h : ∀ other ∈ rest, other.unit.modelName ≠ some reference) :
    find? (placed ++ rest) reference = find? placed reference := by
  have hnone : rest.find? (fun other => decide (other.unit.modelName = some reference)) = none :=
    List.find?_eq_none.mpr fun other hother => by simpa using h other hother
  rw [find?, find?, List.find?_append, hnone, Option.or_none]

/-- Imports depend on what the references are found to be, and on nothing else in the units. -/
lemma importsOf_congr (file : PlacedUnit) {others : List PlacedUnit} {references : List String}
    (h : ∀ reference ∈ references, find? placed reference = find? others reference)
    (imported : List String) :
    file.importsOf placed imported references = file.importsOf others imported references := by
  induction references generalizing imported with
  | nil => rfl
  | cons reference later ih =>
    obtain ⟨hfirst, hlater⟩ := List.forall_mem_cons.mp h
    rw [importsOf, importsOf, hfirst]
    simp only [ih hlater]

lemma sourceFile_append (file : PlacedUnit)
    (h : ∀ other ∈ rest, ∀ reference ∈ file.unit.references,
      other.unit.modelName ≠ some reference) :
    file.sourceFile (placed ++ rest) = file.sourceFile placed := by
  have hfound : ∀ reference ∈ file.unit.references,
      find? (placed ++ rest) reference = find? placed reference := fun reference hreference =>
    find?_append_of_forall_ne fun other hother => h other hother reference hreference
  rw [sourceFile, sourceFile, file.importsOf_congr hfound]

end PlacedUnit

end Placing

namespace Schema

/-- The model with a definition put under a name. -/
def insert (schema : Schema) (name : String) (definition : Definition) : Schema :=
  { schema with definitions := schema.definitions.insert name definition }

/-- The files of the definitions with some names, in the order of the model. -/
def filesOf (schema : Schema) (config : Config) (names : List String) : List SourceFile :=
  let placed := schema.placedUnits config
  (placed.filter fun file => ∃ name ∈ names, file.unit.modelName = some name).map
    (PlacedUnit.sourceFile placed)

/-- The files of some units are those that are made of these units alone, if no other unit follows
but under a name to which they do not refer. -/
lemma filesOf_of_units_eq {schema : Schema} {config : Config} {units more : List DeclarationUnit}
    {names : List String} {name : String} (hmode : config.mode = .perDefinition)
    (hunits : schema.units config = units ++ more)
    (hnames : ∀ unit ∈ units, ∃ other ∈ names, unit.modelName = some other)
    (hreferences : ∀ unit ∈ units, name ∉ unit.references) (hnew : name ∉ names)
    (hmore : ∀ unit ∈ more, ∀ other, unit.modelName = some other → other = name) :
    let placed := placeUnits [] units
    schema.filesOf config names = placed.map (PlacedUnit.sourceFile placed) ∧
      (schema.filesOf config names).map SourceFile.document <+: schema.documents config := by
  intro placed
  obtain ⟨rest, hplaced, hrest⟩ := placeUnits_append [] units more
  rw [← hunits] at hplaced
  change schema.placedUnits config = placed ++ rest at hplaced
  have hunit : placed.map (·.unit) = units := map_unit_placeUnits [] units
  -- What is known about the units is needed about the placed ones.
  rw [← hunit, List.forall_mem_map] at hnames hreferences
  rw [← hrest, List.forall_mem_map] at hmore
  have hkept : (schema.placedUnits config).filter
      (fun file => ∃ other ∈ names, file.unit.modelName = some other) = placed := by
    rw [hplaced, List.filter_append, List.filter_eq_self.mpr, List.filter_eq_nil_iff.mpr,
      List.append_nil]
    · intro file hfile hkept
      obtain ⟨other, hother, hname⟩ := of_decide_eq_true hkept
      exact hnew (hmore file hfile other hname ▸ hother)
    · exact fun file hfile => decide_eq_true (hnames file hfile)
  have hfiles : ∀ file ∈ placed,
      file.sourceFile (schema.placedUnits config) = file.sourceFile placed := by
    intro file hfile
    rw [hplaced]
    refine file.sourceFile_append fun other hother reference hreference hname => ?_
    exact hreferences file hfile (hmore other hother reference hname ▸ hreference)
  rw [filesOf, hkept, documents, sourceFiles, hmode]
  exact ⟨List.map_congr_left hfiles, .map _ (.map _ ⟨rest, hplaced.symm⟩)⟩

section Insert

variable {schema : Schema} {name : String}

lemma entries_insert (hnew : name ∉ schema.definitions.keys) (definition : Definition) :
    (schema.insert name definition).definitions.entries =
      schema.definitions.entries ++ [(name, definition)] :=
  OrderedMap.entries_insert_of_not_mem hnew definition

lemma agreeOn_insert (config : Config) (hnew : name ∉ schema.definitions.keys)
    (hunmentioned : name ∉ schema.mentionedNames) (definition : Definition) :
    (config.context (schema.insert name definition)).AgreeOn (config.context schema)
      schema.mentionedNames := by
  refine ⟨rfl, fun other hother => ?_⟩
  have hne : other ≠ name := fun hsame => hunmentioned (hsame ▸ hother)
  rw [Bool.eq_iff_iff, Context.isInterface_context_iff, Context.isInterface_context_iff]
  refine exists_congr fun held => and_congr_left fun _ => ?_
  rw [entries_insert hnew, List.mem_append, List.mem_singleton]
  exact or_iff_left fun hentry => hne (congrArg Prod.fst hentry)

lemma definitionUnits_insert (config : Config) (hnew : name ∉ schema.definitions.keys)
    (hunmentioned : name ∉ schema.mentionedNames) (definition : Definition) :
    (schema.insert name definition).definitionUnits config = schema.definitionUnits config ++
      [(name, definition)].filterMap (unit? (config.context (schema.insert name definition))) := by
  -- The contexts of the two models differ, but not on a name that an old definition mentions.
  have hagree := agreeOn_insert config hnew hunmentioned definition
  have hearlier : schema.definitions.entries.filterMap
      (unit? (config.context (schema.insert name definition))) = schema.definitionUnits config := by
    refine List.filterMap_congr fun entry hentry => (hagree.mono ?_).unit?
    exact fun other hother => List.mem_flatMap.mpr ⟨entry, hentry, hother⟩
  rw [← hearlier, definitionUnits, entries_insert hnew, List.filterMap_append]

lemma not_mem_references (config : Config) (hunmentioned : name ∉ schema.mentionedNames) :
    ∀ unit ∈ schema.definitionUnits config, name ∉ unit.references := by
  intro unit hunit hreference
  obtain ⟨other, definition, rendered, hentry, hrendered, rfl⟩ := mem_definitionUnits_iff.mp hunit
  obtain ⟨shape, hshape, rfl⟩ := Option.map_eq_some_iff.mp hrendered
  change name ∈ ((config.context schema).renderAs other definition shape).references at hreference
  have hmentioned := mem_mentionedNames_of_collected hshape hreference
  exact hunmentioned (List.mem_flatMap.mpr ⟨(other, definition), hentry, hmentioned⟩)

lemma exists_modelName_mem_keys (schema : Schema) (config : Config) :
    ∀ unit ∈ schema.definitionUnits config,
      ∃ other ∈ schema.definitions.keys, unit.modelName = some other := by
  intro unit hunit
  obtain ⟨other, definition, rendered, hentry, -, rfl⟩ := mem_definitionUnits_iff.mp hunit
  exact ⟨other, List.mem_map_of_mem hentry, rfl⟩

end Insert

/-- Behind the units of a model stand added ones and that of the index, which has no model name. -/
lemma eq_of_modelName_of_later {schema : Schema} {config : Config} {name : String}
    {added : List DeclarationUnit} (hadded : ∀ unit ∈ added, unit.modelName = some name) :
    ∀ unit ∈ added ++ if config.entityIndex then [schema.indexUnit config] else [],
      ∀ other, unit.modelName = some other → other = name := by
  intro unit hunit other hname
  rcases List.mem_append.mp hunit with hmem | hmem
  · exact Option.some.inj (hname.symm.trans (hadded unit hmem))
  · split at hmem
    · rw [List.mem_singleton.mp hmem] at hname
      cases hname
    · cases hmem

/-- The files of the definitions of a model are made of these alone, also in a model in which units
of a new name stand behind them. -/
lemma filesOf_keys {schema other : Schema} {config : Config} {name : String}
    {added : List DeclarationUnit} (hmode : config.mode = .perDefinition)
    (hnew : name ∉ schema.definitions.keys) (hunmentioned : name ∉ schema.mentionedNames)
    (hunits : other.definitionUnits config = schema.definitionUnits config ++ added)
    (hadded : ∀ unit ∈ added, unit.modelName = some name) :
    let placed := placeUnits [] (schema.definitionUnits config)
    other.filesOf config schema.definitions.keys = placed.map (PlacedUnit.sourceFile placed) ∧
      (other.filesOf config schema.definitions.keys).map SourceFile.document <+:
        other.documents config := by
  have hall : other.units config = schema.definitionUnits config ++
      (added ++ if config.entityIndex then [other.indexUnit config] else []) := by
    rw [units, hunits, List.append_assoc]
  exact filesOf_of_units_eq hmode hall (schema.exists_modelName_mem_keys config)
    (not_mem_references config hunmentioned) hnew (eq_of_modelName_of_later hadded)

lemma blocks_singleFile_append {schema other : Schema} {config : Config}
    {added : List DeclarationUnit} (hindex : config.entityIndex = false)
    (hunits : other.definitionUnits config = schema.definitionUnits config ++ added) :
    (other.singleFile config).blocks = (schema.singleFile config).blocks ++
      (added.flatMap (·.declarations)).map Declaration.text := by
  have hall : other.units config = schema.units config ++ added := by
    rw [units, units, hindex, if_neg Bool.false_ne_true, if_neg Bool.false_ne_true, List.append_nil,
      List.append_nil, hunits]
  rw [SourceFile.blocks, SourceFile.blocks, singleFile, singleFile, hall, List.flatMap_append,
    List.map_append, List.append_assoc]

/-- A definition that is appended under a name that the others do not mention changes no file of
theirs, of which there is one for each that is declared. In one file without an index it adds text
behind theirs. -/
theorem appended_definition_keeps_files (schema : Schema) (config : Config) (name : String)
    (definition : Definition) (hnew : name ∉ schema.definitions.keys)
    (hunmentioned : name ∉ schema.mentionedNames) :
    (config.mode = .perDefinition →
      let files := schema.filesOf config schema.definitions.keys
      (schema.insert name definition).filesOf config schema.definitions.keys = files ∧
        files.length = (schema.definitionUnits config).length ∧
        files.map SourceFile.document <+: schema.documents config ∧
        files.map SourceFile.document <+: (schema.insert name definition).documents config) ∧
    (config.mode = .single → config.entityIndex = false →
      ∃ body rest, schema.documents config = [⟨singleFileName, body ++ "\n"⟩] ∧
        (schema.insert name definition).documents config = [⟨singleFileName, body ++ rest⟩]) := by
  have hunits := definitionUnits_insert config hnew hunmentioned definition
  constructor
  · intro hmode files
    obtain ⟨hbefore, hdocumentsBefore⟩ := filesOf_keys hmode hnew hunmentioned
      (List.append_nil (schema.definitionUnits config)).symm fun _ hunit => absurd hunit List.not_mem_nil
    obtain ⟨hafter, hdocumentsAfter⟩ := filesOf_keys hmode hnew hunmentioned hunits
      fun unit hunit => by
        obtain ⟨entry, hentry, hrendered⟩ := List.mem_filterMap.mp hunit
        rw [modelName_of_unit? hrendered, List.mem_singleton.mp hentry]
    have hsame : (schema.insert name definition).filesOf config schema.definitions.keys = files :=
      hafter.trans hbefore.symm
    have hlength : files.length = (schema.definitionUnits config).length := by
      have hplaced := congrArg List.length (map_unit_placeUnits [] (schema.definitionUnits config))
      rw [List.length_map] at hplaced
      rw [congrArg List.length hbefore, List.length_map, hplaced]
    rw [hsame] at hdocumentsAfter
    exact ⟨hsame, hlength, hdocumentsBefore, hdocumentsAfter⟩
  · intro hmode hindex
    obtain ⟨rest, hrest⟩ := blocksText_append (schema.singleFile config).blocks _
    rw [← blocks_singleFile_append hindex hunits] at hrest
    refine ⟨blocksText (schema.singleFile config).blocks, rest, ?_, ?_⟩
    · rw [documents, sourceFiles, hmode]
      rfl
    · rw [← hrest, documents, sourceFiles, hmode]
      rfl

/-- A second entity with the same name changes nothing in the files of the first one and of what it
refers to. -/
theorem appended_books_keep_files :
    let schema := Schema.ofDefinitions (.ofList [
      ("a.Books", .entity (.ofList [("author", .association "a.Authors" .toOne)])),
      ("a.Authors", .entity .empty)])
    let later := schema.insert "b.Books" (.entity .empty)
    let split : Config := { mode := .perDefinition }
    "b.Books" ∉ schema.definitions.keys ∧ "b.Books" ∉ schema.mentionedNames ∧
      later.filesOf split schema.definitions.keys = schema.filesOf split schema.definitions.keys ∧
      ((schema.filesOf split schema.definitions.keys).map SourceFile.document <+:
        later.documents split) ∧
      (later.documents split).map (·.fileName) = ["Books.ts", "Authors.ts", "Books_1.ts"] ∧
      ∃ body rest, schema.documents {} = [⟨singleFileName, body ++ "\n"⟩] ∧
        later.documents {} = [⟨singleFileName, body ++ rest⟩] := by
  intro schema later split
  have hnew : "b.Books" ∉ schema.definitions.keys := by decide +kernel
  have hunmentioned : "b.Books" ∉ schema.mentionedNames := by decide +kernel
  have hfiles := (appended_definition_keeps_files schema split "b.Books" (.entity .empty) hnew
    hunmentioned).1 rfl
  have hsingle := (appended_definition_keeps_files schema {} "b.Books" (.entity .empty) hnew
    hunmentioned).2 rfl rfl
  exact ⟨hnew, hunmentioned, hfiles.1, hfiles.2.2.2, by decide +kernel, hsingle⟩

end Schema

end CdsDeclarations
