import CdsDeclarations.Proofs.Appending
import CdsDeclarations.Proofs.MapHistories
import CdsDeclarations.Proofs.ReadEnums

/-!
# Entities of the index

The index is read back from its text as one member for each identifier that entities have. Of the
entities with the same identifier it lists the last one alone, at the place of the first.
-/

namespace CdsDeclarations

open Identifier

/-- The member by which the index lists an entity: its identifier, and its model name as value. -/
def indexEntry (modelName : String) : ReadMember :=
  ⟨ofQualified modelName, some (.text modelName)⟩

lemma indexEntry_injective : Function.Injective indexEntry := by
  intro name other h
  exact ReadValue.text.inj (Option.some.inj (congrArg ReadMember.value h))

namespace Schema

variable {schema : Schema} {config : Config}

/-- The model names of the entities, in the order of the model. -/
def entityNames (schema : Schema) : List String :=
  (schema.definitions.entries.filter isListed).map Prod.fst

/-- The member of the index that stands for an entity. -/
def indexPair (modelName : String) : String × EnumValue :=
  (ofQualified modelName, .text modelName)

lemma indexMembers_eq (schema : Schema) :
    schema.indexMembers = .ofList (schema.entityNames.map indexPair) := by
  rw [indexMembers, entityNames, List.map_map]
  rfl

lemma map_fst_indexPair (names : List String) :
    (names.map indexPair).map Prod.fst = names.map ofQualified := by
  rw [List.map_map]
  rfl

lemma entityNames_nodup (schema : Schema) : schema.entityNames.Nodup :=
  schema.definitions.keys_nodup.sublist (List.filter_sublist.map Prod.fst)

/-- The members that the index is read back with. -/
def readIndex (schema : Schema) : List ReadMember :=
  schema.indexMembers.entries.map fun entry => (renderMember false entry).readMember

lemma readMember_indexPair (name : String) :
    (renderMember false (indexPair name)).readMember = indexEntry name := by
  have hname : sanitize (ofQualified name) = ofQualified name :=
    sanitize_eq_self (isIdentifier_ofQualified name)
  rw [renderMember, indexPair, hname]
  rfl

lemma exists_indexPair_of_mem {entry : String × EnumValue}
    (h : entry ∈ schema.indexMembers.entries) :
    ∃ name ∈ schema.entityNames, indexPair name = entry := by
  rw [indexMembers_eq] at h
  exact List.mem_map.mp (OrderedMap.mem_of_mem_entries_ofList h)

lemma keys_indexMembers (schema : Schema) :
    schema.indexMembers.keys = (schema.entityNames.map ofQualified).eraseDups := by
  rw [indexMembers_eq, OrderedMap.keys_ofList, map_fst_indexPair]

lemma map_name_readIndex (schema : Schema) :
    schema.readIndex.map ReadMember.name = schema.indexMembers.keys := by
  have hname : ∀ entry ∈ schema.indexMembers.entries,
      (renderMember false entry).readMember.name = entry.1 := by
    intro entry hentry
    obtain ⟨name, -, rfl⟩ := exists_indexPair_of_mem hentry
    rw [readMember_indexPair]
    rfl
  rw [readIndex, List.map_map]
  exact List.map_congr_left hname

lemma indexEntry_mem_readIndex_iff {name : String} :
    indexEntry name ∈ schema.readIndex ↔
      schema.indexMembers.get? (ofQualified name) = some (.text name) := by
  rw [OrderedMap.get?_eq_some_iff, readIndex, List.mem_map]
  constructor
  · rintro ⟨entry, hentry, hread⟩
    obtain ⟨other, -, rfl⟩ := exists_indexPair_of_mem hentry
    rw [readMember_indexPair] at hread
    exact indexEntry_injective hread ▸ hentry
  · intro hentry
    exact ⟨indexPair name, hentry, readMember_indexPair name⟩

/-- The index lists an entity exactly if no later one has its identifier. -/
lemma indexEntry_mem_readIndex_iff_of_split {front back : List String} {name : String}
    (h : schema.entityNames = front ++ name :: back) :
    indexEntry name ∈ schema.readIndex ↔ ofQualified name ∉ back.map ofQualified := by
  have hnew : name ∉ back := by
    have hnodup := schema.entityNames_nodup
    rw [h, List.nodup_append, List.nodup_cons] at hnodup
    exact hnodup.2.1.1
  have hlookup : schema.indexMembers.get? (ofQualified name) =
      ((back.map indexPair).reverse.lookup (ofQualified name)).or (some (.text name)) := by
    rw [indexMembers_eq, OrderedMap.get?_ofList, h, List.map_append, List.map_cons,
      List.reverse_append, List.reverse_cons, List.append_assoc, List.lookup_append,
      List.singleton_append, indexPair, OrderedMap.lookup_cons_eq_ite, if_pos rfl]
  rw [indexEntry_mem_readIndex_iff, hlookup]
  cases hback : (back.map indexPair).reverse.lookup (ofQualified name) with
  | none =>
    have hnone := not_mem_keys_of_lookup_eq_none hback
    rw [List.map_reverse, List.mem_reverse, map_fst_indexPair] at hnone
    exact iff_of_true rfl hnone
  | some value =>
    have hlater := List.mem_reverse.mp (mem_of_lookup_eq_some hback)
    obtain ⟨other, hother, hpair⟩ := List.mem_map.mp hlater
    obtain ⟨hsame, rfl⟩ := Prod.mk.inj hpair
    refine iff_of_false (fun hvalue => ?_) (fun hnone => ?_)
    · exact hnew (EnumValue.text.inj (Option.some.inj hvalue) ▸ hother)
    · exact hnone (hsame ▸ List.mem_map_of_mem hother)

/-- The index lists every entity exactly if no two of them have the same identifier. -/
lemma readIndex_eq_map_iff (schema : Schema) :
    schema.readIndex = schema.entityNames.map indexEntry ↔
      (schema.entityNames.map ofQualified).Nodup := by
  constructor
  · intro h
    have hnames := congrArg (List.map ReadMember.name) h
    rw [map_name_readIndex, List.map_map] at hnames
    change _ = schema.entityNames.map ofQualified at hnames
    rw [← hnames]
    exact schema.indexMembers.keys_nodup
  · intro hnodup
    have hpairs : (((OrderedMap.empty : EnumMembers).entries ++
        schema.entityNames.map indexPair).map Prod.fst).Nodup := by
      rw [← map_fst_indexPair] at hnodup
      exact hnodup
    have hentries : schema.indexMembers.entries = schema.entityNames.map indexPair := by
      rw [indexMembers_eq]
      exact OrderedMap.entries_insertAll hpairs
    rw [readIndex, hentries, List.map_map]
    exact List.map_congr_left fun name _ => readMember_indexPair name

/-- The declaration of the index. -/
def indexDeclaration (schema : Schema) (config : Config) : Declaration :=
  renderEnum (schema.indexName config) none (some schema.indexMembers)

lemma readEnum?_indexDeclaration (schema : Schema) (config : Config) :
    readEnum? (schema.indexDeclaration config).text =
      some (schema.indexName config, schema.readIndex) := by
  rw [indexDeclaration, readEnum?_renderEnum, ofQualified_indexName]
  rfl

/-- The index is the last declaration of the last file. -/
lemma exists_file_of_index (schema : Schema) {config : Config}
    (hindex : config.entityIndex = true) :
    ∃ files file declarations, schema.sourceFiles config = files ++ [file] ∧
      file.declarations = declarations ++ [schema.indexDeclaration config] := by
  have hunits : schema.units config =
      schema.definitionUnits config ++ [schema.indexUnit config] := by
    rw [units, if_pos hindex]
  rw [sourceFiles]
  cases config.mode with
  | single =>
    refine ⟨[], _, (schema.definitionUnits config).flatMap (·.declarations), rfl, ?_⟩
    rw [singleFile, hunits, List.flatMap_append, List.flatMap_singleton]
    rfl
  | perDefinition =>
    obtain ⟨rest, hplaced, hrest⟩ :=
      placeUnits_append [] (schema.definitionUnits config) [schema.indexUnit config]
    obtain ⟨last, rfl, hlast⟩ := List.map_eq_singleton_iff.mp hrest
    have hall : schema.placedUnits config =
        placeUnits [] (schema.definitionUnits config) ++ [last] := by
      rw [placedUnits, hunits, hplaced]
    refine ⟨(placeUnits [] (schema.definitionUnits config)).map
      (PlacedUnit.sourceFile (schema.placedUnits config)),
      last.sourceFile (schema.placedUnits config), [], ?_, ?_⟩
    · change (schema.placedUnits config).map _ = _
      rw [hall, List.map_append, List.map_singleton]
    · rw [PlacedUnit.sourceFile, hlast]
      rfl

end Schema

/-- The last block of a text stands at its end. -/
lemma exists_blocksText_concat (blocks : List String) (block : String) :
    ∃ front, blocksText (blocks ++ [block]) = front ++ block := by
  by_cases hblocks : blocks = []
  · exact ⟨"", by rw [hblocks, List.nil_append, String.empty_append, blocksText,
      String.intercalate_singleton]⟩
  · refine ⟨blocksText blocks ++ "\n\n", ?_⟩
    rw [blocksText, String.intercalate_append_of_ne_nil hblocks (List.cons_ne_nil block []),
      String.intercalate_singleton]
    rfl

lemma SourceFile.exists_content_concat {file : SourceFile} {declarations : List Declaration}
    {last : Declaration} (h : file.declarations = declarations ++ [last]) :
    ∃ front, file.content = front ++ last.text ++ "\n" := by
  obtain ⟨front, hfront⟩ := exists_blocksText_concat
    (importBlock file.imports ++ declarations.map Declaration.text) last.text
  refine ⟨front, ?_⟩
  rw [content, blocks, h, List.map_append, List.map_singleton, ← List.append_assoc, hfront]

/-- The text at the end of the last file is read back as an enum with one member for each identifier
of an entity, in the order in which these first come. Each member has the model name of an entity as
its value, and an entity is listed exactly if no later one has its identifier. So the members are
all entities in the order of the model exactly if no two entities have the same identifier. -/
theorem entity_index_lists_all_iff (schema : Schema) (config : Config)
    (hindex : config.entityIndex = true) :
    ∃ (files : List SourceFile) (file : SourceFile) (declarations : List Declaration)
      (index : Declaration) (text : String) (members : List ReadMember),
      schema.sourceFiles config = files ++ [file] ∧ file.declarations = declarations ++ [index] ∧
      file.content = text ++ index.text ++ "\n" ∧
      readEnum? index.text = some (schema.indexName config, members) ∧
      members.map ReadMember.name = (schema.entityNames.map ofQualified).eraseDups ∧
      (∀ member ∈ members, ∃ name ∈ schema.entityNames, member = indexEntry name) ∧
      (∀ front name back, schema.entityNames = front ++ name :: back →
        (indexEntry name ∈ members ↔ ofQualified name ∉ back.map ofQualified)) ∧
      (members = schema.entityNames.map indexEntry ↔
        (schema.entityNames.map ofQualified).Nodup) := by
  obtain ⟨files, file, declarations, hfiles, hdeclarations⟩ := schema.exists_file_of_index hindex
  obtain ⟨text, hcontent⟩ := SourceFile.exists_content_concat hdeclarations
  refine ⟨files, file, declarations, schema.indexDeclaration config, text, schema.readIndex, hfiles,
    hdeclarations, hcontent, schema.readEnum?_indexDeclaration config, ?_, ?_, ?_,
    schema.readIndex_eq_map_iff⟩
  · rw [Schema.map_name_readIndex, Schema.keys_indexMembers]
  · intro member hmember
    obtain ⟨entry, hentry, rfl⟩ := List.mem_map.mp hmember
    obtain ⟨name, hname, rfl⟩ := Schema.exists_indexPair_of_mem hentry
    exact ⟨name, hname, Schema.readMember_indexPair name⟩
  · exact fun front name back => Schema.indexEntry_mem_readIndex_iff_of_split

/-- Two entities and a type between them: the entities are listed. -/
theorem index_of_books_and_authors :
    let schema := Schema.ofDefinitions (.ofList [("my.Books", .entity .empty),
      ("my.Genre", .ofTag "cds.String"), ("my.Authors", .entity .empty)])
    let config : Config := { entityIndex := true }
    config.entityIndex = true ∧ ∃ (file : SourceFile) (index : Declaration) (text : String),
      file ∈ schema.sourceFiles config ∧ file.content = text ++ index.text ++ "\n" ∧
      readEnum? index.text = some (schema.indexName config,
        [⟨"Books", some (.text "my.Books")⟩, ⟨"Authors", some (.text "my.Authors")⟩]) := by
  intro schema config
  obtain ⟨files, file, _, index, text, members, hfiles, -, hcontent, hread, -, -, -, hall⟩ :=
    entity_index_lists_all_iff schema config rfl
  have hnames : schema.entityNames = ["my.Books", "my.Authors"] := rfl
  have hbooks : ofQualified "my.Books" = "Books" :=
    (ofQualified_eq_iff (by decide) "my.Books").mpr (by decide)
  have hauthors : ofQualified "my.Authors" = "Authors" :=
    (ofQualified_eq_iff (by decide) "my.Authors").mpr (by decide)
  rw [hnames, List.map_cons, List.map_singleton, List.map_cons, List.map_singleton, indexEntry,
    indexEntry, hbooks, hauthors] at hall
  rw [hall.mpr (by decide)] at hread
  exact ⟨rfl, file, index, text, by rw [hfiles]; exact List.mem_concat_self, hcontent, hread⟩

/-- Of two entities that are declared under the same name, the first one is not listed. -/
theorem index_lists_one_of_two_twins :
    let schema := Schema.ofDefinitions
      (.ofList [("a.B", .entity .empty), ("b.B", .entity .empty)])
    let config : Config := { entityIndex := true }
    schema.entityNames = ["a.B", "b.B"] ∧
      readEnum? (schema.indexDeclaration config).text =
        some (schema.indexName config, [⟨"B", some (.text "b.B")⟩]) := by
  intro schema config
  have hfirst : ofQualified "a.B" = "B" := (ofQualified_eq_iff (by decide) "a.B").mpr (by decide)
  have hsecond : ofQualified "b.B" = "B" := (ofQualified_eq_iff (by decide) "b.B").mpr (by decide)
  have hnames : schema.entityNames = ["a.B", "b.B"] := rfl
  have hentries : schema.indexMembers.entries = [("B", .text "b.B")] := by
    rw [Schema.indexMembers_eq, hnames, List.map_cons, List.map_singleton, Schema.indexPair,
      Schema.indexPair, hfirst, hsecond]
    rfl
  have hpair : ("B", EnumValue.text "b.B") = Schema.indexPair "b.B" := by
    rw [Schema.indexPair, hsecond]
  refine ⟨hnames, ?_⟩
  rw [Schema.readEnum?_indexDeclaration, Schema.readIndex, hentries, List.map_singleton, hpair,
    Schema.readMember_indexPair, indexEntry, hsecond]

end CdsDeclarations
