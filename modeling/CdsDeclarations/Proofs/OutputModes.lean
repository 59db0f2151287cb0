import CdsDeclarations.Proofs.Imports
import CdsDeclarations.Proofs.Layout

/-!
# The two output modes

One file for each definition holds the same declarations as the one file with everything. In front
of its declarations such a file has a header of imports, which can be told from them in its text.
-/

namespace CdsDeclarations

/-- What the line of an import begins with. -/
def importKeyword : String := "import type "

/-- What the first line of a declaration begins with. -/
def exportKeyword : String := "export "

def isImportLine (line : String) : Bool :=
  importKeyword.toList.isPrefixOf line.toList

/-- The lines of imports that a text begins with. -/
def importLines (text : String) : List String :=
  (textLines text).takeWhile isImportLine

/-- A text without its last line feed and without the imports it begins with. Behind imports a blank
line goes too. -/
def declarationPart (text : String) : String :=
  let rest := (textLines text).dropLast.dropWhile isImportLine
  "\n".intercalate (if (importLines text).isEmpty then rest else rest.drop 1)

/-- Imports as they stand in front of declarations: one line for each of them, and a blank line. -/
def importHeader (imports : List TypeImport) : String :=
  if imports.isEmpty then "" else "\n".intercalate (imports.map TypeImport.line) ++ "\n\n"

namespace Schema

def indexText (schema : Schema) (config : Config) : String :=
  (renderEnum (schema.indexName config) none (some schema.indexMembers)).text

/-- The texts of the definitions that are declared, in their order, and the index after them. -/
def declarationTexts (schema : Schema) (config : Config) : List String :=
  schema.definitions.entries.filterMap (fun entry =>
      ((config.context schema).render? entry.1 entry.2).map fun rendered =>
        declarationsText rendered.declarations) ++
    if config.entityIndex then [schema.indexText config] else []

end Schema

lemma prefix_toList_append {front keyword : String} (h : keyword.toList <+: front.toList)
    (back : String) : keyword.toList <+: (front ++ back).toList := by
  rw [String.toList_append]
  exact h.trans (List.prefix_append _ _)

lemma TypeImport.isImportLine_line (type : TypeImport) : isImportLine type.line := by
  have hfront : importKeyword.toList <+: "import type \x7b ".toList := by decide
  refine List.isPrefixOf_iff_prefix.mpr ?_
  exact prefix_toList_append (prefix_toList_append (prefix_toList_append
    (prefix_toList_append hfront _) _) _) _

lemma not_isImportLine {line : String} (h : exportKeyword.toList <+: line.toList) :
    isImportLine line = false := by
  have hapart : ¬exportKeyword.toList <+: importKeyword.toList := by decide
  have hshorter : exportKeyword.toList.length ≤ importKeyword.toList.length := by decide
  rw [Bool.eq_false_iff]
  intro himport
  exact hapart (List.prefix_of_prefix_length_le h (List.isPrefixOf_iff_prefix.mp himport) hshorter)

namespace Declaration

lemma exists_lines_eq (declaration : Declaration) :
    ∃ header rest, declaration.lines = header :: rest ∧
      exportKeyword.toList <+: header.toList := by
  have hinterface : exportKeyword.toList <+: "export interface ".toList := by decide
  have henum : exportKeyword.toList <+: "export enum ".toList := by decide
  have halias : exportKeyword.toList <+: "export type ".toList := by decide
  cases declaration with
  | interface name properties =>
    exact ⟨_, _, rfl, prefix_toList_append (prefix_toList_append hinterface _) _⟩
  | enumeration name members =>
    exact ⟨_, _, rfl, prefix_toList_append (prefix_toList_append henum _) _⟩
  | typeAlias name type =>
    exact ⟨_, _, rfl, prefix_toList_append (prefix_toList_append (prefix_toList_append
      (prefix_toList_append halias _) _) _) _⟩

lemma getLast?_text (declaration : Declaration) :
    declaration.text.toList.getLast? = some '\x7d' ∨
      declaration.text.toList.getLast? = some ';' := by
  cases declaration with
  | interface name properties =>
    have hlast : (interface name properties).lines.getLast? = some closingBrace :=
      List.getLast?_concat ..
    exact Or.inl (getLast?_intercalate "\n" hlast (by decide))
  | enumeration name members =>
    have hlast : (enumeration name members).lines.getLast? = some closingBrace :=
      List.getLast?_concat ..
    exact Or.inl (getLast?_intercalate "\n" hlast (by decide))
  | typeAlias name type =>
    right
    rw [text, lines, String.intercalate_singleton, String.toList_append, List.getLast?_append]
    rfl

end Declaration

section Texts

variable {declarations : List Declaration}

lemma exists_lines_declarations_eq (hdeclarations : declarations ≠ []) :
    ∃ header rest, [""].intercalate (declarations.map Declaration.lines) = header :: rest ∧
      exportKeyword.toList <+: header.toList := by
  obtain ⟨first, others, rfl⟩ := List.exists_cons_of_ne_nil hdeclarations
  obtain ⟨header, rest, hlines, hheader⟩ := first.exists_lines_eq
  refine ⟨header, [""].intercalate (rest :: others.map Declaration.lines), ?_, hheader⟩
  rw [List.map_cons, hlines, List.intercalate_cons_cons_left]

/-- The text of declarations is that of their lines, with an empty line between two declarations. -/
lemma declarationsText_eq_intercalate (declarations : List Declaration) :
    declarationsText declarations =
      "\n".intercalate ([""].intercalate (declarations.map Declaration.lines)) := by
  have hlines : ∀ block ∈ declarations.map Declaration.lines, block ≠ [] := by
    rw [List.forall_mem_map]
    intro declaration _
    obtain ⟨header, rest, hlines, -⟩ := declaration.exists_lines_eq
    rw [hlines]
    exact List.cons_ne_nil header rest
  rw [← blocksText_eq_intercalate hlines, List.map_map]
  rfl

lemma exportKeyword_prefix_declarationsText (hdeclarations : declarations ≠ []) :
    exportKeyword.toList <+: (declarationsText declarations).toList := by
  obtain ⟨header, rest, hlines, hheader⟩ := exists_lines_declarations_eq hdeclarations
  have hfirst : "\n".intercalate (header :: rest) = header ++ "\n".intercalate ("" :: rest) := by
    rw [← String.intercalate_cons_append, String.append_empty]
  rw [declarationsText_eq_intercalate, hlines, hfirst]
  exact prefix_toList_append hheader _

lemma getLast?_declarationsText (hdeclarations : declarations ≠ []) :
    (declarationsText declarations).toList.getLast? ≠ some '\n' := by
  obtain ⟨last, hlast⟩ := Option.isSome_iff_exists.mp (List.getLast?_isSome.mpr hdeclarations)
  have htexts : (declarations.map Declaration.text).getLast? = some last.text := by
    rw [List.getLast?_map, hlast, Option.map_some]
  have hend := last.getLast?_text
  have hne : last.text ≠ "" := by
    intro hempty
    rw [hempty] at hend
    simp at hend
  rw [declarationsText, blocksText, getLast?_intercalate "\n\n" htexts hne]
  rcases hend with h | h
  · rw [h]
    decide
  · rw [h]
    decide

lemma declarationsText_flatMap {units : List DeclarationUnit}
    (h : ∀ unit ∈ units, unit.declarations ≠ []) :
    declarationsText (units.flatMap (·.declarations)) =
      blocksText (units.map fun unit => declarationsText unit.declarations) := by
  induction units with
  | nil => rfl
  | cons unit rest ih =>
    obtain ⟨hunit, hrest⟩ := List.forall_mem_cons.mp h
    have hblocks : unit.declarations.map Declaration.text ≠ [] := by simpa using hunit
    cases rest with
    | nil => simp [declarationsText, blocksText]
    | cons next others =>
      have hlater : ((next :: others).flatMap (·.declarations)).map Declaration.text ≠ [] := by
        simp [List.forall_mem_cons.mp hrest]
      rw [List.flatMap_cons, declarationsText, List.map_append, blocksText,
        String.intercalate_append_of_ne_nil hblocks hlater, List.map_cons, blocksText,
        String.intercalate_cons_of_ne_nil (by simp), ← blocksText, ← declarationsText, ← blocksText,
        ← declarationsText, ih hrest]
      rfl

end Texts

section Separation

variable {imports : List TypeImport} {lines : List String}

/-- The lines of imports and the blank one behind them. -/
def headerLines (imports : List TypeImport) : List String :=
  if imports.isEmpty then [] else imports.map TypeImport.line ++ [""]

lemma importHeader_append (imports : List TypeImport) (hlines : lines ≠ []) :
    importHeader imports ++ "\n".intercalate lines =
      "\n".intercalate (headerLines imports ++ lines) := by
  by_cases hnone : imports = []
  · rw [hnone]
    exact String.empty_append
  · have hsome : ¬imports.isEmpty = true := by simpa using hnone
    have hmap : imports.map TypeImport.line ≠ [] := by simpa using hnone
    have hheader : imports.map TypeImport.line ++ [""] ≠ [] := by simp
    have hblank : "\n\n" = "\n" ++ "" ++ "\n" := rfl
    rw [importHeader, headerLines, if_neg hsome, if_neg hsome,
      String.intercalate_append_of_ne_nil hheader hlines,
      String.intercalate_append_of_ne_nil hmap (List.cons_ne_nil _ _), String.intercalate_singleton,
      hblank, ← String.append_assoc, ← String.append_assoc]

lemma textLines_importHeader_append (hlines : lines ≠ [])
    (himports : ∀ type ∈ imports, OnOneLine type.line) (h : ∀ line ∈ lines, OnOneLine line) :
    textLines (importHeader imports ++ "\n".intercalate lines ++ "\n") =
      headerLines imports ++ lines ++ [""] := by
  have hempty : OnOneLine "" := List.not_mem_nil
  have hne : headerLines imports ++ lines ≠ [] := List.append_ne_nil_of_right_ne_nil _ hlines
  have hend : "\n".intercalate (headerLines imports ++ lines) ++ "\n" =
      "\n".intercalate (headerLines imports ++ lines ++ [""]) := by
    rw [String.intercalate_append_of_ne_nil hne (List.cons_ne_nil _ _),
      String.intercalate_singleton, String.append_empty]
  have hheader : ∀ line ∈ headerLines imports, OnOneLine line := by
    rw [headerLines]
    split
    · exact fun line hline => absurd hline List.not_mem_nil
    · rw [List.forall_mem_append, List.forall_mem_singleton, List.forall_mem_map]
      exact ⟨himports, hempty⟩
  rw [importHeader_append imports hlines, hend]
  refine textLines_intercalate (List.append_ne_nil_of_left_ne_nil hne _) ?_
  rw [List.forall_mem_append, List.forall_mem_append, List.forall_mem_singleton]
  exact ⟨⟨hheader, h⟩, hempty⟩

/-- Imports in front of other lines are told from them. -/
lemma importLines_and_declarationPart (himports : ∀ type ∈ imports, OnOneLine type.line)
    {header : String} {rest : List String} (hheader : isImportLine header = false)
    (h : ∀ line ∈ header :: rest, OnOneLine line) :
    importLines (importHeader imports ++ "\n".intercalate (header :: rest) ++ "\n") =
        imports.map TypeImport.line ∧
      declarationPart (importHeader imports ++ "\n".intercalate (header :: rest) ++ "\n") =
        "\n".intercalate (header :: rest) := by
  have himport : ∀ line ∈ imports.map TypeImport.line, isImportLine line := by
    rw [List.forall_mem_map]
    exact fun type _ => type.isImportLine_line
  have hblank : ¬isImportLine "" = true := by decide
  have hother : ¬isImportLine header = true := by simp [hheader]
  have htext := textLines_importHeader_append (List.cons_ne_nil header rest) himports h
  have hlines : importLines (importHeader imports ++ "\n".intercalate (header :: rest) ++ "\n") =
      imports.map TypeImport.line := by
    rw [importLines, htext, headerLines]
    split
    · next hnone =>
      rw [List.isEmpty_iff.mp hnone, List.nil_append, List.cons_append,
        List.takeWhile_cons_of_neg hother, List.map_nil]
    · rw [List.append_assoc, List.append_assoc, List.takeWhile_append_of_pos himport,
        List.singleton_append, List.takeWhile_cons_of_neg hblank, List.append_nil]
  refine ⟨hlines, ?_⟩
  rw [declarationPart, hlines, htext, List.dropLast_concat, headerLines]
  by_cases hnone : imports = []
  · rw [hnone, List.isEmpty_nil, if_pos rfl, List.nil_append, List.dropWhile_cons_of_neg hother]
    rfl
  · have hsome : ¬imports.isEmpty = true := by simpa using hnone
    have hmap : ¬(imports.map TypeImport.line).isEmpty = true := by simpa using hnone
    rw [if_neg hsome, if_neg hmap, List.append_assoc, List.dropWhile_append_of_pos himport,
      List.singleton_append, List.dropWhile_cons_of_neg hblank, List.drop_one, List.tail_cons]

end Separation

namespace Schema

variable {schema : Schema} {config : Config} {unit : DeclarationUnit} {placed : PlacedUnit}

lemma declarations_ne_nil (hunit : unit ∈ schema.units config) : unit.declarations ≠ [] := by
  rcases List.mem_append.mp hunit with hdefinition | hindex
  · obtain ⟨name, definition, rendered, -, hrendered, rfl⟩ := mem_definitionUnits_iff.mp hdefinition
    obtain ⟨shape, -, rfl⟩ := Option.map_eq_some_iff.mp hrendered
    have hlines := (config.context schema).map_lines_renderAs name definition shape
    intro hnone
    have hnil := hlines.symm.trans (congrArg (List.map Declaration.lines) hnone)
    exact List.append_ne_nil_of_right_ne_nil _ (List.cons_ne_nil _ _) hnil
  · split at hindex
    · rw [List.mem_singleton.mp hindex]
      exact List.cons_ne_nil _ _
    · cases hindex

lemma map_declarationsText_units (schema : Schema) (config : Config) :
    (schema.units config).map (fun unit => declarationsText unit.declarations) =
      schema.declarationTexts config := by
  rw [units, List.map_append, definitionUnits, List.map_filterMap, declarationTexts]
  congr 1
  · refine List.filterMap_congr fun entry _ => ?_
    rw [unit?, Option.map_map]
    rfl
  · split
    · simp [indexUnit, indexText, declarationsText, blocksText]
    · rfl

/-- The one file with everything is made of the texts of all declarations, whatever the mode. -/
lemma content_singleFile_eq (schema : Schema) (config : Config) :
    (schema.singleFile config).content = blocksText (schema.declarationTexts config) ++ "\n" := by
  have hne : ∀ unit ∈ schema.units config, unit.declarations ≠ [] :=
    fun unit hunit => declarations_ne_nil hunit
  rw [← map_declarationsText_units, ← declarationsText_flatMap hne]
  rfl

lemma content_sourceFile (hplaced : placed ∈ schema.placedUnits config) (others : List PlacedUnit) :
    (placed.sourceFile others).content =
      importHeader (placed.sourceFile others).imports ++
        declarationsText placed.unit.declarations ++ "\n" := by
  have hne := declarations_ne_nil (unit_mem_units hplaced)
  have htexts : (placed.sourceFile others).declarations.map Declaration.text ≠ [] :=
    fun hnil => hne (List.map_eq_nil_iff.mp hnil)
  rw [SourceFile.content, SourceFile.blocks, importBlock, importHeader]
  split
  · rw [List.nil_append, String.empty_append]
    rfl
  · rw [blocksText, List.singleton_append, String.intercalate_cons_of_ne_nil htexts]
    rfl

section OneLine

variable (hprefixed : OnOneLine config.interfacePrefix)

include hprefixed

lemma onOneLine_unit_name (hunit : unit ∈ schema.units config) : OnOneLine unit.name :=
  not_mem_name_of_mem_units hunit isAllowed_lineFeed hprefixed

lemma onOneLine_stem (hplaced : placed ∈ schema.placedUnits config) : OnOneLine placed.stem :=
  not_mem_stem hplaced isAllowed_lineFeed hprefixed

lemma onOneLine_import :
    ∀ type ∈ (placed.sourceFile (schema.placedUnits config)).imports, OnOneLine type.line := by
  intro type htype
  obtain ⟨_, -, other, hfind, -, -, rfl⟩ := PlacedUnit.exists_reference_of_mem_importsOf htype
  obtain ⟨hother, -⟩ := find?_eq_some_iff.mp hfind
  have hname := onOneLine_unit_name hprefixed (unit_mem_units hother)
  have hfront := onOneLine_append.mpr
    ⟨onOneLine_append.mpr ⟨(by decide : OnOneLine "import type \x7b "), hname⟩,
      (by decide : OnOneLine " \x7d from \"./")⟩
  exact onOneLine_append.mpr ⟨onOneLine_append.mpr ⟨hfront, onOneLine_stem hprefixed hother⟩,
    (by decide : OnOneLine "\";")⟩

lemma isTextBlock_lines (hunit : unit ∈ schema.units config) :
    ∀ declaration ∈ unit.declarations, IsTextBlock declaration.lines := by
  intro declaration hdeclaration
  apply isTextBlock_blocks schema hprefixed
  rw [← map_lines_singleFile]
  exact List.mem_map_of_mem (List.mem_flatMap.mpr ⟨unit, hunit, hdeclaration⟩)

/-- The text of a file tells its imports from its declarations. -/
lemma importLines_and_declarationPart_content (hplaced : placed ∈ schema.placedUnits config) :
    let file := placed.sourceFile (schema.placedUnits config)
    importLines file.content = file.imports.map TypeImport.line ∧
      declarationPart file.content = declarationsText placed.unit.declarations := by
  intro file
  have hunit := unit_mem_units hplaced
  obtain ⟨header, rest, hlines, hheader⟩ :=
    exists_lines_declarations_eq (declarations_ne_nil hunit)
  have honeLine : ∀ line ∈ header :: rest, OnOneLine line := by
    rw [← hlines]
    intro line hline
    rcases mem_intercalate_blank hline with rfl | ⟨block, hblock, hmem⟩
    · exact List.not_mem_nil
    · obtain ⟨declaration, hdeclaration, rfl⟩ := List.mem_map.mp hblock
      exact (isTextBlock_lines hprefixed hunit declaration hdeclaration).lines_onOneLine line hmem
  have htext := declarationsText_eq_intercalate placed.unit.declarations
  rw [hlines] at htext
  have himports : ∀ type ∈ file.imports, OnOneLine type.line := onOneLine_import hprefixed
  have hseparate := importLines_and_declarationPart himports (not_isImportLine hheader) honeLine
  rw [← htext, ← content_sourceFile hplaced] at hseparate
  exact hseparate

end OneLine

/-- The files of the definitions and the one file with everything hold the same texts in the same
order. In front of its text a file has its imports and a blank line, and no text can be taken for
imports. -/
theorem split_files_hold_single_file (schema : Schema) (config : Config) :
    let files := schema.sourceFiles { config with mode := .perDefinition }
    let texts := schema.declarationTexts config
    List.Forall₂ (fun file text =>
        file.document.content = importHeader file.imports ++ text ++ "\n" ∧
        exportKeyword.toList <+: text.toList ∧ text.toList.getLast? ≠ some '\n') files texts ∧
    schema.documents { config with mode := .single } =
      [⟨singleFileName, blocksText texts ++ "\n"⟩] ∧
    (schema.singleFile config).content = blocksText texts ++ "\n" ∧
    ('\n' ∉ config.interfacePrefix.toList →
      (∀ file ∈ files, importLines file.document.content = file.imports.map TypeImport.line) ∧
      files.map (fun file => declarationPart file.document.content) = texts) := by
  intro files texts
  let split := { config with mode := OutputMode.perDefinition }
  have htexts : texts = (schema.placedUnits split).map fun placed =>
      declarationsText placed.unit.declarations := by
    change schema.declarationTexts split = _
    rw [← map_declarationsText_units, ← map_unit_placedUnits, List.map_map]
    rfl
  have hfiles : files =
      (schema.placedUnits split).map (PlacedUnit.sourceFile (schema.placedUnits split)) := rfl
  have hsingle : (schema.singleFile config).content = blocksText texts ++ "\n" :=
    content_singleFile_eq schema config
  refine ⟨?_, ?_, hsingle, fun hprefixed => ⟨?_, ?_⟩⟩
  · rw [hfiles, htexts, List.forall₂_map_left_iff, List.forall₂_map_right_iff, List.forall₂_same]
    intro placed hplaced
    have hne := declarations_ne_nil (unit_mem_units hplaced)
    exact ⟨content_sourceFile hplaced _, exportKeyword_prefix_declarationsText hne,
      getLast?_declarationsText hne⟩
  · change [Document.mk singleFileName (schema.singleFile config).content] = _
    rw [hsingle]
  · have hsplit : OnOneLine split.interfacePrefix := hprefixed
    rw [hfiles, List.forall_mem_map]
    exact fun placed hplaced => (importLines_and_declarationPart_content hsplit hplaced).1
  · have hsplit : OnOneLine split.interfacePrefix := hprefixed
    rw [hfiles, htexts, List.map_map]
    exact List.map_congr_left fun placed hplaced =>
      (importLines_and_declarationPart_content hsplit hplaced).2

/-- The files of two entities and their index without imports, put together again. -/
theorem split_books_hold_single_file :
    let books := Definition.entity (.ofList [("author", .association "Authors" .toOne)])
    let schema := Schema.ofDefinitions (.ofList [("Books", books), ("Authors", .entity .empty)])
    let config : Config := { interfacePrefix := "I", mode := .perDefinition, entityIndex := true }
    '\n' ∉ config.interfacePrefix.toList ∧
      (schema.documents config).map (fun document => importLines document.content) =
        [["import type \x7b IAuthors \x7d from \"./IAuthors\";"], [], []] ∧
      blocksText ((schema.documents config).map fun document => declarationPart document.content) ++
        "\n" = (schema.singleFile config).content := by
  intro books schema config
  have hprefixed : '\n' ∉ config.interfacePrefix.toList := by decide
  obtain ⟨-, -, hsingle, hseparate⟩ := split_files_hold_single_file schema config
  obtain ⟨himports, hparts⟩ := hseparate hprefixed
  have hlines : (schema.sourceFiles config).map (fun file => file.imports.map TypeImport.line) =
      [["import type \x7b IAuthors \x7d from \"./IAuthors\";"], [], []] := by
    decide +kernel
  refine ⟨hprefixed, ?_, ?_⟩
  · rw [← hlines, documents, List.map_map]
    exact List.map_congr_left himports
  · rw [hsingle, ← hparts, documents, List.map_map]
    rfl

end Schema

end CdsDeclarations
