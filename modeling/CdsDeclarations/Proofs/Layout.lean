import CdsDeclarations.Generation.SourceFile
import CdsDeclarations.Proofs.LineFeeds
import CdsDeclarations.Proofs.Units

/-!
# Layout of the one file

The text of the one file is read back as its blocks: for every declared definition the enums of its
fields and the definition itself, and the index after all of them. A block has a header and a closing
brace with one line for each field or member between them, or is the one line of an alias. No text of
the model can add or remove a line.
-/

namespace CdsDeclarations

open Identifier

/-- The lines of an enum: one for each member between the header and the closing brace. -/
def enumBlock (name : String) (type : Option String) (members : List (String × EnumValue)) :
    List String :=
  ("export enum " ++ name ++ " \x7b") ::
    members.map (fun member => (renderMember (type.any ScalarType.isNumericTag) member).line) ++
      ["\x7d"]

namespace Context

/-- The lines of an interface: one for each field between the header and the closing brace. -/
def interfaceBlock (context : Context) (name : String) (fields : List (String × Element)) :
    List String :=
  ("export interface " ++ context.declarationName name .interface ++ " \x7b") ::
    fields.map (fun field => (context.property name field).line) ++ ["\x7d"]

/-- The one line of an alias. -/
def aliasBlock (context : Context) (name : String) (underlying : Element) : List String :=
  ["export type " ++ context.declarationName name .typeAlias ++ " = " ++
    (context.typeExpression (.ofElement underlying)).text ++ ";"]

/-- The lines of the declaration that stands for a definition itself. -/
def mainBlock (context : Context) (name : String) (definition : Definition) : Shape → List String
  | .interface => context.interfaceBlock name definition.fields
  | .enumeration =>
    enumBlock (context.declarationName name .enumeration) definition.type
      (definition.members.elim [] (·.entries))
  | .typeAlias => context.aliasBlock name definition.underlying

end Context

/-- The lines of the enum of a field, if it has one. -/
def fieldEnumBlock? (owner : String) (field : String × Element) : Option (List String) :=
  field.2.enumCarrier?.map fun carrier =>
    enumBlock (ofQualified (ResolvedType.inlineEnumName owner field.1)) carrier.type
      (carrier.members.elim [] (·.entries))

/-- The blocks of a definition: in an interface the enums of its fields come first. -/
def Context.definitionBlocks (context : Context) (entry : String × Definition) :
    List (List String) :=
  match Shape.of? entry.2 with
  | none => []
  | some shape =>
    (if shape = .interface then entry.2.fields.filterMap (fieldEnumBlock? entry.1) else []) ++
      [context.mainBlock entry.1 entry.2 shape]

/-- The blocks of a model in the order of its definitions, and the index after them. -/
def Schema.blocks (schema : Schema) (config : Config) : List (List String) :=
  schema.definitions.entries.flatMap (config.context schema).definitionBlocks ++
    if config.entityIndex then
      [enumBlock (schema.indexName config) none schema.indexMembers.entries]
    else []

lemma lines_renderEnum (name : String) (type : Option String) (members : Option EnumMembers) :
    (renderEnum name type members).lines =
      enumBlock (ofQualified name) type (members.elim [] (·.entries)) := by
  rw [renderEnum, Declaration.lines, List.map_map]
  rfl

lemma Context.map_lines_renderAs (context : Context) (name : String) (definition : Definition)
    (shape : Shape) :
    (context.renderAs name definition shape).declarations.map Declaration.lines =
      (if shape = .interface then definition.fields.filterMap (fieldEnumBlock? name) else []) ++
        [context.mainBlock name definition shape] := by
  cases shape with
  | interface =>
    have henum (field : String × Element) :
        (fieldEnum? name field.1 field.2).map Declaration.lines = fieldEnumBlock? name field := by
      rw [fieldEnum?, Option.map_map, fieldEnumBlock?]
      exact Option.map_congr fun carrier _ => lines_renderEnum _ carrier.type carrier.members
    have hmain : (context.renderInterface name definition).lines =
        context.mainBlock name definition .interface := by
      rw [renderInterface, Declaration.lines, List.map_map]
      rfl
    change (context.renderStructured name definition).map Declaration.lines = _
    rw [renderStructured, List.map_append, List.map_filterMap, List.map_singleton, hmain, if_pos rfl]
    simp only [henum]
  | enumeration =>
    exact congrArg ([·]) (lines_renderEnum name definition.type definition.members)
  | typeAlias => rfl

lemma map_lines_definitionUnits (context : Context) (entries : List (String × Definition)) :
    ((entries.filterMap (Schema.unit? context)).flatMap (·.declarations)).map Declaration.lines =
      entries.flatMap context.definitionBlocks := by
  induction entries with
  | nil => rfl
  | cons entry rest ih =>
    rw [List.filterMap_cons, List.flatMap_cons, Context.definitionBlocks, Schema.unit?,
      Context.render?]
    cases Shape.of? entry.2 with
    | none => exact ih
    | some shape =>
      simp only [Option.map_some, List.flatMap_cons, List.map_append, ih]
      exact congrArg (· ++ _) (context.map_lines_renderAs entry.1 entry.2 shape)

namespace Schema

lemma map_lines_singleFile (schema : Schema) (config : Config) :
    (schema.singleFile config).declarations.map Declaration.lines = schema.blocks config := by
  rw [singleFile, units, List.flatMap_append, List.map_append, definitionUnits,
    map_lines_definitionUnits, blocks]
  split
  · have hindex := lines_renderEnum (schema.indexName config) none (some schema.indexMembers)
    rw [ofQualified_indexName] at hindex
    exact congrArg (_ ++ [·]) hindex
  · rfl

lemma content_singleFile (schema : Schema) (config : Config) :
    (schema.singleFile config).content =
      blocksText ((schema.blocks config).map "\n".intercalate) ++ "\n" := by
  rw [← map_lines_singleFile, List.map_map]
  rfl

end Schema

lemma isTextBlock_of_lines {header : String} {body : List String}
    (hheader : header ≠ "" ∧ OnOneLine header) (hbody : ∀ line ∈ body, line ≠ "" ∧ OnOneLine line) :
    IsTextBlock (header :: body ++ ["\x7d"]) := by
  have hlines : ∀ line ∈ header :: body ++ ["\x7d"], line ≠ "" ∧ OnOneLine line := by
    rw [List.cons_append, List.forall_mem_cons, List.forall_mem_append]
    exact ⟨hheader, hbody, by decide⟩
  exact ⟨List.cons_ne_nil _ _, fun line hline => (hlines line hline).1,
    fun line hline => (hlines line hline).2⟩

lemma isTextBlock_enumBlock {name : String} (hname : OnOneLine name) (type : Option String)
    (members : List (String × EnumValue)) : IsTextBlock (enumBlock name type members) := by
  refine isTextBlock_of_lines ⟨by simp, ?_⟩ ?_
  · simp only [onOneLine_append]
    exact ⟨⟨by decide, hname⟩, by decide⟩
  · intro line hline
    obtain ⟨member, -, rfl⟩ := List.mem_map.mp hline
    exact ⟨by simp [EnumMember.line], onOneLine_memberLine (onOneLine_sanitize member.1)⟩

lemma isTextBlock_fieldEnumBlock {owner : String} {field : String × Element} {block : List String}
    (h : fieldEnumBlock? owner field = some block) : IsTextBlock block := by
  obtain ⟨carrier, -, rfl⟩ := Option.map_eq_some_iff.mp h
  exact isTextBlock_enumBlock (onOneLine_ofQualified _) carrier.type _

namespace Context

variable {context : Context}

lemma isTextBlock_interfaceBlock (hprefixed : OnOneLine context.interfacePrefix) (name : String)
    (fields : List (String × Element)) : IsTextBlock (context.interfaceBlock name fields) := by
  refine isTextBlock_of_lines ⟨by simp, ?_⟩ ?_
  · simp only [onOneLine_append]
    exact ⟨⟨by decide, onOneLine_interfaceName hprefixed name⟩, by decide⟩
  · intro line hline
    obtain ⟨field, -, rfl⟩ := List.mem_map.mp hline
    refine ⟨by simp [Property.line], onOneLine_propertyLine (onOneLine_sanitize field.1) ?_⟩
    exact onOneLine_headName_ofField hprefixed name field.1 field.2

lemma isTextBlock_aliasBlock (hprefixed : OnOneLine context.interfacePrefix) (name : String)
    (underlying : Element) : IsTextBlock (context.aliasBlock name underlying) := by
  have htype : OnOneLine (context.typeExpression (.ofElement underlying)).text :=
    onOneLine_typeText (onOneLine_headName_ofElement hprefixed underlying)
  refine ⟨List.cons_ne_nil _ _, ?_, ?_⟩
  · intro line hline
    rw [List.mem_singleton.mp hline]
    simp
  · intro line hline
    rw [List.mem_singleton.mp hline]
    simp only [onOneLine_append]
    exact ⟨⟨⟨⟨by decide, onOneLine_ofQualified name⟩, by decide⟩, htype⟩, by decide⟩

lemma isTextBlock_definitionBlocks (hprefixed : OnOneLine context.interfacePrefix)
    (entry : String × Definition) : ∀ block ∈ context.definitionBlocks entry, IsTextBlock block := by
  rw [definitionBlocks]
  cases Shape.of? entry.2 with
  | none => exact fun block hblock => absurd hblock List.not_mem_nil
  | some shape =>
    simp only [List.forall_mem_append, List.forall_mem_singleton]
    constructor
    · split
      · intro block hblock
        obtain ⟨field, -, hfield⟩ := List.mem_filterMap.mp hblock
        exact isTextBlock_fieldEnumBlock hfield
      · exact fun block hblock => absurd hblock List.not_mem_nil
    · cases shape with
      | interface => exact isTextBlock_interfaceBlock hprefixed entry.1 entry.2.fields
      | enumeration => exact isTextBlock_enumBlock (onOneLine_ofQualified entry.1) entry.2.type _
      | typeAlias => exact isTextBlock_aliasBlock hprefixed entry.1 entry.2.underlying

end Context

namespace Schema

lemma isTextBlock_blocks (schema : Schema) {config : Config}
    (hprefixed : OnOneLine config.interfacePrefix) :
    ∀ block ∈ schema.blocks config, IsTextBlock block := by
  have hcontext : OnOneLine (config.context schema).interfacePrefix := hprefixed
  rw [blocks, List.forall_mem_append]
  constructor
  · intro block hblock
    obtain ⟨entry, -, hentry⟩ := List.mem_flatMap.mp hblock
    exact Context.isTextBlock_definitionBlocks hcontext entry block hentry
  · split
    · rw [List.forall_mem_singleton, ← ofQualified_indexName]
      exact isTextBlock_enumBlock (onOneLine_ofQualified _) none _
    · exact fun block hblock => absurd hblock List.not_mem_nil

/-- The text of the one file ends in a single line feed. Without it the text is read back as exactly
the blocks of the model, in which no line is empty or holds a line feed. -/
theorem single_file_layout (schema : Schema) (config : Config) (hmode : config.mode = .single)
    (hprefixed : '\n' ∉ config.interfacePrefix.toList) :
    ∃ body, schema.documents config = [⟨singleFileName, body ++ "\n"⟩] ∧
      body.toList.getLast? ≠ some '\n' ∧
      (schema.blocks config = [] → body = "") ∧
      (schema.blocks config ≠ [] → textBlocks body = schema.blocks config) ∧
      ∀ block ∈ schema.blocks config,
        block ≠ [] ∧ ∀ line ∈ block, line ≠ "" ∧ '\n' ∉ line.toList := by
  have hblocks := schema.isTextBlock_blocks hprefixed
  refine ⟨blocksText ((schema.blocks config).map "\n".intercalate), ?_, ?_, ?_, ?_, ?_⟩
  · rw [documents, sourceFiles, hmode, ← content_singleFile]
    rfl
  · exact getLast?_blocksText_ne hblocks
  · intro hnone
    rw [hnone]
    rfl
  · exact fun hsome => textBlocks_blocksText hsome hblocks
  · intro block hblock
    have htext := hblocks block hblock
    exact ⟨htext.nonempty, fun line hline =>
      ⟨htext.lines_nonempty line hline, htext.lines_onOneLine line hline⟩⟩

/-- Line feeds, quotes and braces in names and values leave the two blocks of a model as they are. -/
theorem layout_of_broken_lines :
    let status := Element.withEnum none (.ofList [("a\n\nb", .text "\n\n\x7d")])
    let schema := Schema.ofDefinitions
      (.ofList [("my.\n\nBooks\"", .entity (.ofList [("st\natus", status)]))])
    let config : Config := { interfacePrefix := "I" }
    config.mode = .single ∧ '\n' ∉ config.interfacePrefix.toList ∧
      ∃ body, schema.documents config = [⟨singleFileName, body ++ "\n"⟩] ∧
        body.toList.getLast? ≠ some '\n' ∧
        textBlocks body =
          [["export enum __Books_St_atus \x7b", "    a__b = \"\\n\\n\x7d\",", "\x7d"],
            ["export interface I__Books_ \x7b", "    st_atus: __Books_St_atus;", "\x7d"]] := by
  intro status schema config
  have hprefixed : '\n' ∉ config.interfacePrefix.toList := by decide
  have hblocks : schema.blocks config =
      [["export enum __Books_St_atus \x7b", "    a__b = \"\\n\\n\x7d\",", "\x7d"],
        ["export interface I__Books_ \x7b", "    st_atus: __Books_St_atus;", "\x7d"]] := by
    decide +kernel
  obtain ⟨body, hdocuments, hend, -, hread, -⟩ := single_file_layout schema config rfl hprefixed
  rw [hblocks] at hread
  exact ⟨rfl, hprefixed, body, hdocuments, hend, hread (List.cons_ne_nil _ _)⟩

end Schema

end CdsDeclarations
