import CdsDeclarations.Proofs.FileNames
import CdsDeclarations.Proofs.References
import CdsDeclarations.Proofs.Units

/-!
# Imports

The file of a unit imports the units of the collected references that lie in other files. Together
with what is known about collecting, this says which of the written names are imported.
-/

namespace CdsDeclarations

open Identifier

namespace PlacedUnit

/-- A reference adds an import for a unit that is not known and not imported, and nothing else. -/
lemma importsOf_cons_cases (placed : PlacedUnit) (units : List PlacedUnit) (imported : List String)
    (reference : String) (rest : List String) :
    (placed.importsOf units imported (reference :: rest) = placed.importsOf units imported rest ∧
      ∀ other, find? units reference = some other →
        placed.knows other ∨ other.unit.name ∈ imported) ∨
    ∃ other, find? units reference = some other ∧ placed.knows other = false ∧
      other.unit.name ∉ imported ∧
      placed.importsOf units imported (reference :: rest) =
        ⟨other.unit.name, other.stem⟩ ::
          placed.importsOf units (other.unit.name :: imported) rest := by
  rw [importsOf]
  cases hfind : find? units reference with
  | none => exact Or.inl ⟨rfl, fun other hother => by cases hother⟩
  | some other =>
    simp only
    split
    · next hknown =>
      rw [Bool.or_eq_true, List.contains_iff_mem] at hknown
      exact Or.inl ⟨rfl, fun found hfound => Option.some.inj hfound ▸ hknown⟩
    · next hnew =>
      rw [Bool.or_eq_true, List.contains_iff_mem, not_or, Bool.not_eq_true] at hnew
      exact Or.inr ⟨other, rfl, hnew.1, hnew.2, rfl⟩

lemma exists_reference_of_mem_importsOf {placed : PlacedUnit} {units : List PlacedUnit}
    {imported references : List String} {line : TypeImport}
    (hline : line ∈ placed.importsOf units imported references) :
    ∃ reference ∈ references, ∃ other, find? units reference = some other ∧
      placed.knows other = false ∧ other.unit.name ∉ imported ∧
      line = ⟨other.unit.name, other.stem⟩ := by
  induction references generalizing imported with
  | nil => cases hline
  | cons reference rest ih =>
    rcases importsOf_cons_cases placed units imported reference rest with
      ⟨hskip, -⟩ | ⟨other, hfind, hknows, hnew, hadd⟩
    · rw [hskip] at hline
      obtain ⟨found, hfound, hrest⟩ := ih hline
      exact ⟨found, List.mem_cons_of_mem _ hfound, hrest⟩
    · rw [hadd] at hline
      rcases List.mem_cons.mp hline with rfl | hline
      · exact ⟨reference, List.mem_cons_self, other, hfind, hknows, hnew, rfl⟩
      · obtain ⟨found, hfound, target, htarget, hunknown, hfresh, hsame⟩ := ih hline
        refine ⟨found, List.mem_cons_of_mem _ hfound, target, htarget, hunknown, ?_, hsame⟩
        exact fun hmem => hfresh (List.mem_cons_of_mem _ hmem)

lemma importsOf_names_nodup (placed : PlacedUnit) (units : List PlacedUnit)
    (imported references : List String) :
    ((placed.importsOf units imported references).map (·.name)).Nodup := by
  induction references generalizing imported with
  | nil => exact List.nodup_nil
  | cons reference rest ih =>
    rcases importsOf_cons_cases placed units imported reference rest with
      ⟨hskip, -⟩ | ⟨other, -, -, -, hadd⟩
    · rw [hskip]
      exact ih imported
    · rw [hadd]
      refine List.nodup_cons.mpr ⟨fun hmem => ?_, ih (other.unit.name :: imported)⟩
      obtain ⟨line, hline, hname⟩ := List.mem_map.mp hmem
      obtain ⟨_, -, target, -, -, hfresh, rfl⟩ := exists_reference_of_mem_importsOf hline
      exact hfresh (List.mem_cons.mpr (Or.inl hname))

lemma name_mem_importsOf {placed other : PlacedUnit} {units : List PlacedUnit}
    {imported references : List String} {reference : String} (hreference : reference ∈ references)
    (hfind : find? units reference = some other) (hknows : placed.knows other = false)
    (hnew : other.unit.name ∉ imported) :
    other.unit.name ∈ (placed.importsOf units imported references).map (·.name) := by
  induction references generalizing imported with
  | nil => cases hreference
  | cons first rest ih =>
    rcases importsOf_cons_cases placed units imported first rest with
      ⟨hskip, hknown⟩ | ⟨target, htarget, -, -, hadd⟩
    · rw [hskip]
      rcases List.mem_cons.mp hreference with rfl | hrest
      · rcases hknown other hfind with h | h
        · rw [hknows] at h
          cases h
        · exact absurd h hnew
      · exact ih hrest hnew
    · rw [hadd, List.map_cons, List.mem_cons]
      by_cases hname : other.unit.name = target.unit.name
      · exact Or.inl hname
      · rcases List.mem_cons.mp hreference with rfl | hrest
        · obtain rfl : other = target := Option.some.inj (hfind.symm.trans htarget)
          exact absurd rfl hname
        · exact Or.inr (ih hrest (List.not_mem_cons_of_ne_of_not_mem hname hnew))

end PlacedUnit

namespace Schema

variable {schema : Schema} {config : Config} {placed other : PlacedUnit}

lemma map_unit_placedUnits (schema : Schema) (config : Config) :
    (schema.placedUnits config).map (·.unit) = schema.units config :=
  map_unit_placeUnits [] (schema.units config)

lemma unit_mem_units (hplaced : placed ∈ schema.placedUnits config) :
    placed.unit ∈ schema.units config := by
  rw [← map_unit_placedUnits]
  exact List.mem_map_of_mem hplaced

lemma not_mem_stem (hplaced : placed ∈ schema.placedUnits config) {c : Char}
    (hc : isAllowed c = false) (hprefixed : c ∉ config.interfacePrefix.toList) :
    c ∉ placed.stem.toList := by
  have hname := not_mem_name_of_mem_units (unit_mem_units hplaced) hc hprefixed
  rcases stem_cases_of_mem_placeUnits hplaced with hstem | ⟨number, hstem⟩
  · rw [hstem]
    exact hname
  · rw [hstem, toList_numbered, List.mem_append, List.mem_cons, not_or, not_or]
    refine ⟨hname, ?_, fun hmem => ?_⟩
    · rintro rfl
      exact Bool.false_ne_true (hc.symm.trans isAllowed_underscore)
    · exact Bool.false_ne_true (hc.symm.trans (isAllowed_of_mem_toDigits hmem))

lemma eq_of_stem_eq (hplaced : placed ∈ schema.placedUnits config)
    (hother : other ∈ schema.placedUnits config) (h : other.stem = placed.stem) :
    other = placed := by
  have hstems : (schema.stems config).Nodup := .of_map lowercase (lowercase_stems_nodup schema config)
  exact List.inj_on_of_nodup_map hstems hother hplaced h

lemma eq_of_modelName_eq (hplaced : placed ∈ schema.placedUnits config)
    (hother : other ∈ schema.placedUnits config)
    (h : other.unit.modelName = placed.unit.modelName) : other = placed := by
  have hnames := modelNames_nodup schema config
  rw [← map_unit_placedUnits, List.map_map] at hnames
  exact List.inj_on_of_nodup_map hnames hother hplaced h

lemma eq_of_name_eq (hnames : ((schema.definitionUnits config).map (·.name)).Nodup)
    (hplaced : placed ∈ schema.placedUnits config) (hother : other ∈ schema.placedUnits config)
    (h : other.unit.name = placed.unit.name) : other = placed := by
  rw [← names_units_nodup_iff, ← map_unit_placedUnits, List.map_map] at hnames
  exact List.inj_on_of_nodup_map hnames hother hplaced h

lemma find?_eq_some_iff {reference : String} :
    PlacedUnit.find? (schema.placedUnits config) reference = some other ↔
      other ∈ schema.placedUnits config ∧ other.unit.modelName = some reference := by
  rw [PlacedUnit.find?]
  constructor
  · intro hfind
    exact ⟨List.mem_of_find?_eq_some hfind, by simpa using List.find?_some hfind⟩
  · rintro ⟨hother, hname⟩
    have hsome : ((schema.placedUnits config).find? fun placed =>
        decide (placed.unit.modelName = some reference)).isSome :=
      List.find?_isSome.mpr ⟨other, hother, decide_eq_true hname⟩
    obtain ⟨found, hfound⟩ := Option.isSome_iff_exists.mp hsome
    have hfoundName : found.unit.modelName = some reference := by
      simpa using List.find?_some hfound
    have hsame : found = other :=
      eq_of_modelName_eq hother (List.mem_of_find?_eq_some hfound) (hfoundName.trans hname.symm)
    rw [hfound, hsame]

lemma knows_eq_false_iff (hnames : ((schema.definitionUnits config).map (·.name)).Nodup)
    (hplaced : placed ∈ schema.placedUnits config) (hother : other ∈ schema.placedUnits config) :
    placed.knows other = false ↔ other ≠ placed := by
  rw [PlacedUnit.knows, Bool.or_eq_false_iff, decide_eq_false_iff_not, decide_eq_false_iff_not]
  constructor
  · rintro ⟨hstem, -⟩ rfl
    exact hstem rfl
  · intro hne
    exact ⟨fun h => hne (eq_of_stem_eq hplaced hother h),
      fun h => hne (eq_of_name_eq hnames hplaced hother h)⟩

lemma mem_imports_iff (hnames : ((schema.definitionUnits config).map (·.name)).Nodup)
    (hplaced : placed ∈ schema.placedUnits config) (hother : other ∈ schema.placedUnits config)
    (hne : other ≠ placed) {reference : String} (hreference : other.unit.modelName = some reference) :
    ⟨other.unit.name, other.stem⟩ ∈ (placed.sourceFile (schema.placedUnits config)).imports ↔
      reference ∈ placed.unit.references := by
  rw [PlacedUnit.sourceFile]
  constructor
  · intro hline
    obtain ⟨found, hfound, target, htarget, -, -, hsame⟩ :=
      PlacedUnit.exists_reference_of_mem_importsOf hline
    obtain ⟨hmem, hname⟩ := find?_eq_some_iff.mp htarget
    obtain rfl : other = target := eq_of_stem_eq hmem hother (congrArg TypeImport.stem hsame)
    obtain rfl : reference = found := Option.some.inj (hreference.symm.trans hname)
    exact hfound
  · intro hmem
    have hfind := find?_eq_some_iff.mpr ⟨hother, hreference⟩
    have hknows := (knows_eq_false_iff hnames hplaced hother).mpr hne
    have himported : other.unit.name ∈
        (placed.importsOf (schema.placedUnits config) [] placed.unit.references).map (·.name) :=
      PlacedUnit.name_mem_importsOf hmem hfind hknows List.not_mem_nil
    obtain ⟨line, hline, hname⟩ := List.mem_map.mp himported
    obtain ⟨_, -, target, htarget, -, -, rfl⟩ := PlacedUnit.exists_reference_of_mem_importsOf hline
    obtain rfl : target = other :=
      eq_of_name_eq hnames hother (find?_eq_some_iff.mp htarget).1 hname
    exact hline

end Schema

lemma exists_placed_of_render? {schema : Schema} {config : Config} {name : String}
    {definition : Definition} {rendered : Rendered}
    (hentry : (name, definition) ∈ schema.definitions.entries)
    (hrendered : (config.context schema).render? name definition = some rendered) :
    ∃ placed ∈ schema.placedUnits config,
      placed.unit = ⟨some name, rendered.name, rendered.references, rendered.declarations⟩ := by
  have hunit := Schema.mem_definitionUnits_iff.mpr ⟨name, definition, rendered, hentry, hrendered, rfl⟩
  have hmem := List.mem_append_left (if config.entityIndex then [schema.indexUnit config] else []) hunit
  rw [← Schema.units, ← Schema.map_unit_placedUnits] at hmem
  exact List.mem_map.mp hmem

/-- What the declarations of a definition refer to is collected, and is imported from the file of
another definition, exactly if it is neither overlooked nor collected idly. -/
theorem collected_and_imported_as_written_iff (schema : Schema) (config : Config) (name : String)
    (definition : Definition) (rendered : Rendered)
    (hrendered : (config.context schema).render? name definition = some rendered) :
    rendered.declarations.flatMap Declaration.types =
      (definition.writtenTypes name rendered.shape).map (config.context schema).typeExpression ∧
    (∀ reference,
      (reference ∈ rendered.references ↔
        reference ∈ definition.writtenReferences name rendered.shape) ↔
      ¬definition.Overlooks rendered.shape reference ∧
        ¬definition.CollectsIdly rendered.shape reference) ∧
    ((name, definition) ∈ schema.definitions.entries → config.mode = .perDefinition →
      ((schema.definitionUnits config).map (·.name)).Nodup →
      ∃ placed ∈ schema.placedUnits config, ∃ file ∈ schema.sourceFiles config,
        placed.unit.modelName = some name ∧ file.fileName = placed.stem ++ fileSuffix ∧
        file.declarations = rendered.declarations ∧
        (∀ line ∈ file.imports, ∃ other ∈ schema.placedUnits config, other ≠ placed ∧
          line = ⟨other.unit.name, other.stem⟩ ∧
          ∃ reference ∈ rendered.references, other.unit.modelName = some reference) ∧
        ∀ other ∈ schema.placedUnits config, other ≠ placed →
          ∀ reference, other.unit.modelName = some reference →
            ((⟨other.unit.name, other.stem⟩ ∈ file.imports ↔
              reference ∈ definition.writtenReferences name rendered.shape) ↔
            ¬definition.Overlooks rendered.shape reference ∧
              ¬definition.CollectsIdly rendered.shape reference)) := by
  have hagree : ∀ reference, (reference ∈ rendered.references ↔
        reference ∈ definition.writtenReferences name rendered.shape) ↔
      ¬definition.Overlooks rendered.shape reference ∧
        ¬definition.CollectsIdly rendered.shape reference := by
    obtain ⟨shape, -, rfl⟩ := Option.map_eq_some_iff.mp hrendered
    exact Context.references_agree_iff (config.context schema) name definition shape
  refine ⟨?_, hagree, fun hentry hmode hnames => ?_⟩
  · obtain ⟨shape, -, rfl⟩ := Option.map_eq_some_iff.mp hrendered
    exact Context.types_renderAs (config.context schema) name definition shape
  obtain ⟨placed, hplaced, hunit⟩ := exists_placed_of_render? hentry hrendered
  have hreferences : placed.unit.references = rendered.references := by rw [hunit]
  have hfile : placed.sourceFile (schema.placedUnits config) ∈ schema.sourceFiles config := by
    rw [Schema.sourceFiles, hmode]
    exact List.mem_map_of_mem hplaced
  refine ⟨placed, hplaced, _, hfile, ?_, rfl, ?_, ?_, ?_⟩
  · rw [hunit]
  · rw [PlacedUnit.sourceFile, hunit]
  · intro line hline
    obtain ⟨reference, hreference, other, hfind, hknows, -, hsame⟩ :=
      PlacedUnit.exists_reference_of_mem_importsOf hline
    obtain ⟨hother, hname⟩ := Schema.find?_eq_some_iff.mp hfind
    rw [hreferences] at hreference
    exact ⟨other, hother, (Schema.knows_eq_false_iff hnames hplaced hother).mp hknows, hsame,
      reference, hreference, hname⟩
  · intro other hother hne reference hreference
    rw [Schema.mem_imports_iff hnames hplaced hother hne hreference, hreferences]
    exact hagree reference

theorem author_of_books_imported :
    let books := Definition.entity (.ofList [("author", .association "Authors" .toOne)])
    let schema := Schema.ofDefinitions (.ofList [("Books", books), ("Authors", .entity .empty)])
    let config : Config := { interfacePrefix := "I", mode := .perDefinition }
    ∃ rendered, (config.context schema).render? "Books" books = some rendered ∧
      (∀ reference, reference ∈ rendered.references ↔
        reference ∈ books.writtenReferences "Books" rendered.shape) ∧
      ∃ placed ∈ schema.placedUnits config, ∃ file ∈ schema.sourceFiles config,
        placed.unit.modelName = some "Books" ∧ file.fileName = placed.stem ++ fileSuffix ∧
        file.declarations = rendered.declarations ∧
        ∀ other ∈ schema.placedUnits config, other ≠ placed →
          ∀ reference, other.unit.modelName = some reference →
            (⟨other.unit.name, other.stem⟩ ∈ file.imports ↔
              reference ∈ books.writtenReferences "Books" rendered.shape) := by
  intro books schema config
  have hrendered : (config.context schema).render? "Books" books =
      some ((config.context schema).renderAs "Books" books .interface) := rfl
  have hentry : ("Books", books) ∈ schema.definitions.entries := List.mem_cons_self
  have hnames : ((schema.definitionUnits config).map (·.name)).Nodup := by decide +kernel
  obtain ⟨-, hagree, himports⟩ :=
    collected_and_imported_as_written_iff schema config "Books" books _ hrendered
  obtain ⟨placed, hplaced, file, hfile, hmodel, hname, hdeclarations, -, hothers⟩ :=
    himports hentry rfl hnames
  have hplain : ∀ element ∈ books.typedElements .interface, element.hidesReference = false := by
    decide +kernel
  have hmet : ∀ reference, ¬books.Overlooks .interface reference ∧
      ¬books.CollectsIdly .interface reference := by
    intro reference
    exact ⟨Definition.not_overlooks_of_plain hplain, fun h => by cases h.isAlias⟩
  refine ⟨_, hrendered, fun reference => (hagree reference).mpr (hmet reference), placed, hplaced,
    file, hfile, hmodel, hname, hdeclarations, fun other hother hne reference hreference => ?_⟩
  exact (hothers other hother hne reference hreference).mpr (hmet reference)

/-- A reference below arrayed enum members is written without an import, and the items of an
association are collected although they are not written. -/
theorem arrayed_enum_not_imported :
    let arrayed : Definition :=
      { kind := .type, items := some (.withEnum (some "B") (.ofList [("X", .implicit)])) }
    let idle : Definition :=
      { kind := .type, type := some associationTag, items := some (.ofType "B") }
    let schema := Schema.ofDefinitions
      (.ofList [("A", arrayed), ("B", .ofTag "cds.String"), ("C", idle)])
    let config : Config := { mode := .perDefinition }
    (∃ rendered, (config.context schema).render? "A" arrayed = some rendered ∧
      "B" ∈ arrayed.writtenReferences "A" rendered.shape ∧ "B" ∉ rendered.references ∧
      ∃ file ∈ schema.sourceFiles config,
        file.declarations = rendered.declarations ∧ file.imports = []) ∧
    ∃ rendered, (config.context schema).render? "C" idle = some rendered ∧
      "B" ∉ idle.writtenReferences "C" rendered.shape ∧ "B" ∈ rendered.references ∧
      ∃ file ∈ schema.sourceFiles config,
        file.declarations = rendered.declarations ∧ file.imports = [⟨"B", "B"⟩] := by
  intro arrayed idle schema config
  have harrayed : (config.context schema).render? "A" arrayed =
      some ((config.context schema).renderAs "A" arrayed .typeAlias) := rfl
  have hidle : (config.context schema).render? "C" idle =
      some ((config.context schema).renderAs "C" idle .typeAlias) := rfl
  refine ⟨⟨_, harrayed, ?_, ?_, ?_⟩, ⟨_, hidle, ?_, ?_, ?_⟩⟩
  · decide +kernel
  · decide +kernel
  · decide +kernel
  · decide +kernel
  · decide +kernel
  · decide +kernel

end CdsDeclarations
