import CdsDeclarations.Proofs.OutputModes
import CdsDeclarations.Proofs.ReferenceNames

/-!
# Lines of imports

Where the import of a name points, also where definitions share their names and files are numbered:
at the file of a definition that is declared under this very name and is referred to. A name is
imported once, from the file of the first reference to it.
-/

namespace CdsDeclarations

/-- The name of the declaration that a file is made for, which comes last in it. -/
def SourceFile.mainName? (file : SourceFile) : Option String :=
  file.declarations.getLast?.map Declaration.name

namespace PlacedUnit

/-- The import that a reference asks for. -/
def importOf? (units : List PlacedUnit) (reference : String) : Option TypeImport :=
  (find? units reference).map fun other => ⟨other.unit.name, other.stem⟩

/-- The place of the first reference that asks for an import. -/
def firstAsked (units : List PlacedUnit) (references : List String) (type : TypeImport) : Nat :=
  references.findIdx fun reference => importOf? units reference = some type

variable {units : List PlacedUnit} {reference : String}

lemma importOf?_eq_some_iff {type : TypeImport} :
    importOf? units reference = some type ↔
      ∃ other, find? units reference = some other ∧ other.unit.name = type.name ∧
        other.stem = type.stem := by
  rw [importOf?, Option.map_eq_some_iff]
  constructor
  · rintro ⟨other, hfind, rfl⟩
    exact ⟨other, hfind, rfl, rfl⟩
  · rintro ⟨other, hfind, hname, hstem⟩
    exact ⟨other, hfind, by rw [hname, hstem]⟩

lemma firstAsked_cons_of_ne {type : TypeImport} (h : importOf? units reference ≠ some type)
    (rest : List String) :
    firstAsked units (reference :: rest) type = firstAsked units rest type + 1 := by
  rw [firstAsked, List.findIdx_cons, decide_eq_false h]
  rfl

lemma firstAsked_cons_of_eq {type : TypeImport} (h : importOf? units reference = some type)
    (rest : List String) : firstAsked units (reference :: rest) type = 0 := by
  rw [firstAsked, List.findIdx_cons, decide_eq_true h]
  rfl

/-- Imports come in the order of the references that first ask for them. -/
lemma importsOf_pairwise_firstAsked (placed : PlacedUnit) (units : List PlacedUnit)
    (imported references : List String) :
    (placed.importsOf units imported references).Pairwise fun type later =>
      firstAsked units references type < firstAsked units references later := by
  induction references generalizing imported with
  | nil => exact List.Pairwise.nil
  | cons reference rest ih =>
    rcases importsOf_cons_cases placed units imported reference rest with
      ⟨hskip, hknown⟩ | ⟨other, hfind, -, -, hadd⟩
    · have hlater : ∀ type ∈ placed.importsOf units imported rest,
          importOf? units reference ≠ some type := by
        intro type htype hasked
        obtain ⟨_, -, target, -, hknows, hnew, rfl⟩ := exists_reference_of_mem_importsOf htype
        obtain ⟨found, hfind, hname, hstem⟩ := importOf?_eq_some_iff.mp hasked
        have hsame : placed.knows found = placed.knows target := by
          rw [knows, knows, hname, hstem]
        rcases hknown found hfind with h | h
        · rw [hsame, hknows] at h
          cases h
        · rw [hname] at h
          exact hnew h
      rw [hskip]
      refine (ih imported).imp_of_mem fun htype hother hlt => ?_
      rw [firstAsked_cons_of_ne (hlater _ htype), firstAsked_cons_of_ne (hlater _ hother)]
      exact Nat.succ_lt_succ hlt
    · have hasked : importOf? units reference = some ⟨other.unit.name, other.stem⟩ :=
        importOf?_eq_some_iff.mpr ⟨other, hfind, rfl, rfl⟩
      have hlater : ∀ type ∈ placed.importsOf units (other.unit.name :: imported) rest,
          importOf? units reference ≠ some type := by
        intro type htype hagain
        obtain ⟨_, -, target, -, -, hnew, rfl⟩ := exists_reference_of_mem_importsOf htype
        have hname : other.unit.name = target.unit.name :=
          congrArg TypeImport.name (Option.some.inj (hasked.symm.trans hagain))
        rw [hname] at hnew
        exact hnew List.mem_cons_self
      rw [hadd]
      refine List.pairwise_cons.mpr ⟨fun type htype => ?_, ?_⟩
      · rw [firstAsked_cons_of_eq hasked, firstAsked_cons_of_ne (hlater _ htype)]
        exact Nat.succ_pos _
      · refine (ih (other.unit.name :: imported)).imp_of_mem fun htype hother hlt => ?_
        rw [firstAsked_cons_of_ne (hlater _ htype), firstAsked_cons_of_ne (hlater _ hother)]
        exact Nat.succ_lt_succ hlt

end PlacedUnit

namespace Schema

variable {schema : Schema} {config : Config} {placed other : PlacedUnit}

lemma eq_of_fileName_eq (hplaced : placed ∈ schema.placedUnits config)
    (hother : other ∈ schema.placedUnits config)
    (h : other.stem ++ fileSuffix = placed.stem ++ fileSuffix) : other = placed :=
  eq_of_stem_eq hplaced hother ((String.append_left_inj _).mp h)

/-- What a model name stands for is declared last in the file of its unit. -/
lemma exists_rendered_of_modelName {reference : String} (hother : other ∈ schema.placedUnits config)
    (hname : other.unit.modelName = some reference) :
    ∃ definition rendered, (reference, definition) ∈ schema.definitions.entries ∧
      (config.context schema).render? reference definition = some rendered ∧
      other.unit.name = rendered.name ∧ other.unit.declarations = rendered.declarations ∧
      rendered.declarations.getLast?.map Declaration.name = some rendered.name := by
  rcases List.mem_append.mp (unit_mem_units hother) with hdefinition | hindex
  · obtain ⟨name, definition, rendered, hentry, hrendered, hunit⟩ :=
      mem_definitionUnits_iff.mp hdefinition
    rw [hunit] at hname ⊢
    obtain rfl := Option.some.inj hname
    obtain ⟨shape, -, rfl⟩ := Option.map_eq_some_iff.mp hrendered
    exact ⟨definition, _, hentry, hrendered, rfl, rfl,
      Context.getLast?_declarations_renderAs _ name definition shape⟩
  · split at hindex
    · rw [List.mem_singleton.mp hindex] at hname
      cases hname
    · cases hindex

/-- Every import of a file points at exactly one file, another one, whose main declaration has the
imported name and stands for a model name that is referred to. No name is imported twice, nor the
name of the file's own declaration, and the imports come in the order of the references. The name of
every other file that is referred to is imported. -/
theorem imports_point_at_declarations (schema : Schema) (config : Config)
    (hmode : config.mode = .perDefinition) (file : SourceFile)
    (hfile : file ∈ schema.sourceFiles config) :
    ∃ placed ∈ schema.placedUnits config,
      file.fileName = placed.stem ++ fileSuffix ∧ file.declarations = placed.unit.declarations ∧
      (∀ type ∈ file.imports, type.stem ≠ placed.stem ∧ type.name ≠ placed.unit.name ∧
        ∃ reference ∈ placed.unit.references, ∃ definition rendered,
          (reference, definition) ∈ schema.definitions.entries ∧
          (config.context schema).render? reference definition = some rendered ∧
          rendered.name = type.name ∧
          ∃ target ∈ schema.sourceFiles config, target.fileName = type.stem ++ fileSuffix ∧
            target.declarations = rendered.declarations ∧ target.mainName? = some type.name ∧
            ∀ other ∈ schema.sourceFiles config,
              other.fileName = type.stem ++ fileSuffix → other = target) ∧
      (file.imports.map (·.name)).Nodup ∧
      file.imports.Pairwise (fun type later =>
        PlacedUnit.firstAsked (schema.placedUnits config) placed.unit.references type <
          PlacedUnit.firstAsked (schema.placedUnits config) placed.unit.references later) ∧
      (∀ reference ∈ placed.unit.references, ∀ other,
        PlacedUnit.find? (schema.placedUnits config) reference = some other →
        other.stem ≠ placed.stem → other.unit.name ≠ placed.unit.name →
        other.unit.name ∈ file.imports.map (·.name)) ∧
      ('\n' ∉ config.interfacePrefix.toList →
        importLines file.document.content = file.imports.map TypeImport.line) := by
  have hfiles : schema.sourceFiles config =
      (schema.placedUnits config).map (PlacedUnit.sourceFile (schema.placedUnits config)) := by
    rw [sourceFiles, hmode]
  rw [hfiles] at hfile ⊢
  obtain ⟨placed, hplaced, rfl⟩ := List.mem_map.mp hfile
  refine ⟨placed, hplaced, rfl, rfl, ?_, PlacedUnit.importsOf_names_nodup .., ?_, ?_, ?_⟩
  · intro type htype
    obtain ⟨reference, hreference, other, hfind, hknows, -, rfl⟩ :=
      PlacedUnit.exists_reference_of_mem_importsOf htype
    obtain ⟨hother, hname⟩ := find?_eq_some_iff.mp hfind
    obtain ⟨definition, rendered, hentry, hrendered, hdeclared, hdeclarations, hmain⟩ :=
      exists_rendered_of_modelName hother hname
    rw [PlacedUnit.knows, Bool.or_eq_false_iff, decide_eq_false_iff_not,
      decide_eq_false_iff_not] at hknows
    refine ⟨hknows.1, hknows.2, reference, hreference, definition, rendered, hentry, hrendered,
      hdeclared.symm, _, List.mem_map_of_mem hother, rfl, hdeclarations, ?_, ?_⟩
    · rw [SourceFile.mainName?, PlacedUnit.sourceFile, hdeclarations, hmain, hdeclared]
    · intro target htarget hsame
      obtain ⟨another, hanother, rfl⟩ := List.mem_map.mp htarget
      rw [eq_of_fileName_eq hother hanother hsame]
  · exact PlacedUnit.importsOf_pairwise_firstAsked ..
  · intro reference hreference other hfind hstem hname
    have hknows : placed.knows other = false :=
      Bool.or_eq_false_iff.mpr ⟨decide_eq_false hstem, decide_eq_false hname⟩
    exact PlacedUnit.name_mem_importsOf hreference hfind hknows List.not_mem_nil
  · exact fun hprefixed => (importLines_and_declarationPart_content hprefixed hplaced).1

/-- Two entities with one local name: the first reference decides which file it is imported from,
and the file itself is not imported. -/
theorem imports_of_shop_point_at_declarations :
    let shop := Definition.entity (.ofList
      [("other", .association "b.Books" .toOne), ("book", .association "a.Books" .toOne),
        ("parent", .association "Shop" .toOne), ("genre", .ofType "Genre")])
    let schema := Schema.ofDefinitions (.ofList [("a.Books", .entity .empty),
      ("b.Books", .entity .empty), ("Shop", shop), ("Genre", .ofTag "cds.String")])
    let config : Config := { mode := .perDefinition }
    let file : SourceFile :=
      { fileName := "Shop.ts", imports := [⟨"Books", "Books_1"⟩, ⟨"Genre", "Genre"⟩],
        declarations := ((config.context schema).renderAs "Shop" shop .interface).declarations }
    config.mode = .perDefinition ∧ file ∈ schema.sourceFiles config ∧
      (∀ type ∈ file.imports, ∃ target ∈ schema.sourceFiles config,
        target.fileName = type.stem ++ fileSuffix ∧ target.mainName? = some type.name) ∧
      (file.imports.map (·.name)).Nodup ∧
      importLines file.document.content =
        ["import type \x7b Books \x7d from \"./Books_1\";",
          "import type \x7b Genre \x7d from \"./Genre\";"] := by
  intro shop schema config file
  have hfile : file ∈ schema.sourceFiles config := by decide +kernel
  obtain ⟨placed, -, -, -, hsound, hnames, -, -, hlines⟩ :=
    imports_point_at_declarations schema config rfl file hfile
  refine ⟨rfl, hfile, fun type htype => ?_, hnames, hlines (by decide)⟩
  obtain ⟨-, -, _, -, _, _, -, -, -, target, htarget, hfileName, -, hmain, -⟩ := hsound type htype
  exact ⟨target, htarget, hfileName, hmain⟩

end Schema

end CdsDeclarations
