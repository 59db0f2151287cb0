import CdsDeclarations.Generation.Unit
import CdsDeclarations.Proofs.FreeNames
import CdsDeclarations.Proofs.Identifiers

/-!
# Names of units

A model has at most one unit for each definition and one for the index. Model names tell the units
apart, and the index takes no name of a definition.
-/

namespace CdsDeclarations

open Identifier

lemma isAllowed_of_mem_toDigits {c : Char} {n : Nat} (h : c ∈ Nat.toDigits 10 n) : isAllowed c := by
  have hdigit := Nat.isDigit_of_mem_toDigits (by decide) (by decide) h
  have hsame : isDigit c = c.isDigit := rfl
  rw [isAllowed, hsame, hdigit]
  rfl

lemma isIdentifier_numbered {name : String} (h : IsIdentifier name.toList) (number : Nat) :
    IsIdentifier (numbered name number).toList := by
  rw [toList_numbered]
  refine h.append ⟨fun c hc => ?_, fun c hc => ?_⟩
  · rcases List.mem_cons.mp hc with rfl | hc
    · exact isAllowed_underscore
    · exact isAllowed_of_mem_toDigits hc
  · rw [← Option.some.inj hc]
    rfl

namespace Schema

lemma mem_definitionUnits_iff {schema : Schema} {config : Config} {unit : DeclarationUnit} :
    unit ∈ schema.definitionUnits config ↔
      ∃ name definition rendered, (name, definition) ∈ schema.definitions.entries ∧
        (config.context schema).render? name definition = some rendered ∧
        unit = ⟨some name, rendered.name, rendered.references, rendered.declarations⟩ := by
  rw [definitionUnits, List.mem_filterMap]
  constructor
  · rintro ⟨⟨name, definition⟩, hentry, hunit⟩
    obtain ⟨rendered, hrendered, rfl⟩ := Option.map_eq_some_iff.mp hunit
    exact ⟨name, definition, rendered, hentry, hrendered, rfl⟩
  · rintro ⟨name, definition, rendered, hentry, hrendered, rfl⟩
    exact ⟨(name, definition), hentry, by rw [unit?, hrendered, Option.map_some]⟩

lemma unit?_eq_some (context : Context) {entry : String × Definition} {shape : Shape}
    (h : Shape.of? entry.2 = some shape) :
    unit? context entry = some ⟨some entry.1, context.declarationName entry.1 shape,
      (context.renderAs entry.1 entry.2 shape).references,
      (context.renderAs entry.1 entry.2 shape).declarations⟩ := by
  rw [unit?, Context.render?, h]
  rfl

lemma unit?_eq_none (context : Context) {entry : String × Definition}
    (h : Shape.of? entry.2 = none) : unit? context entry = none := by
  rw [unit?, Context.render?, h]
  rfl

lemma modelName_of_unit? {context : Context} {entry : String × Definition} {unit : DeclarationUnit}
    (h : unit? context entry = some unit) : unit.modelName = some entry.1 := by
  obtain ⟨rendered, -, rfl⟩ := Option.map_eq_some_iff.mp h
  rfl

lemma modelNames_sublist (context : Context) (entries : List (String × Definition)) :
    ((entries.filterMap (unit? context)).map (·.modelName)).Sublist
      ((entries.map Prod.fst).map some) := by
  induction entries with
  | nil => exact List.Sublist.slnil
  | cons entry rest ih =>
    rw [List.map_cons, List.map_cons, List.filterMap_cons]
    cases hunit : unit? context entry with
    | none => exact ih.cons _
    | some unit =>
      rw [List.map_cons, modelName_of_unit? hunit]
      exact ih.cons_cons _

lemma indexName_not_mem (schema : Schema) (config : Config) :
    schema.indexName config ∉ (schema.definitionUnits config).map (·.name) :=
  freeName_not_taken (tellsNumbers_id entityIndexName)

lemma isAlpha_of_mem_entityIndexName {c : Char} (h : c ∈ entityIndexName.toList) : c.isAlpha := by
  have hall : entityIndexName.toList.all Char.isAlpha := by decide
  exact List.all_eq_true.mp hall c h

lemma isIdentifier_entityIndexName : IsIdentifier entityIndexName.toList :=
  isIdentifier_of_letters fun _ => isAlpha_of_mem_entityIndexName

/-- The index is declared under the name that was found free for it. -/
lemma ofQualified_indexName (schema : Schema) (config : Config) :
    ofQualified (schema.indexName config) = schema.indexName config := by
  rw [ofQualified_eq_self_iff, indexName]
  rcases freeName_cases (tellsNumbers_id entityIndexName) with ⟨-, hfree⟩ | ⟨-, k, -, -, hfree, -⟩
  · rw [hfree]
    exact isIdentifier_entityIndexName
  · rw [hfree]
    exact isIdentifier_numbered isIdentifier_entityIndexName k

/-- The name of a unit is the prefix, or nothing, and then an identifier. -/
lemma name_of_mem_units {schema : Schema} {config : Config} {unit : DeclarationUnit}
    (hunit : unit ∈ schema.units config) :
    ∃ front modelName, (front = "" ∨ front = config.interfacePrefix) ∧
      unit.name = front ++ ofQualified modelName := by
  rcases List.mem_append.mp hunit with hdefinition | hindex
  · obtain ⟨name, definition, rendered, -, hrendered, rfl⟩ := mem_definitionUnits_iff.mp hdefinition
    obtain ⟨shape, -, rfl⟩ := Option.map_eq_some_iff.mp hrendered
    cases shape with
    | interface => exact ⟨config.interfacePrefix, name, Or.inr rfl, rfl⟩
    | enumeration => exact ⟨"", name, Or.inl rfl, String.empty_append.symm⟩
    | typeAlias => exact ⟨"", name, Or.inl rfl, String.empty_append.symm⟩
  · split at hindex
    · rw [List.mem_singleton.mp hindex, indexUnit]
      refine ⟨"", schema.indexName config, Or.inl rfl, ?_⟩
      rw [String.empty_append, ofQualified_indexName]
    · cases hindex

/-- A character that no identifier holds gets into the name of a unit with the prefix alone. -/
lemma not_mem_name_of_mem_units {schema : Schema} {config : Config} {unit : DeclarationUnit}
    (hunit : unit ∈ schema.units config) {c : Char} (hc : isAllowed c = false)
    (hprefixed : c ∉ config.interfacePrefix.toList) : c ∉ unit.name.toList := by
  obtain ⟨front, modelName, hfront, hname⟩ := name_of_mem_units hunit
  rw [hname, String.toList_append, List.mem_append, not_or]
  constructor
  · rcases hfront with rfl | rfl
    · exact List.not_mem_nil
    · exact hprefixed
  · intro hmem
    exact Bool.false_ne_true (hc.symm.trans ((isIdentifier_ofQualified modelName).allowed c hmem))

lemma modelNames_nodup (schema : Schema) (config : Config) :
    ((schema.units config).map (·.modelName)).Nodup := by
  have hkeys : ((schema.definitions.entries.map Prod.fst).map some).Nodup :=
    schema.definitions.keys_nodup.map fun _ _ => Option.some.inj
  have hdefinitions : ((schema.definitionUnits config).map (·.modelName)).Nodup :=
    (modelNames_sublist (config.context schema) schema.definitions.entries).nodup hkeys
  rw [units, List.map_append]
  by_cases hindex : config.entityIndex = true
  · rw [if_pos hindex]
    refine List.nodup_append.mpr ⟨hdefinitions, List.nodup_singleton _, ?_⟩
    intro modelName hmem other hother
    obtain rfl : other = none := List.mem_singleton.mp hother
    rintro rfl
    obtain ⟨unit, hunit, hnone⟩ := List.mem_map.mp hmem
    obtain ⟨name, definition, rendered, -, -, rfl⟩ := mem_definitionUnits_iff.mp hunit
    cases hnone
  · rw [if_neg hindex, List.map_nil, List.append_nil]
    exact hdefinitions

lemma names_units_nodup_iff (schema : Schema) (config : Config) :
    ((schema.units config).map (·.name)).Nodup ↔
      ((schema.definitionUnits config).map (·.name)).Nodup := by
  rw [units, List.map_append]
  by_cases hindex : config.entityIndex = true
  · rw [if_pos hindex, List.map_singleton, List.nodup_append]
    constructor
    · exact fun h => h.1
    · intro hnodup
      refine ⟨hnodup, List.nodup_singleton _, ?_⟩
      intro name hmem other hother
      obtain rfl : other = schema.indexName config := List.mem_singleton.mp hother
      rintro rfl
      exact indexName_not_mem schema config hmem
  · rw [if_neg hindex, List.map_nil, List.append_nil]

end Schema

end CdsDeclarations
