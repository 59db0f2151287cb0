import CdsDeclarations.Generation.SourceFile
import CdsDeclarations.Proofs.Mentions

/-!
# Definitions that are not declared

Services, contexts, actions and the like are not declared. They can be taken out of a model, and its
namespace changed, without a difference in the source files or in the warnings: whatever refers to
such a definition is written as if the name were unknown.
-/

namespace CdsDeclarations

/-- The entries of a map that are kept, in their order. -/
def OrderedMap.filter {α : Type} (keep : String × α → Bool) (map : OrderedMap α) : OrderedMap α :=
  ⟨map.entries.filter keep, (List.filter_sublist.map Prod.fst).nodup map.keys_nodup⟩

/-- The events that are warnings. -/
def warnings (events : List Event) : List Event :=
  events.filter (·.level = .warn)

lemma warnings_append (events more : List Event) :
    warnings (events ++ more) = warnings events ++ warnings more :=
  List.filter_append ..

/-- A definition of another kind has no shape, so that it is never rendered. -/
lemma shape_of_other {definition : Definition} (h : definition.kind = .other) :
    Shape.of? definition = none := by
  rw [Shape.of?, h]

lemma render?_of_other (context : Context) (name : String) {definition : Definition}
    (h : definition.kind = .other) : context.render? name definition = none := by
  rw [Context.render?, shape_of_other h, Option.map_none]

namespace Schema

/-- The model without the definitions of other kinds, and under another namespace or none. -/
def declaredOnly (schema : Schema) (namespaceName : Option String) : Schema where
  namespaceName := namespaceName
  definitions := schema.definitions.filter (·.2.kind ≠ .other)

variable (schema : Schema) (config : Config) (namespaceName : Option String)

lemma mem_declaredOnly_iff {entry : String × Definition} :
    entry ∈ (schema.declaredOnly namespaceName).definitions.entries ↔
      entry ∈ schema.definitions.entries ∧ entry.2.kind ≠ .other := by
  rw [declaredOnly, OrderedMap.filter, List.mem_filter, decide_eq_true_iff]

lemma agreeOn_declaredOnly (names : List String) :
    (config.context (schema.declaredOnly namespaceName)).AgreeOn (config.context schema) names := by
  refine ⟨rfl, fun name _ => ?_⟩
  rw [Bool.eq_iff_iff, Context.isInterface_context_iff, Context.isInterface_context_iff]
  refine exists_congr fun definition => and_congr_left fun hshape => ?_
  rw [mem_declaredOnly_iff]
  refine and_iff_left fun hother => ?_
  rw [shape_of_other hother] at hshape
  cases hshape

lemma definitionUnits_declaredOnly :
    (schema.declaredOnly namespaceName).definitionUnits config = schema.definitionUnits config := by
  rw [definitionUnits, definitionUnits, declaredOnly, OrderedMap.filter, List.filterMap_filter]
  refine List.filterMap_congr fun entry _ => ?_
  by_cases hother : entry.2.kind = .other
  · rw [if_neg (by simp [hother]), unit?, render?_of_other _ _ hother]
    rfl
  · rw [if_pos (by simp [hother])]
    exact (schema.agreeOn_declaredOnly config namespaceName _).unit?

lemma indexMembers_declaredOnly :
    (schema.declaredOnly namespaceName).indexMembers = schema.indexMembers := by
  have hlisted : (schema.declaredOnly namespaceName).definitions.entries.filter isListed =
      schema.definitions.entries.filter isListed := by
    rw [declaredOnly, OrderedMap.filter, List.filter_filter]
    refine List.filter_congr fun entry _ => ?_
    rw [isListed]
    cases entry.2.kind with
    | entity => rfl
    | type => rfl
    | enum => rfl
    | other => rfl
  rw [indexMembers, indexMembers, hlisted]

lemma indexName_declaredOnly :
    (schema.declaredOnly namespaceName).indexName config = schema.indexName config := by
  rw [indexName, indexName, definitionUnits_declaredOnly]

lemma units_declaredOnly :
    (schema.declaredOnly namespaceName).units config = schema.units config := by
  rw [units, units, indexUnit, indexUnit, definitionUnits_declaredOnly, indexName_declaredOnly,
    indexMembers_declaredOnly]

/-- The same definitions are reported with the same earlier ones. -/
lemma warnings_definitionEvents {context other : Context}
    (hcontext : ∀ names, context.AgreeOn other names) (earlier : List (String × String))
    (entries : List (String × Definition)) :
    warnings (definitionEvents context earlier (entries.filter (·.2.kind ≠ .other))) =
      warnings (definitionEvents other earlier entries) := by
  induction entries generalizing earlier with
  | nil => rfl
  | cons entry rest ih =>
    obtain ⟨modelName, definition⟩ := entry
    by_cases hother : definition.kind = .other
    -- That such a definition is skipped is an event, but no warning.
    · rw [List.filter_cons_of_neg (by simp [hother]), definitionEvents,
        render?_of_other _ _ hother, ih]
      rfl
    · have hrender : context.render? modelName definition = other.render? modelName definition :=
        (hcontext definition.mentionedNames).render?
      rw [List.filter_cons_of_pos (by simp [hother]), definitionEvents, definitionEvents, hrender]
      cases other.render? modelName definition with
      | none => exact ih earlier
      | some rendered =>
        rw [warnings_append, warnings_append, ih]

lemma sourceFiles_declaredOnly :
    (schema.declaredOnly namespaceName).sourceFiles config = schema.sourceFiles config := by
  rw [sourceFiles, sourceFiles, singleFile, singleFile, placedUnits, placedUnits, units_declaredOnly]

lemma warnings_events_declaredOnly :
    warnings ((schema.declaredOnly namespaceName).events config) =
      warnings (schema.events config) := by
  have hunits : warnings ((schema.declaredOnly namespaceName).unitEvents config) =
      warnings (schema.unitEvents config) := by
    have hindex : (schema.declaredOnly namespaceName).indexEvents config =
        schema.indexEvents config := by
      rw [indexEvents, indexEvents, indexName_declaredOnly]
    rw [unitEvents, unitEvents, warnings_append, warnings_append, hindex]
    exact congrArg (· ++ _) (warnings_definitionEvents
      (schema.agreeOn_declaredOnly config namespaceName) [] schema.definitions.entries)
  rw [events, events, warnings_append, warnings_append, hunits, placedUnits, placedUnits,
    units_declaredOnly]

/-- Without its definitions of other kinds and under any namespace a model gives the same source
files, the same documents and the same warnings in the same order. -/
theorem undeclared_definitions_leave_no_trace :
    (schema.declaredOnly namespaceName).sourceFiles config = schema.sourceFiles config ∧
      (schema.declaredOnly namespaceName).documents config = schema.documents config ∧
      warnings ((schema.declaredOnly namespaceName).events config) =
        warnings (schema.events config) := by
  have hfiles := schema.sourceFiles_declaredOnly config namespaceName
  refine ⟨hfiles, ?_, schema.warnings_events_declaredOnly config namespaceName⟩
  rw [documents, documents, hfiles]

end Schema

end CdsDeclarations
