import CdsDeclarations.Proofs.Undeclared
import CdsDeclarations.Proofs.Units

/-!
# Reports of collisions

While the units of a model are made, a definition is reported if an earlier one is declared under
its name, and the index if a definition is declared under the name that it should have. This file
says which warnings come, and in which order.
-/

namespace CdsDeclarations

/-- What is reported of a definition that is declared behind others, given by their model names and
the names they are declared under: the newest of those with its name, if there is one. -/
inductive CollisionReport (earlier : List (String × String)) (modelName name : String) :
    List Event → Prop
  | fresh (h : ∀ other ∈ earlier, other.2 ≠ name) : CollisionReport earlier modelName name []
  | collision {before after : List (String × String)} {previous : String}
    (hsplit : earlier = before ++ (previous, name) :: after)
    (hnewest : ∀ other ∈ after, other.2 ≠ name) :
    CollisionReport earlier modelName name [.collision previous modelName name]

/-- The reports of definitions one after the other, each behind those before it. -/
inductive CollisionReports :
    List (String × String) → List (String × String) → List Event → Prop
  | nil {earlier : List (String × String)} : CollisionReports earlier [] []
  | cons {earlier rest : List (String × String)} {modelName name : String}
    {report events : List Event} (hfirst : CollisionReport earlier modelName name report)
    (hrest : CollisionReports (earlier ++ [(modelName, name)]) rest events) :
    CollisionReports earlier ((modelName, name) :: rest) (report ++ events)

/-- What is reported of the index. It is renamed if a definition has its name, and then it has the
least number that no definition has behind this name. -/
inductive IndexReport (config : Config) (names : List String) (indexName : String) :
    List Event → Prop
  | kept (h : config.entityIndex = true → entityIndexName ∉ names) :
    IndexReport config names indexName []
  | renamed {number : Nat} (hindex : config.entityIndex = true) (htaken : entityIndexName ∈ names)
    (hleast : IsLeastFree id names entityIndexName number)
    (hname : indexName = numbered entityIndexName number) :
    IndexReport config names indexName [.indexRenamed indexName]

namespace Schema

/-- The definitions that are declared, by model name, with the names they are declared under. -/
def declaredNames (context : Context) (entries : List (String × Definition)) :
    List (String × String) :=
  entries.filterMap fun entry =>
    (Shape.of? entry.2).map fun shape => (entry.1, context.declarationName entry.1 shape)

lemma map_name_filterMap_unit? (context : Context) (entries : List (String × Definition)) :
    (entries.filterMap (unit? context)).map (·.name) =
      (declaredNames context entries).map Prod.snd := by
  rw [declaredNames, List.map_filterMap, List.map_filterMap]
  refine List.filterMap_congr fun entry _ => ?_
  cases hshape : Shape.of? entry.2 with
  | none => rw [unit?_eq_none context hshape, Option.map_none, Option.map_none, Option.map_none]
  | some shape =>
    rw [unit?_eq_some context hshape]
    rfl

/-- In the table of the names declared so far the newest one stands in front, so that it is the one
that is found. -/
lemma collisionReport_renderingEvents (earlier : List (String × String)) (modelName : String)
    (rendered : Rendered) :
    CollisionReport earlier modelName rendered.name
      (warnings (renderingEvents (earlier.map Prod.swap).reverse modelName rendered)) := by
  rw [renderingEvents]
  cases hlookup : (earlier.map Prod.swap).reverse.lookup rendered.name with
  | none =>
    apply CollisionReport.fresh
    intro other hother hname
    have hmem : rendered.name ∈ ((earlier.map Prod.swap).reverse).map Prod.fst := by
      simp only [List.map_reverse, List.mem_reverse, List.map_map]
      exact List.mem_map.mpr ⟨other, hother, hname⟩
    exact not_mem_keys_of_lookup_eq_none hlookup hmem
  | some previous =>
    obtain ⟨newer, older, hsplit, hnewest⟩ := List.lookup_eq_some_iff.mp hlookup
    have hearlier : earlier = (older.map Prod.swap).reverse ++
        (previous, rendered.name) :: (newer.map Prod.swap).reverse := by
      have hswapped := congrArg (fun names => (names.map Prod.swap).reverse) hsplit
      simpa using hswapped
    apply CollisionReport.collision hearlier
    intro other hother hname
    simp only [List.mem_reverse, List.mem_map] at hother
    obtain ⟨entry, hentry, rfl⟩ := hother
    have hne := hnewest entry hentry
    simp only [Prod.snd_swap] at hname
    simp [hname] at hne

lemma collisionReports_definitionEvents (context : Context) (earlier : List (String × String))
    (entries : List (String × Definition)) :
    CollisionReports earlier (declaredNames context entries)
      (warnings (definitionEvents context (earlier.map Prod.swap).reverse entries)) := by
  induction entries generalizing earlier with
  | nil => exact .nil
  | cons entry rest ih =>
    obtain ⟨modelName, definition⟩ := entry
    rw [definitionEvents, Context.render?, declaredNames, List.filterMap_cons]
    cases Shape.of? definition with
    -- A definition that is skipped is neither reported nor entered into the table.
    | none => exact ih earlier
    | some shape =>
      have hlater := ih (earlier ++ [(modelName, context.declarationName modelName shape)])
      rw [List.map_append, List.reverse_append] at hlater
      have hfirst := collisionReport_renderingEvents earlier modelName
        (context.renderAs modelName definition shape)
      simp only [Option.map_some, warnings_append]
      exact .cons hfirst hlater

lemma indexReport_indexEvents (schema : Schema) (config : Config) :
    IndexReport config ((declaredNames (config.context schema) schema.definitions.entries).map
      Prod.snd) (schema.indexName config) (warnings (schema.indexEvents config)) := by
  rw [← map_name_filterMap_unit?]
  change IndexReport config ((schema.definitionUnits config).map (·.name)) _ _
  rw [indexEvents]
  by_cases hindex : config.entityIndex = true
  · by_cases htaken : entityIndexName ∈ (schema.definitionUnits config).map (·.name)
    · obtain ⟨number, -, hname, hleast⟩ :=
        exists_isLeastFree_of_taken (tellsNumbers_id entityIndexName) htaken
      have hne : schema.indexName config ≠ entityIndexName := by
        rw [indexName, hname]
        exact numbered_ne entityIndexName number
      rw [if_pos (by simp [hindex, hne])]
      exact .renamed hindex htaken hleast hname
    · have hname : schema.indexName config = entityIndexName := freeName_of_not_taken htaken
      rw [if_neg (by simp [hname])]
      exact .kept fun _ => htaken
  · rw [if_neg (by simp [hindex])]
    exact .kept fun h => absurd h hindex

/-- The warnings while the units are made: for each definition that is declared, in turn, the newest
earlier one with the same name if there is one; then the new name of the index if it is asked for
and a definition has taken its name. -/
theorem unit_warnings_exact (schema : Schema) (config : Config) :
    let declared := declaredNames (config.context schema) schema.definitions.entries
    ∃ collisions renamed, warnings (schema.unitEvents config) = collisions ++ renamed ∧
      CollisionReports [] declared collisions ∧
      IndexReport config (declared.map Prod.snd) (schema.indexUnit config).name renamed := by
  refine ⟨_, _, ?_, collisionReports_definitionEvents _ [] _,
    indexReport_indexEvents schema config⟩
  rw [unitEvents, warnings_append]
  rfl

end Schema

end CdsDeclarations
