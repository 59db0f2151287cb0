import CdsDeclarations.Proofs.FileNames
import CdsDeclarations.Proofs.Undeclared

/-!
# Stems given out in turn

Every unit gets a stem that none of the units before it has, where the case of letters does not
count. Renamed units take part in this like all others: a numbered stem may be what blocks a later
name.
-/

namespace CdsDeclarations

namespace PlacedUnit

/-- What a stem is told from the others by. -/
def key (placed : PlacedUnit) : String :=
  lowercase placed.stem

/-- The report of a unit whose file is not named like it. -/
def renameEvent (placed : PlacedUnit) : Event :=
  .fileRenamed (placed.unit.modelName.getD placed.unit.name) placed.stem placed.unit.name

/-- A unit whose name is free has its name as the stem. -/
structure IsKept (earlier : List String) (placed : PlacedUnit) : Prop where
  free : lowercase placed.unit.name ∉ earlier
  stem_eq : placed.stem = placed.unit.name

/-- A unit whose name is taken has as its stem the numbered name at which a search without a bound
stops. It is the one with the least free number, and no number above the count of those taken has to
be tried. -/
structure IsRenamed (earlier : List String) (placed : PlacedUnit) : Prop where
  taken : lowercase placed.unit.name ∈ earlier
  stem_numbered : ∃ number, number ≤ earlier.length ∧
    placed.stem = numbered placed.unit.name number ∧
      IsLeastFree lowercase earlier placed.unit.name number
  stops : ∀ result, StopsAt lowercase earlier placed.unit.name 1 result ↔ result = placed.stem
  stem_ne : placed.stem ≠ placed.unit.name

lemma isKept_or_isRenamed {earlier taken : List String} {placed : PlacedUnit}
    (hsame : earlier.Perm taken) (hstem : placed.stem = freeName lowercase taken placed.unit.name) :
    placed.IsKept earlier ∨ placed.IsRenamed earlier := by
  by_cases hname : lowercase placed.unit.name ∈ earlier
  · obtain ⟨number, hle, hfree, hleast⟩ :=
      exists_isLeastFree_of_taken (tellsNumbers_lowercase placed.unit.name) (hsame.mem_iff.mp hname)
    rw [← isLeastFree_congr fun text => hsame.mem_iff] at hleast
    rw [hfree] at hstem
    refine Or.inr ⟨hname, ⟨number, ?_, hstem, hleast⟩, fun result => ?_, ?_⟩
    · rw [hsame.length_eq]
      exact hle
    · rw [hstem]
      exact hleast.stopsAt_iff result
    · rw [hstem]
      exact numbered_ne placed.unit.name number
  · rw [freeName_of_not_taken fun h => hname (hsame.mem_iff.mpr h)] at hstem
    exact Or.inl ⟨hname, hstem⟩

lemma warnings_events (placed : PlacedUnit) :
    warnings placed.events = if placed.stem = placed.unit.name then [] else [placed.renameEvent] := by
  rw [events]
  split
  · rfl
  · rfl

end PlacedUnit

/-- The stem of a unit depends on the stems before it alone. -/
lemma stem_of_placeUnits_eq {taken : List String} {units : List DeclarationUnit}
    {front back : List PlacedUnit} {placed : PlacedUnit}
    (h : placeUnits taken units = front ++ placed :: back) :
    placed.stem =
      freeName lowercase ((front.map PlacedUnit.key).reverse ++ taken) placed.unit.name := by
  induction units generalizing taken front with
  | nil => simp [placeUnits] at h
  | cons unit rest ih =>
    rw [placeUnits] at h
    cases front with
    | nil =>
      obtain ⟨rfl, -⟩ := List.cons.inj h
      rfl
    | cons first front =>
      obtain ⟨rfl, hrest⟩ := List.cons.inj h
      rw [ih hrest, List.map_cons, List.reverse_cons, List.append_assoc]
      rfl

lemma warnings_flatMap_events (placed : List PlacedUnit) :
    warnings (placed.flatMap PlacedUnit.events) =
      (placed.filter fun current => current.stem ≠ current.unit.name).map PlacedUnit.renameEvent := by
  induction placed with
  | nil => rfl
  | cons current rest ih =>
    rw [List.flatMap_cons, warnings_append, ih, PlacedUnit.warnings_events]
    by_cases hname : current.stem = current.unit.name
    · simp [hname]
    · simp [hname]

/-- Of units in any list, each one has its own name as the stem if no stem before it has the same
lower case, and else the numbered name with the least number that is free, where as many numbers are
enough as there are units before it. The stems differ in lower case, and the units that are reported
are those with a number, in their order. -/
theorem stems_least_free (units : List DeclarationUnit) :
    let placed := placeUnits [] units
    placed.map (·.unit) = units ∧
      (∀ front current back, placed = front ++ current :: back →
        current.IsKept (front.map PlacedUnit.key) ∨
          current.IsRenamed (front.map PlacedUnit.key)) ∧
      (placed.map PlacedUnit.key).Nodup ∧
      warnings (placed.flatMap PlacedUnit.events) =
        (placed.filter fun current => current.stem ≠ current.unit.name).map PlacedUnit.renameEvent := by
  refine ⟨map_unit_placeUnits [] units, fun front current back hsplit => ?_,
    (placeUnits_stems_distinct [] units).1, warnings_flatMap_events _⟩
  have hstem := stem_of_placeUnits_eq hsplit
  rw [List.append_nil] at hstem
  exact PlacedUnit.isKept_or_isRenamed (List.reverse_perm _).symm hstem

/-- The second unit is renamed, and its new stem is what the name of the third one runs into. -/
theorem numbered_stem_blocks_later_name :
    let unit (name : String) : DeclarationUnit := ⟨some name, name, [], []⟩
    let last : PlacedUnit := ⟨unit "books_1", "books_1_1"⟩
    placeUnits [] (["Books", "BOOKS", "books_1"].map unit) =
        [⟨unit "Books", "Books"⟩, ⟨unit "BOOKS", "BOOKS_1"⟩] ++ last :: [] ∧
      last.IsRenamed [lowercase "Books", lowercase "BOOKS_1"] := by
  intro unit last
  have hsplit : placeUnits [] (["Books", "BOOKS", "books_1"].map unit) =
      [⟨unit "Books", "Books"⟩, ⟨unit "BOOKS", "BOOKS_1"⟩] ++ last :: [] := by
    decide +kernel
  refine ⟨hsplit, ?_⟩
  rcases (stems_least_free (["Books", "BOOKS", "books_1"].map unit)).2.1 _ _ _ hsplit with
    hkept | hrenamed
  · have hne : last.stem ≠ last.unit.name := by decide
    exact absurd hkept.stem_eq hne
  · exact hrenamed

end CdsDeclarations
