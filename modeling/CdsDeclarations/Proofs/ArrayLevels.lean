import CdsDeclarations.Proofs.References

/-!
# Array levels

The type of a field is a head under array levels. Without an inline enum there is one level for
every step into items on the way to the element that supplies the head, and one for every element of
many on this way. With an inline enum there is at most one level, so that levels are lost where a
field has items and it or they are of many.
-/

namespace CdsDeclarations

namespace Element

/-- The elements from this one to the one that supplies the head of its type. An association
supplies it itself, any other element leaves it to its items if it has any. -/
def headChain (element : Element) : List Element :=
  if element.isAssociation then [element]
  else
    match element with
    | ⟨_, _, _, _, some items, _, _⟩ => element :: headChain items
    | ⟨_, _, _, _, none, _, _⟩ => [element]

/-- The head that an element supplies itself. -/
def ownHead (element : Element) : TypeHead :=
  if element.isAssociation then .ofTarget element.target else .ofTag element.type

/-- The elements that count for the type of a field. An inline enum takes the head's place, and only
the field and its items are left. -/
def fieldChain (element : Element) : List Element :=
  if element.enumCarrier?.isSome then element :: element.items.toList else element.headChain

/-- A level for every step along a chain, and one for every element of many on it. -/
def arrayLevels (chain : List Element) : Nat :=
  chain.length - 1 + chain.countP isToMany

lemma arrayLevels_singleton (element : Element) :
    arrayLevels [element] = element.isToMany.toNat := by
  rw [arrayLevels, List.countP_singleton]
  cases element.isToMany with
  | false => rfl
  | true => rfl

lemma arrayLevels_cons (element : Element) {rest : List Element} (h : rest ≠ []) :
    arrayLevels (element :: rest) = arrayLevels rest + 1 + element.isToMany.toNat := by
  have hlength : 0 < rest.length := List.length_pos_iff.mpr h
  have hmany : (if element.isToMany = true then 1 else 0) = element.isToMany.toNat := by
    cases element.isToMany with
    | false => rfl
    | true => rfl
  rw [arrayLevels, arrayLevels, List.length_cons, List.countP_cons, hmany]
  omega

lemma headChain_of_last {element : Element} (h : element.isAssociation ∨ element.items = none) :
    element.headChain = [element] := by
  obtain ⟨type, cardinality, members, target, items, isKey, isNotNull⟩ := element
  rw [headChain.eq_def]
  rcases h with hassociation | hitems
  · rw [if_pos hassociation]
  · obtain rfl : items = none := hitems
    rw [ite_self]

lemma headChain_of_items {element items : Element} (h : element.isAssociation = false)
    (hitems : element.items = some items) : element.headChain = element :: items.headChain := by
  obtain ⟨type, cardinality, members, target, _, isKey, isNotNull⟩ := element
  obtain rfl : _ = some items := hitems
  rw [headChain.eq_def, h, if_neg Bool.false_ne_true]

lemma ofElement_of_last {element : Element} (h : element.isAssociation ∨ element.items = none) :
    ResolvedType.ofElement element =
      (⟨element.ownHead, 0⟩ : ResolvedType).arrayIf element.isToMany := by
  obtain ⟨type, cardinality, members, target, items, isKey, isNotNull⟩ := element
  rw [ResolvedType.ofElement.eq_def, ownHead]
  rcases h with hassociation | hitems
  · rw [if_pos hassociation, if_pos hassociation]
  · obtain rfl : items = none := hitems
    split
    · rfl
    · rfl

lemma ofElement_of_items {element items : Element} (h : element.isAssociation = false)
    (hitems : element.items = some items) :
    ResolvedType.ofElement element =
      (ResolvedType.ofElement items).arrayOf.arrayIf element.isToMany := by
  obtain ⟨type, cardinality, members, target, _, isKey, isNotNull⟩ := element
  obtain rfl : _ = some items := hitems
  rw [ResolvedType.ofElement, h, if_neg Bool.false_ne_true]

/-- What holds of the elements that supply a head, and of an arrayed element with its items, holds
of all elements. -/
@[elab_as_elim]
theorem chain_induction {motive : Element → Prop}
    (last : ∀ element : Element, element.isAssociation ∨ element.items = none → motive element)
    (items : ∀ element items : Element, element.isAssociation = false →
      element.items = some items → motive items → motive element)
    (element : Element) : motive element := by
  by_cases hlast : element.isAssociation ∨ element.items = none
  · exact last element hlast
  · rw [not_or, Bool.not_eq_true] at hlast
    match element with
    | ⟨_, _, _, _, some below, _, _⟩ =>
      exact items _ below hlast.1 rfl (chain_induction last items below)
    | ⟨_, _, _, _, none, _, _⟩ => exact absurd rfl hlast.2

lemma headChain_ne_nil (element : Element) : element.headChain ≠ [] := by
  rw [headChain.eq_def]
  split
  · exact List.cons_ne_nil _ _
  · split
    · exact List.cons_ne_nil _ _
    · exact List.cons_ne_nil _ _

/-- A resolved type has the head of the last element on its chain, under the levels of the chain. -/
theorem ofElement_eq_of_chain (element : Element) :
    ∃ last, element.headChain.getLast? = some last ∧
      ResolvedType.ofElement element = ⟨last.ownHead, arrayLevels element.headChain⟩ := by
  induction element using chain_induction with
  | last element hlast =>
    rw [headChain_of_last hlast, ofElement_of_last hlast, arrayLevels_singleton]
    refine ⟨element, rfl, ?_⟩
    cases element.isToMany with
    | false => rfl
    | true => rfl
  | items element items hplain hitems ih =>
    obtain ⟨last, hend, htype⟩ := ih
    have hchain := headChain_of_items hplain hitems
    refine ⟨last, ?_, ?_⟩
    · rw [hchain, List.getLast?_cons_of_ne_nil items.headChain_ne_nil, hend]
    · rw [hchain, arrayLevels_cons element items.headChain_ne_nil, ofElement_of_items hplain hitems,
        htype]
      cases element.isToMany with
      | false => rfl
      | true => rfl

lemma ofField_eq_ofElement {element : Element} (h : element.enumCarrier? = none)
    (owner field : String) : ResolvedType.ofField owner field element = .ofElement element := by
  rw [ResolvedType.ofField, h, Option.isSome_none, if_neg Bool.false_ne_true]

lemma ofField_eq_inlineEnum {element : Element} (h : element.enumCarrier?.isSome)
    (owner field : String) :
    ResolvedType.ofField owner field element =
      ⟨.inlineEnum (ResolvedType.inlineEnumName owner field),
        (element.items.isSome || element.isToMany).toNat⟩ := by
  rw [ResolvedType.ofField, if_pos h]
  cases element.items.isSome || element.isToMany with
  | false => rfl
  | true => rfl

lemma fieldChain_of_plain {element : Element} (h : element.enumCarrier? = none) :
    element.fieldChain = element.headChain := by
  rw [fieldChain, h, Option.isSome_none, if_neg Bool.false_ne_true]

/-- The levels that a field with an inline enum would have if none were lost. -/
lemma arrayLevels_fieldChain_of_enum {element : Element} (h : element.enumCarrier?.isSome) :
    arrayLevels element.fieldChain =
      element.isToMany.toNat + element.items.elim 0 fun items => 1 + items.isToMany.toNat := by
  rw [fieldChain, if_pos h]
  cases element.items with
  | none => exact (arrayLevels_singleton element).trans (Nat.add_zero _).symm
  | some items =>
    rw [Option.toList_some, arrayLevels_cons element (List.cons_ne_nil items []),
      arrayLevels_singleton, Option.elim_some]
    omega

/-- A field with an inline enum has one level, if its chain has any. -/
lemma toNat_eq_min_of_enum {element : Element} (h : element.enumCarrier?.isSome) :
    (element.items.isSome || element.isToMany).toNat = min 1 (arrayLevels element.fieldChain) := by
  have hmany : element.isToMany.toNat ≤ 1 := Bool.toNat_le element.isToMany
  rw [arrayLevels_fieldChain_of_enum h]
  cases element.items with
  | none =>
    rw [Option.isSome_none, Bool.false_or, Option.elim_none]
    omega
  | some items =>
    rw [Option.isSome_some, Bool.true_or, Bool.toNat_true, Option.elim_some]
    omega

lemma levels_kept_of_enum_iff {element : Element} (h : element.enumCarrier?.isSome) :
    (element.items.isSome || element.isToMany).toNat = arrayLevels element.fieldChain ↔
      ∀ items, element.items = some items →
        element.isToMany = false ∧ items.isToMany = false := by
  rw [arrayLevels_fieldChain_of_enum h]
  cases element.items with
  | none => simp
  | some items =>
    have hlost : 1 = element.isToMany.toNat + (1 + items.isToMany.toNat) ↔
        element.isToMany.toNat = 0 ∧ items.isToMany.toNat = 0 := by omega
    simpa using hlost

end Element

open Element

/-- Without an inline enum, a field's type is the head at the end of its chain under the levels of
the chain. With one it is the name of the enum under one level, or under none if the chain has none.
So no level is lost exactly if there is no enum, or no items, or neither field nor items are of
many. -/
theorem array_levels_kept_iff (context : Context) (owner field : String) (element : Element) :
    let type := (context.property owner (field, element)).type
    type.text = type.name ++ String.join (List.replicate type.depth "[]") ∧
    (element.enumCarrier? = none →
      type.depth = arrayLevels element.fieldChain ∧
      ∃ last, element.fieldChain.getLast? = some last ∧ type.name = context.headName last.ownHead) ∧
    (element.enumCarrier?.isSome →
      type.name = ResolvedType.inlineEnumName owner field ∧
      type.depth = min 1 (arrayLevels element.fieldChain)) ∧
    (type.depth = arrayLevels element.fieldChain ↔
      (element.enumCarrier?.isSome → ∀ items, element.items = some items →
        element.isToMany = false ∧ items.isToMany = false)) := by
  intro type
  have htype : type = context.typeExpression (.ofField owner field element) := rfl
  cases hcarrier : element.enumCarrier? with
  | none =>
    obtain ⟨last, hend, hresolved⟩ := ofElement_eq_of_chain element
    rw [← fieldChain_of_plain hcarrier] at hend hresolved
    rw [ofField_eq_ofElement hcarrier, hresolved] at htype
    have hdepth : type.depth = arrayLevels element.fieldChain := by
      rw [htype]
      rfl
    have hname : type.name = context.headName last.ownHead := by
      rw [htype]
      rfl
    exact ⟨rfl, fun _ => ⟨hdepth, last, hend, hname⟩, by simp, by simp [hdepth]⟩
  | some carrier =>
    have hsome : element.enumCarrier?.isSome := by rw [hcarrier, Option.isSome_some]
    rw [ofField_eq_inlineEnum hsome] at htype
    have hdepth : type.depth = (element.items.isSome || element.isToMany).toNat := by
      rw [htype]
      rfl
    have hname : type.name = ResolvedType.inlineEnumName owner field := by
      rw [htype]
      rfl
    have hkept := levels_kept_of_enum_iff hsome
    rw [← hdepth] at hkept
    refine ⟨rfl, by simp, fun _ => ⟨hname, ?_⟩, by simpa using hkept⟩
    rw [hdepth, toNat_eq_min_of_enum hsome]

/-- Two levels of items, one of them of many, make three levels of texts. -/
theorem notes_of_books_keep_levels :
    let notes : Element :=
      { items := some { items := some (.ofType "cds.String"), cardinality := some .toMany } }
    let type := ((⟨"I", none⟩ : Context).property "Books" ("notes", notes)).type
    notes.enumCarrier? = none ∧ arrayLevels notes.fieldChain = 3 ∧ type.depth = 3 ∧
      type.name = (⟨"I", none⟩ : Context).headName (.ofTag (some "cds.String")) := by
  intro notes type
  have hplain : notes.enumCarrier? = none := rfl
  obtain ⟨-, hlevels, -, -⟩ := array_levels_kept_iff ⟨"I", none⟩ "Books" "notes" notes
  obtain ⟨hdepth, last, hend, hname⟩ := hlevels hplain
  obtain rfl := Option.some.inj hend
  exact ⟨hplain, rfl, hdepth, hname⟩

/-- The enum of a field of many with items is written under one level, a text under two. -/
theorem arrayed_enum_of_many_loses_level :
    let status : Element :=
      { items := some (.withEnum none (.ofList [("Open", .implicit)])),
        cardinality := some .toMany }
    let texts : Element := { items := some (.ofType "cds.String"), cardinality := some .toMany }
    let type (element : Element) := ((⟨"I", none⟩ : Context).property "Books" ("st", element)).type
    arrayLevels status.fieldChain = 2 ∧ (type status).depth = 1 ∧
      (type status).text = ResolvedType.inlineEnumName "Books" "st" ++ "[]" ∧
      arrayLevels texts.fieldChain = 2 ∧ (type texts).depth = 2 := by
  intro status texts type
  exact ⟨rfl, rfl, rfl, rfl, rfl⟩

end CdsDeclarations
