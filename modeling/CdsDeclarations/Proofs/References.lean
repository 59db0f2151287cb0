import CdsDeclarations.Rendering.Rendered
import Mathlib.Data.List.Basic
import Mathlib.Tactic.Lemma

/-!
# References

The references collected for a definition are compared with the references that its declarations
make. Collecting stops at enum members on every level of items, resolving a type looks for them on
the level of the field alone; and an alias without a target is taken for its items even if it is
tagged as an association.
-/

namespace CdsDeclarations

/-- The model name that a head refers to. -/
def TypeHead.reference? : TypeHead → Option String
  | builtin _ => none
  | associated target => some target
  | named tag => some tag
  | inlineEnum _ => none

lemma TypeHead.reference?_ofTag (type : Option String) :
    (ofTag type).reference?.toList = tagReference type := by
  cases type with
  | none => rfl
  | some tag =>
    rw [ofTag, tagReference]
    split
    · rfl
    · rfl

lemma TypeHead.reference?_ofTarget (target : Option String) :
    (ofTarget target).reference? = target := by
  cases target with
  | none => rfl
  | some target => rfl

@[simp]
lemma ResolvedType.head_arrayIf (many : Bool) (type : ResolvedType) :
    (type.arrayIf many).head = type.head := by
  cases many with
  | false => rfl
  | true => rfl

namespace Element

/-- The model name that the type of an element refers to, its enum members left aside. -/
def reference? (element : Element) : Option String :=
  (ResolvedType.ofElement element).head.reference?

/-- Whether collecting references meets enum members somewhere below an element on the way to the
name that its type refers to. -/
def hidesReference (element : Element) : Bool :=
  if element.isAssociation then false
  else
    match element with
    | ⟨_, _, _, _, some items, _, _⟩ => items.enumCarrier?.isSome || hidesReference items
    | ⟨_, _, _, _, none, _, _⟩ => false

lemma reference?_of_association {element : Element} (h : element.isAssociation) :
    element.reference? = element.target := by
  rw [reference?, ResolvedType.ofElement.eq_def, ResolvedType.head_arrayIf, if_pos h]
  exact TypeHead.reference?_ofTarget element.target

lemma reference?_of_items {element items : Element} (h : element.isAssociation = false)
    (hitems : element.items = some items) : element.reference? = items.reference? := by
  obtain ⟨type, cardinality, members, target, _, isKey, isNotNull⟩ := element
  obtain rfl : _ = some items := hitems
  rw [reference?, ResolvedType.ofElement, h, if_neg Bool.false_ne_true, ResolvedType.head_arrayIf]
  rfl

lemma reference?_of_tag {element : Element} (h : element.isAssociation = false)
    (hitems : element.items = none) : element.reference?.toList = tagReference element.type := by
  obtain ⟨type, cardinality, members, target, _, isKey, isNotNull⟩ := element
  obtain rfl : _ = none := hitems
  rw [reference?, ResolvedType.ofElement, h, if_neg Bool.false_ne_true, ResolvedType.head_arrayIf]
  exact TypeHead.reference?_ofTag type

lemma hidesReference_of_association {element : Element} (h : element.isAssociation) :
    element.hidesReference = false := by
  rw [hidesReference.eq_def, if_pos h]

lemma hidesReference_of_items {element items : Element} (h : element.isAssociation = false)
    (hitems : element.items = some items) :
    element.hidesReference = (items.enumCarrier?.isSome || items.hidesReference) := by
  obtain ⟨type, cardinality, members, target, _, isKey, isNotNull⟩ := element
  obtain rfl : _ = some items := hitems
  rw [hidesReference.eq_def, h, if_neg Bool.false_ne_true]

lemma hidesReference_of_tag {element : Element} (hitems : element.items = none) :
    element.hidesReference = false := by
  obtain ⟨type, cardinality, members, target, _, isKey, isNotNull⟩ := element
  obtain rfl : _ = none := hitems
  rw [hidesReference.eq_def, ite_self]

/-- Collecting yields the reference of an element unless it stops at enum members. -/
theorem references_eq (element : Element) :
    element.references =
      if element.enumCarrier?.isSome || element.hidesReference then []
      else element.reference?.toList := by
  rw [references.eq_def]
  cases hcarrier : element.enumCarrier?.isSome with
  | true => rfl
  | false =>
    rw [if_neg Bool.false_ne_true, Bool.false_or, hidesReference.eq_def]
    cases hassociation : element.isAssociation with
    | true =>
      rw [if_pos rfl, if_pos rfl, if_neg Bool.false_ne_true, reference?_of_association hassociation]
    | false =>
      rw [if_neg Bool.false_ne_true, if_neg Bool.false_ne_true]
      match element with
      | ⟨_, _, _, _, some items, _, _⟩ =>
        rw [reference?_of_items hassociation rfl]
        exact references_eq items
      | ⟨_, _, _, _, none, _, _⟩ =>
        rw [if_neg Bool.false_ne_true, reference?_of_tag hassociation rfl]

lemma mem_references_iff {element : Element} {reference : String} :
    reference ∈ element.references ↔
      element.enumCarrier?.isSome = false ∧ element.hidesReference = false ∧
        element.reference? = some reference := by
  rw [references_eq]
  cases element.enumCarrier?.isSome with
  | true => simp
  | false =>
    cases element.hidesReference with
    | true => simp
    | false => simp

end Element

/-- The types that a declaration is written with. -/
def Declaration.types : Declaration → List TypeExpression
  | interface _ properties => properties.map (·.type)
  | enumeration _ _ => []
  | typeAlias _ type => [type]

lemma types_fieldEnum? {owner field : String} {element : Element} {declaration : Declaration}
    (h : fieldEnum? owner field element = some declaration) : declaration.types = [] := by
  obtain ⟨carrier, -, rfl⟩ := Option.map_eq_some_iff.mp h
  rfl

namespace Definition

/-- The types that the declarations of a definition are written with. -/
def writtenTypes (owner : String) (definition : Definition) : Shape → List ResolvedType
  | .interface => definition.fields.map fun field => .ofField owner field.1 field.2
  | .enumeration => []
  | .typeAlias => [.ofElement definition.underlying]

/-- The model names that the written types refer to. -/
def writtenReferences (owner : String) (definition : Definition) (shape : Shape) : List String :=
  (definition.writtenTypes owner shape).filterMap (·.head.reference?)

/-- The elements that are written with their own types: the fields without an enum, or the renamed
type. -/
def typedElements (definition : Definition) : Shape → List Element
  | .interface => (definition.fields.map Prod.snd).filter (·.enumCarrier?.isNone)
  | .enumeration => []
  | .typeAlias => [definition.underlying]

/-- A written name of which collecting meets enum members at every place where it is written. -/
structure Overlooks (definition : Definition) (shape : Shape) (reference : String) : Prop where
  written : ∃ element ∈ definition.typedElements shape, element.reference? = some reference
  hidden : ∀ element ∈ definition.typedElements shape,
    element.reference? = some reference → element.hidesReference

/-- A name that is collected from the items of an alias that is written as an association without
a target. -/
structure CollectsIdly (definition : Definition) (shape : Shape) (reference : String) : Prop where
  isAlias : shape = .typeAlias
  untargeted : definition.target = none
  association : definition.underlying.isAssociation
  collected : ∃ items, definition.items = some items ∧ reference ∈ items.references

lemma reference?_ofField (owner : String) (field : String × Element) :
    (ResolvedType.ofField owner field.1 field.2).head.reference? =
      if field.2.enumCarrier?.isNone then field.2.reference? else none := by
  rw [ResolvedType.ofField]
  cases hcarrier : field.2.enumCarrier? with
  | none => rfl
  | some carrier =>
    rw [Option.isSome_some, if_pos rfl, ResolvedType.head_arrayIf]
    rfl

lemma mem_writtenReferences_iff {owner : String} {definition : Definition} {shape : Shape}
    {reference : String} :
    reference ∈ definition.writtenReferences owner shape ↔
      ∃ element ∈ definition.typedElements shape, element.reference? = some reference := by
  rw [writtenReferences, List.mem_filterMap]
  cases shape with
  | interface =>
    constructor
    · rintro ⟨type, htype, hreference⟩
      obtain ⟨field, hfield, rfl⟩ := List.mem_map.mp htype
      rw [reference?_ofField, Option.ite_none_right_eq_some] at hreference
      exact ⟨field.2, List.mem_filter.mpr ⟨List.mem_map_of_mem hfield, hreference.1⟩, hreference.2⟩
    · rintro ⟨element, helement, hreference⟩
      obtain ⟨hmem, hnone⟩ := List.mem_filter.mp helement
      obtain ⟨field, hfield, rfl⟩ := List.mem_map.mp hmem
      refine ⟨_, List.mem_map_of_mem hfield, ?_⟩
      rw [reference?_ofField, if_pos hnone, hreference]
  | enumeration => simp [writtenTypes, typedElements]
  | typeAlias => simp [writtenTypes, typedElements, Element.reference?]

lemma mem_fieldReferences_iff {definition : Definition} {reference : String} :
    reference ∈ definition.fieldReferences ↔
      ∃ element ∈ definition.typedElements .interface,
        element.hidesReference = false ∧ element.reference? = some reference := by
  rw [fieldReferences, List.mem_flatMap]
  constructor
  · rintro ⟨field, hfield, hreference⟩
    obtain ⟨hcarrier, hrest⟩ := Element.mem_references_iff.mp hreference
    have hnone : field.2.enumCarrier?.isNone := by
      rw [← Option.not_isSome, hcarrier]
      rfl
    exact ⟨field.2, List.mem_filter.mpr ⟨List.mem_map_of_mem hfield, hnone⟩, hrest⟩
  · rintro ⟨element, helement, hrest⟩
    obtain ⟨hmem, hnone⟩ := List.mem_filter.mp helement
    obtain ⟨field, hfield, rfl⟩ := List.mem_map.mp hmem
    refine ⟨field, hfield, Element.mem_references_iff.mpr ⟨?_, hrest⟩⟩
    rw [← Option.not_isSome] at hnone
    simpa using hnone

lemma isAssociation_underlying_of_target {definition : Definition} {target : String}
    (h : definition.target = some target) : definition.underlying.isAssociation := by
  rw [Element.isAssociation, underlying, h]
  rfl

lemma tagReference_of_association {definition : Definition} (htarget : definition.target = none)
    (h : definition.underlying.isAssociation) : tagReference definition.type = [] := by
  rw [Element.isAssociation, underlying, htarget] at h
  simp only [Option.isSome_none, Bool.false_or, Bool.or_eq_true, decide_eq_true_eq] at h
  rcases h with h | h
  · rw [h, tagReference, if_pos (by decide +kernel)]
  · rw [h, tagReference, if_pos (by decide +kernel)]

lemma mem_underlyingReferences_of_target {definition : Definition} {target reference : String}
    (htarget : definition.target = some target) :
    reference ∈ definition.underlyingReferences ↔
      definition.underlying.hidesReference = false ∧
        definition.underlying.reference? = some reference := by
  have hassociation := isAssociation_underlying_of_target htarget
  rw [Element.reference?_of_association hassociation,
    Element.hidesReference_of_association hassociation, underlyingReferences, htarget]
  simp [underlying, htarget, eq_comm]

/-- An association without a target may be anything, but the references of its items are collected. -/
lemma mem_underlyingReferences_of_untargeted {definition : Definition} {reference : String}
    (htarget : definition.target = none) (hassociation : definition.underlying.isAssociation) :
    reference ∈ definition.underlyingReferences ↔ definition.CollectsIdly .typeAlias reference := by
  rw [underlyingReferences, htarget]
  constructor
  · intro h
    cases hitems : definition.items with
    | some items =>
      rw [hitems] at h
      exact ⟨rfl, htarget, hassociation, items, hitems, h⟩
    | none =>
      rw [hitems] at h
      change reference ∈ tagReference definition.type at h
      rw [tagReference_of_association htarget hassociation] at h
      cases h
  · rintro ⟨-, -, -, items, hitems, hcollected⟩
    rw [hitems]
    exact hcollected

lemma mem_underlyingReferences_of_plain {definition : Definition} {reference : String}
    (htarget : definition.target = none)
    (hplain : definition.underlying.isAssociation = false) :
    reference ∈ definition.underlyingReferences ↔
      definition.underlying.hidesReference = false ∧
        definition.underlying.reference? = some reference := by
  rw [underlyingReferences, htarget]
  cases hitems : definition.items with
  | some items =>
    rw [Element.reference?_of_items hplain hitems, Element.hidesReference_of_items hplain hitems,
      Bool.or_eq_false_iff, and_assoc]
    exact Element.mem_references_iff
  | none =>
    have htag := Element.reference?_of_tag hplain hitems
    rw [Element.hidesReference_of_tag hitems, ← Option.mem_toList, htag, eq_self, true_and]
    exact Iff.rfl

lemma mem_underlyingReferences_iff {definition : Definition} {reference : String} :
    reference ∈ definition.underlyingReferences ↔
      (definition.underlying.hidesReference = false ∧
        definition.underlying.reference? = some reference) ∨
      definition.CollectsIdly .typeAlias reference := by
  cases htarget : definition.target with
  | some target =>
    have hidle : ¬definition.CollectsIdly .typeAlias reference := by
      intro h
      have huntargeted := h.untargeted
      rw [htarget] at huntargeted
      cases huntargeted
    rw [or_iff_left hidle]
    exact mem_underlyingReferences_of_target htarget
  | none =>
    cases hassociation : definition.underlying.isAssociation with
    | true =>
      have hnone : definition.underlying.reference? = none :=
        (Element.reference?_of_association hassociation).trans htarget
      have hunwritten : ¬(definition.underlying.hidesReference = false ∧
          definition.underlying.reference? = some reference) := by simp [hnone]
      rw [or_iff_right hunwritten]
      exact mem_underlyingReferences_of_untargeted htarget hassociation
    | false =>
      have hidle : ¬definition.CollectsIdly .typeAlias reference := by
        intro h
        have hno := h.association
        rw [hassociation] at hno
        cases hno
      rw [or_iff_left hidle]
      exact mem_underlyingReferences_of_plain htarget hassociation

lemma CollectsIdly.not_written {definition : Definition} {shape : Shape} {reference : String}
    (h : definition.CollectsIdly shape reference) (owner : String) :
    reference ∉ definition.writtenReferences owner shape := by
  rw [mem_writtenReferences_iff, h.isAlias]
  rintro ⟨element, helement, hreference⟩
  obtain rfl : element = definition.underlying := List.mem_singleton.mp helement
  rw [Element.reference?_of_association h.association, underlying, h.untargeted] at hreference
  cases hreference

lemma not_overlooks_of_plain {definition : Definition} {shape : Shape} {reference : String}
    (h : ∀ element ∈ definition.typedElements shape, element.hidesReference = false) :
    ¬definition.Overlooks shape reference := by
  rintro ⟨⟨element, helement, hreference⟩, hhidden⟩
  have hhides := hhidden element helement hreference
  rw [h element helement] at hhides
  cases hhides

end Definition

namespace Context

lemma types_renderAs (context : Context) (name : String) (definition : Definition) (shape : Shape) :
    (context.renderAs name definition shape).declarations.flatMap Declaration.types =
      (definition.writtenTypes name shape).map context.typeExpression := by
  cases shape with
  | interface =>
    have hnone : (definition.fields.filterMap fun field =>
        fieldEnum? name field.1 field.2).flatMap Declaration.types = [] := by
      refine List.flatMap_eq_nil_iff.mpr fun declaration hdeclaration => ?_
      obtain ⟨field, -, hfield⟩ := List.mem_filterMap.mp hdeclaration
      exact types_fieldEnum? hfield
    change (context.renderStructured name definition).flatMap Declaration.types = _
    rw [renderStructured, List.flatMap_append, hnone, List.nil_append, List.flatMap_singleton,
      renderInterface, Declaration.types, Definition.writtenTypes, List.map_map, List.map_map]
    rfl
  | enumeration => rfl
  | typeAlias => rfl

lemma mem_references_renderAs_iff {context : Context} {name : String} {definition : Definition}
    {shape : Shape} {reference : String} :
    reference ∈ (context.renderAs name definition shape).references ↔
      (∃ element ∈ definition.typedElements shape,
        element.hidesReference = false ∧ element.reference? = some reference) ∨
      definition.CollectsIdly shape reference := by
  have hidle (h : shape ≠ .typeAlias) : ¬definition.CollectsIdly shape reference :=
    fun hidle => h hidle.isAlias
  cases shape with
  | interface =>
    rw [or_iff_left (hidle (by decide))]
    exact Definition.mem_fieldReferences_iff
  | enumeration =>
    rw [or_iff_left (hidle (by decide))]
    simp [renderAs, Definition.typedElements]
  | typeAlias =>
    change reference ∈ definition.underlyingReferences ↔ _
    rw [Definition.mem_underlyingReferences_iff, Definition.typedElements]
    simp only [List.mem_singleton, exists_eq_left]

/-- A name is collected if and only if it is written, unless it is overlooked or collected idly. -/
theorem references_agree_iff (context : Context) (name : String) (definition : Definition)
    (shape : Shape) (reference : String) :
    (reference ∈ (context.renderAs name definition shape).references ↔
      reference ∈ definition.writtenReferences name shape) ↔
    ¬definition.Overlooks shape reference ∧ ¬definition.CollectsIdly shape reference := by
  rw [mem_references_renderAs_iff, Definition.mem_writtenReferences_iff]
  constructor
  · intro hagree
    constructor
    · intro h
      rcases hagree.mpr h.written with ⟨element, helement, hplain, hreference⟩ | hidle
      · have hhidden := h.hidden element helement hreference
        rw [hplain] at hhidden
        cases hhidden
      · exact hidle.not_written name (Definition.mem_writtenReferences_iff.mpr h.written)
    · intro hidle
      exact hidle.not_written name
        (Definition.mem_writtenReferences_iff.mpr (hagree.mp (Or.inr hidle)))
  · rintro ⟨hseen, hidle⟩
    rw [or_iff_left hidle]
    constructor
    · rintro ⟨element, helement, -, hreference⟩
      exact ⟨element, helement, hreference⟩
    · intro hwritten
      by_contra hnone
      refine hseen ⟨hwritten, fun element helement hreference => ?_⟩
      cases hhides : element.hidesReference with
      | true => rfl
      | false => exact absurd ⟨element, helement, hhides, hreference⟩ hnone

end Context

end CdsDeclarations
