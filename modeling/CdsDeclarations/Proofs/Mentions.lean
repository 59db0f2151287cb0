import CdsDeclarations.Generation.Unit
import CdsDeclarations.Proofs.InsertionOrder
import CdsDeclarations.Proofs.References
import Mathlib.Data.List.Nodup

/-!
# Mentioned names

A definition is rendered the same way in two models under one prefix if both declare the same of the
names that it mentions as interfaces. The references collected for it are among these names.
-/

namespace CdsDeclarations

namespace Element

/-- The type tags and targets of an element and of its items on every level. -/
def mentionedNames (element : Element) : List String :=
  element.type.toList ++ element.target.toList ++
    match element with
    | ⟨_, _, _, _, some items, _, _⟩ => mentionedNames items
    | ⟨_, _, _, _, none, _, _⟩ => []

lemma mem_mentionedNames_of_items {element items : Element} {name : String}
    (hitems : element.items = some items) (h : name ∈ items.mentionedNames) :
    name ∈ element.mentionedNames := by
  obtain ⟨type, cardinality, members, target, _, isKey, isNotNull⟩ := element
  obtain rfl : _ = some items := hitems
  rw [mentionedNames]
  exact List.mem_append_right _ h

lemma mem_mentionedNames_of_type {element : Element} {name : String}
    (h : element.type = some name) : name ∈ element.mentionedNames := by
  rw [mentionedNames.eq_def, h]
  exact List.mem_append_left _ (List.mem_append_left _ (List.mem_singleton_self name))

lemma mem_mentionedNames_of_target {element : Element} {name : String}
    (h : element.target = some name) : name ∈ element.mentionedNames := by
  rw [mentionedNames.eq_def, h]
  exact List.mem_append_left _ (List.mem_append_right _ (List.mem_singleton_self name))

lemma mem_of_mem_tagReference {type : Option String} {name : String}
    (h : name ∈ tagReference type) : type = some name := by
  cases type with
  | none => cases h
  | some tag =>
    rw [tagReference] at h
    split at h
    · cases h
    · rw [List.mem_singleton.mp h]

/-- The name that an element's type refers to is mentioned. -/
lemma mem_mentionedNames_of_reference? (element : Element) {name : String}
    (h : element.reference? = some name) : name ∈ element.mentionedNames := by
  cases hassociation : element.isAssociation with
  | true =>
    rw [reference?_of_association hassociation] at h
    exact mem_mentionedNames_of_target h
  | false =>
    match element with
    | ⟨_, _, _, _, some items, _, _⟩ =>
      rw [reference?_of_items hassociation rfl] at h
      exact mem_mentionedNames_of_items rfl (mem_mentionedNames_of_reference? items h)
    | ⟨_, _, _, _, none, _, _⟩ =>
      have htag := reference?_of_tag hassociation rfl
      rw [h] at htag
      apply mem_mentionedNames_of_type
      exact mem_of_mem_tagReference (htag ▸ List.mem_singleton_self name)

end Element

/-- The names that a definition mentions in its fields or, if it is an alias, as the renamed type. -/
def Definition.mentionedNames (definition : Definition) : List String :=
  definition.fields.flatMap (·.2.mentionedNames) ++
    if Shape.of? definition = some .typeAlias then definition.underlying.mentionedNames else []

/-- The names that the definitions of a model mention. -/
def Schema.mentionedNames (schema : Schema) : List String :=
  schema.definitions.entries.flatMap (·.2.mentionedNames)

/-- Contexts with one prefix in which the same of some names are interfaces. -/
structure Context.AgreeOn (context other : Context) (names : List String) : Prop where
  samePrefix : context.interfacePrefix = other.interfacePrefix
  sameInterfaces : ∀ name ∈ names, context.isInterface name = other.isInterface name

section Rendering

variable {definition : Definition} {shape : Shape} {reference : String}

lemma mem_mentionedNames_of_typedElement (hshape : Shape.of? definition = some shape)
    {element : Element} (helement : element ∈ definition.typedElements shape)
    (hmem : reference ∈ element.mentionedNames) : reference ∈ definition.mentionedNames := by
  rw [Definition.mentionedNames]
  cases shape with
  | interface =>
    obtain ⟨field, hfield, rfl⟩ := List.mem_map.mp (List.mem_filter.mp helement).1
    exact List.mem_append_left _ (List.mem_flatMap.mpr ⟨field, hfield, hmem⟩)
  | enumeration => cases helement
  | typeAlias =>
    rw [List.mem_singleton.mp helement] at hmem
    rw [if_pos hshape]
    exact List.mem_append_right _ hmem

lemma mem_mentionedNames_of_written (hshape : Shape.of? definition = some shape) {owner : String}
    (h : reference ∈ definition.writtenReferences owner shape) :
    reference ∈ definition.mentionedNames := by
  obtain ⟨element, helement, hreference⟩ := Definition.mem_writtenReferences_iff.mp h
  exact mem_mentionedNames_of_typedElement hshape helement
    (element.mem_mentionedNames_of_reference? hreference)

/-- The collected references of a declared definition are among the names that it mentions. -/
lemma mem_mentionedNames_of_collected (hshape : Shape.of? definition = some shape)
    {context : Context} {name : String}
    (h : reference ∈ (context.renderAs name definition shape).references) :
    reference ∈ definition.mentionedNames := by
  rcases Context.mem_references_renderAs_iff.mp h with ⟨element, helement, -, hreference⟩ | hidle
  · exact mem_mentionedNames_of_typedElement hshape helement
      (element.mem_mentionedNames_of_reference? hreference)
  · obtain ⟨items, hitems, hcollected⟩ := hidle.collected
    have hreference := (Element.mem_references_iff.mp hcollected).2.2
    have hunderlying : reference ∈ definition.underlying.mentionedNames :=
      Element.mem_mentionedNames_of_items hitems
        (items.mem_mentionedNames_of_reference? hreference)
    rw [hidle.isAlias] at hshape
    rw [Definition.mentionedNames, if_pos hshape]
    exact List.mem_append_right _ hunderlying

namespace Context

variable {context other : Context} {names fewer : List String}

lemma AgreeOn.mono (h : context.AgreeOn other names) (hsub : fewer ⊆ names) :
    context.AgreeOn other fewer :=
  ⟨h.samePrefix, fun name hname => h.sameInterfaces name (hsub hname)⟩

lemma AgreeOn.interfaceName (h : context.AgreeOn other names) :
    context.interfaceName = other.interfaceName := by
  funext name
  rw [Context.interfaceName, Context.interfaceName, h.samePrefix]

lemma AgreeOn.headName {head : TypeHead} (h : context.AgreeOn other names)
    (hmem : ∀ name, head.reference? = some name → name ∈ names) :
    context.headName head = other.headName head := by
  cases head with
  | builtin type => rfl
  | associated target => exact congrFun h.interfaceName target
  | named tag =>
    change context.referenceName tag = other.referenceName tag
    rw [referenceName, referenceName, h.sameInterfaces tag (hmem tag rfl), h.interfaceName]
  | inlineEnum name => rfl

lemma AgreeOn.typeExpression {type : ResolvedType} (h : context.AgreeOn other names)
    (hmem : ∀ name, type.head.reference? = some name → name ∈ names) :
    context.typeExpression type = other.typeExpression type := by
  rw [Context.typeExpression, Context.typeExpression, h.headName hmem]

/-- What a definition is rendered as depends on the prefix and on which of the names that it mentions
are interfaces, and on nothing else in the model. -/
theorem AgreeOn.render? {name : String} (h : context.AgreeOn other definition.mentionedNames) :
    context.render? name definition = other.render? name definition := by
  refine Option.map_congr fun shape hshape => ?_
  have hwritten : ∀ type ∈ definition.writtenTypes name shape,
      context.typeExpression type = other.typeExpression type := by
    intro type htype
    refine h.typeExpression fun reference hreference => ?_
    exact mem_mentionedNames_of_written hshape (List.mem_filterMap.mpr ⟨type, htype, hreference⟩)
  have hname : context.declarationName name shape = other.declarationName name shape := by
    cases shape with
    | interface => exact congrFun h.interfaceName name
    | enumeration => rfl
    | typeAlias => rfl
  have hdeclarations : (context.renderAs name definition shape).declarations =
      (other.renderAs name definition shape).declarations := by
    cases shape with
    | interface =>
      have hproperties : definition.fields.map (context.property name) =
          definition.fields.map (other.property name) := by
        refine List.map_congr_left fun field hfield => ?_
        rw [property, property, hwritten _ (List.mem_map_of_mem hfield)]
      change context.renderStructured name definition = other.renderStructured name definition
      rw [renderStructured, renderStructured, renderInterface, renderInterface, h.interfaceName,
        hproperties]
    | enumeration => rfl
    | typeAlias =>
      change [context.renderAlias name definition] = [other.renderAlias name definition]
      rw [renderAlias, renderAlias, hwritten _ (List.mem_singleton_self _)]
  exact (Rendered.mk.injEq ..).mpr ⟨rfl, hname, rfl, hdeclarations⟩

lemma AgreeOn.unit? {entry : String × Definition}
    (h : context.AgreeOn other entry.2.mentionedNames) :
    Schema.unit? context entry = Schema.unit? other entry := by
  rw [Schema.unit?, Schema.unit?, h.render?]

/-- A model declares a name as an interface if it holds such a definition under that name. -/
lemma isInterface_context_iff {schema : Schema} {config : Config} {name : String} :
    (config.context schema).isInterface name ↔
      ∃ definition, (name, definition) ∈ schema.definitions.entries ∧
        Shape.of? definition = some .interface := by
  rw [isInterface, decide_eq_true_iff, Option.bind_eq_some_iff]
  exact exists_congr fun definition => and_congr_left fun _ => OrderedMap.get?_eq_some_iff

end Context

end Rendering

end CdsDeclarations
