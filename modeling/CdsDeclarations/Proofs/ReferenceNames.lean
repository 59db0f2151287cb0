import CdsDeclarations.Generation.Unit
import CdsDeclarations.Proofs.References

/-!
# Names of references

A reference by type tag is spelled like the declaration that it refers to. An association carries the
prefix whatever its target is declared as, so that it is spelled like an interface, but not like an
enum or an alias unless the prefix is empty.
-/

namespace CdsDeclarations

open Identifier

/-- The part of an element that names the definition which its type refers to. -/
inductive ReferenceRoute
  | target
  | tag
  deriving DecidableEq, Repr

/-- The type of an element refers to a name: an association to its target, any other element to its
type tag if that is no scalar, and an arrayed element to what its items refer to. -/
inductive Element.RefersBy : Element → ReferenceRoute → String → Prop
  | target {element : Element} {name : String} (hassociation : element.isAssociation)
      (htarget : element.target = some name) : element.RefersBy .target name
  | tag {element : Element} {name : String} (hplain : element.isAssociation = false)
      (hitems : element.items = none) (htype : element.type = some name)
      (hscalar : ScalarType.isScalarTag name = false) : element.RefersBy .tag name
  | items {element items : Element} {route : ReferenceRoute} {name : String}
      (hplain : element.isAssociation = false) (hitems : element.items = some items)
      (hrefers : items.RefersBy route name) : element.RefersBy route name

/-- The head of a type that refers to a name in one of the two ways. -/
def ReferenceRoute.head (name : String) : ReferenceRoute → TypeHead
  | target => .associated name
  | tag => .named name

lemma head_ofElement_of_refersBy {element : Element} {route : ReferenceRoute} {name : String}
    (h : element.RefersBy route name) : (ResolvedType.ofElement element).head = route.head name := by
  induction h with
  | target hassociation htarget =>
    rw [ResolvedType.ofElement.eq_def, ResolvedType.head_arrayIf, if_pos hassociation, htarget]
    rfl
  | @tag element name hplain hitems htype hscalar =>
    obtain ⟨type, cardinality, members, target, _, isKey, isNotNull⟩ := element
    obtain rfl : _ = none := hitems
    obtain rfl : type = some name := htype
    rw [ResolvedType.ofElement, hplain, if_neg Bool.false_ne_true, ResolvedType.head_arrayIf]
    change TypeHead.ofTag (some name) = .named name
    rw [TypeHead.ofTag, hscalar, if_neg Bool.false_ne_true]
  | @items element items route name hplain hitems hrefers ih =>
    obtain ⟨type, cardinality, members, target, _, isKey, isNotNull⟩ := element
    obtain rfl : _ = some items := hitems
    rw [ResolvedType.ofElement, hplain, if_neg Bool.false_ne_true, ResolvedType.head_arrayIf, ← ih]
    rfl

namespace Context

/-- Interfaces carry the prefix, enums and aliases do not. -/
lemma declarationName_eq (context : Context) (name : String) (shape : Shape) :
    context.declarationName name shape =
      (if shape = .interface then context.interfacePrefix else "") ++ ofQualified name := by
  cases shape with
  | interface => rfl
  | enumeration => exact (String.empty_append).symm
  | typeAlias => exact (String.empty_append).symm

lemma referenceName_of_shape {context : Context} {name : String} {definition : Definition}
    {shape : Shape} (hdefinition : context.schema.bind (·.get? name) = some definition)
    (hshape : Shape.of? definition = some shape) :
    context.referenceName name = context.declarationName name shape := by
  rw [referenceName, isInterface, hdefinition, Option.bind_some, hshape]
  cases shape with
  | interface => rfl
  | enumeration => rfl
  | typeAlias => rfl

/-- A reference carries the prefix if it is an association or if its target is an interface. -/
lemma headName_of_route {context : Context} {name : String} {definition : Definition} {shape : Shape}
    (route : ReferenceRoute) (hdefinition : context.schema.bind (·.get? name) = some definition)
    (hshape : Shape.of? definition = some shape) :
    context.headName (route.head name) =
      (if route = .target ∨ shape = .interface then context.interfacePrefix else "") ++
        ofQualified name := by
  cases route with
  | target => rfl
  | tag =>
    have hroute : (ReferenceRoute.tag = .target ∨ shape = .interface) ↔ shape = .interface := by
      simp
    simp only [hroute]
    exact (referenceName_of_shape hdefinition hshape).trans (context.declarationName_eq name shape)

lemma getLast?_declarations_renderAs (context : Context) (name : String) (definition : Definition)
    (shape : Shape) :
    (context.renderAs name definition shape).declarations.getLast?.map Declaration.name =
      some (context.declarationName name shape) := by
  cases shape with
  | interface =>
    change (context.renderStructured name definition).getLast?.map Declaration.name = _
    rw [renderStructured, List.getLast?_concat]
    rfl
  | enumeration => rfl
  | typeAlias => rfl

end Context

/-- The types of elements without an enum of their own are written as they are resolved. -/
lemma ofElement_mem_writtenTypes {owner : String} {definition : Definition} {shape : Shape}
    {element : Element} (h : element ∈ definition.typedElements shape) :
    .ofElement element ∈ definition.writtenTypes owner shape := by
  cases shape with
  | interface =>
    obtain ⟨hmem, hnone⟩ := List.mem_filter.mp h
    obtain ⟨field, hfield, rfl⟩ := List.mem_map.mp hmem
    refine List.mem_map.mpr ⟨field, hfield, ?_⟩
    rw [ResolvedType.ofField, Option.isNone_iff_eq_none.mp hnone, Option.isSome_none,
      if_neg Bool.false_ne_true]
  | enumeration => cases h
  | typeAlias =>
    rw [List.mem_singleton.mp h]
    exact List.mem_singleton_self _

/-- A reference to a declared definition is spelled like its declaration, unless it is an association
to an enum or an alias under a prefix. -/
theorem reference_spelled_as_declared_iff (schema : Schema) (config : Config) (element : Element)
    (route : ReferenceRoute) (name : String) (definition : Definition) (rendered : Rendered)
    (hrefers : element.RefersBy route name) (hdefinition : schema.get? name = some definition)
    (hrendered : (config.context schema).render? name definition = some rendered) :
    (∀ owner ownerDefinition ownerRendered,
      (config.context schema).render? owner ownerDefinition = some ownerRendered →
      element ∈ ownerDefinition.typedElements ownerRendered.shape →
      (config.context schema).typeExpression (.ofElement element) ∈
        ownerRendered.declarations.flatMap Declaration.types) ∧
    rendered.declarations.getLast?.map Declaration.name = some rendered.name ∧
    rendered.name =
      (if rendered.shape = .interface then config.interfacePrefix else "") ++ ofQualified name ∧
    ((config.context schema).typeExpression (.ofElement element)).name =
      (if route = .target ∨ rendered.shape = .interface then config.interfacePrefix else "") ++
        ofQualified name ∧
    (((config.context schema).typeExpression (.ofElement element)).name = rendered.name ↔
      (route = .target → rendered.shape = .interface ∨ config.interfacePrefix = "")) := by
  obtain ⟨shape, hshape, rfl⟩ := Option.map_eq_some_iff.mp hrendered
  have hdeclared := (config.context schema).declarationName_eq name shape
  have hreferred : (config.context schema).headName (ResolvedType.ofElement element).head =
      (if route = .target ∨ shape = .interface then config.interfacePrefix else "") ++
        ofQualified name := by
    rw [head_ofElement_of_refersBy hrefers]
    exact Context.headName_of_route route hdefinition hshape
  refine ⟨?_, Context.getLast?_declarations_renderAs _ name definition shape, hdeclared, hreferred, ?_⟩
  · intro owner ownerDefinition ownerRendered howner helement
    obtain ⟨ownerShape, -, rfl⟩ := Option.map_eq_some_iff.mp howner
    rw [Context.types_renderAs]
    exact List.mem_map_of_mem (ofElement_mem_writtenTypes helement)
  · change (config.context schema).headName (ResolvedType.ofElement element).head =
        (config.context schema).declarationName name shape ↔
      (route = .target → shape = .interface ∨ config.interfacePrefix = "")
    rw [hreferred, hdeclared, String.append_left_inj]
    by_cases hinterface : shape = .interface
    · simp [hinterface, Config.context]
    · cases route with
      | target => simp [hinterface]
      | tag => simp [hinterface]

/-- The items of a field refer to an alias by its own name, whatever the prefix. -/
theorem genres_of_books_spelled_as_declared :
    let element : Element := { items := some (.ofType "my.Genre"), cardinality := some .toMany }
    let genre := Definition.ofTag "cds.String"
    let schema := Schema.ofDefinitions
      (.ofList [("my.Books", .entity (.ofList [("genres", element)])), ("my.Genre", genre)])
    let config : Config := { interfacePrefix := "I" }
    element.RefersBy .tag "my.Genre" ∧ schema.get? "my.Genre" = some genre ∧
      ∃ rendered, (config.context schema).render? "my.Genre" genre = some rendered ∧
        ((config.context schema).typeExpression (.ofElement element)).name = rendered.name := by
  intro element genre schema config
  have hrefers : element.RefersBy .tag "my.Genre" :=
    .items rfl rfl (.tag rfl rfl rfl (by decide +kernel))
  have hdefinition : schema.get? "my.Genre" = some genre := by decide +kernel
  have hrendered : (config.context schema).render? "my.Genre" genre =
      some ((config.context schema).renderAs "my.Genre" genre .typeAlias) := rfl
  obtain ⟨-, -, -, -, hiff⟩ := reference_spelled_as_declared_iff schema config element .tag "my.Genre"
    genre _ hrefers hdefinition hrendered
  exact ⟨hrefers, hdefinition, _, hrendered, hiff.mpr (by decide)⟩

/-- An association to an enum is written with a prefix that the enum is declared without. -/
theorem association_to_enum_spelled_otherwise :
    let element := Element.association "Color" .toOne
    let color := Definition.enumeration none (.ofList [("Red", .implicit)])
    let schema := Schema.ofDefinitions
      (.ofList [("Color", color), ("A", .entity (.ofList [("c", element)]))])
    let config : Config := { interfacePrefix := "I" }
    element.RefersBy .target "Color" ∧ schema.get? "Color" = some color ∧
      ∃ rendered, (config.context schema).render? "Color" color = some rendered ∧
        rendered.name = "Color" ∧
        ((config.context schema).typeExpression (.ofElement element)).name = "IColor" ∧
        ((config.context schema).typeExpression (.ofElement element)).name ≠ rendered.name := by
  intro element color schema config
  refine ⟨.target rfl rfl, ?_, _, rfl, ?_, ?_, ?_⟩
  · decide +kernel
  · decide +kernel
  · decide +kernel
  · decide +kernel

end CdsDeclarations
