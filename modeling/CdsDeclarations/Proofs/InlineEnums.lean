import CdsDeclarations.Proofs.Capitals
import CdsDeclarations.Rendering.Rendered
import Mathlib.Data.List.Basic

/-!
# Enums of fields

A field with enum members has the enum that is declared for it as its type. The name of that enum is
sanitized once more where it is declared. The two names are the same unless the field begins with a
letter whose capital leaves the alphabet of identifiers.
-/

namespace CdsDeclarations

open Identifier

lemma head?_sanitizeChars (chars : List Char) :
    (sanitizeChars chars).head? =
      chars.head?.map fun c => if isAllowed c && !isDigit c then c else '_' := by
  cases chars with
  | nil => rfl
  | cons c rest =>
    rw [sanitizeChars, List.map_cons, protectDigit, replaceForbidden, List.head?_cons,
      Option.map_some]
    by_cases hallowed : isAllowed c = true
    · by_cases hdigit : isDigit c = true
      · simp [hallowed, hdigit]
      · simp [hallowed, hdigit]
    · have hunderscore : isDigit '_' = false := rfl
      simp [hallowed, hunderscore]

lemma markedCapitalLetters_allowed :
    markedCapitalLetters.all (fun c => isAllowed c && !isDigit c) = true := by
  decide +kernel

lemma head?_sanitizeChars_marked {chars : List Char} {c : Char} (hc : c ∈ markedCapitalLetters) :
    (sanitizeChars chars).head? = some c ↔ chars.head? = some c := by
  rw [head?_sanitizeChars, Option.map_eq_some_iff]
  constructor
  · rintro ⟨d, hd, hkept⟩
    split at hkept
    · rw [hd, hkept]
    · rw [← hkept] at hc
      exact absurd hc (by decide)
  · intro hhead
    exact ⟨c, hhead, if_pos (List.all_eq_true.mp markedCapitalLetters_allowed c hc)⟩

def capitalizeChars : List Char → List Char
  | [] => []
  | first :: rest => upperMapping.apply first ++ rest

lemma toList_capitalize (text : String) :
    (capitalize text).toList = capitalizeChars text.toList := by
  rw [capitalize]
  cases text.toList with
  | nil => rfl
  | cons first rest => rw [String.toList_ofList, capitalizeChars]

lemma isIdentifier_capitalizeChars {chars : List Char} (hchars : IsIdentifier chars)
    (hhead : ∀ c, chars.head? = some c → c ∉ markedCapitalLetters) :
    IsIdentifier (capitalizeChars chars) := by
  cases chars with
  | nil => exact hchars
  | cons first rest =>
    have hrest : ∀ c ∈ rest, isAllowed c := fun c hc => hchars.allowed c (List.mem_cons_of_mem _ hc)
    rw [capitalizeChars]
    rcases upper_cases first with ⟨hmarked, -⟩ | ⟨-, hsame | ⟨hne, hcapitals⟩⟩
    · exact absurd hmarked (hhead first rfl)
    · rw [hsame]
      exact hchars
    · refine ⟨fun c hc => ?_, fun c hc => ?_⟩
      · rcases List.mem_append.mp hc with hc | hc
        · exact isAllowed_of_isAlphabetic (hcapitals c hc).alphabetic
        · exact hrest c hc
      · rw [List.head?_append_of_ne_nil _ hne] at hc
        exact (hcapitals c (List.mem_of_head? hc)).notDigit

lemma head?_not_marked_of_allowed {chars : List Char}
    (hallowed : ∀ d ∈ capitalizeChars chars, isAllowed d) :
    ∀ c, chars.head? = some c → c ∉ markedCapitalLetters := by
  intro c hc hmarked
  obtain ⟨rest, rfl⟩ := List.head?_eq_some_iff.mp hc
  rcases upper_cases c with ⟨-, d, hd, hforbidden⟩ | ⟨hnot, -⟩
  · have hd' := hallowed d (List.mem_append_left rest hd)
    rw [hforbidden] at hd'
    exact Bool.noConfusion hd'
  · exact hnot hmarked

lemma toList_capitalize_sanitize (field : String) :
    (capitalize (sanitize field)).toList = capitalizeChars (sanitizeChars field.toList) := by
  rw [toList_capitalize, toList_sanitize]

lemma toList_inlineEnumName (owner field : String) :
    (ResolvedType.inlineEnumName owner field).toList =
      (ofQualified owner).toList ++ capitalizeChars (sanitizeChars field.toList) := by
  rw [ResolvedType.inlineEnumName, String.toList_append, toList_capitalize_sanitize]

/-- The name of a field's enum is an identifier unless the field begins with a listed letter. -/
lemma isIdentifier_inlineEnumName_iff (owner field : String) :
    IsIdentifier (ResolvedType.inlineEnumName owner field).toList ↔
      ∀ c, field.toList.head? = some c → c ∉ markedCapitalLetters := by
  rw [toList_inlineEnumName]
  constructor
  · intro h c hc hmarked
    have hback : ∀ d ∈ capitalizeChars (sanitizeChars field.toList), isAllowed d :=
      fun d hd => h.allowed d (List.mem_append_right _ hd)
    exact head?_not_marked_of_allowed hback c ((head?_sanitizeChars_marked hmarked).mpr hc) hmarked
  · intro h
    refine (isIdentifier_ofQualified owner).append ?_
    refine isIdentifier_capitalizeChars (isIdentifier_sanitizeChars field.toList) ?_
    exact fun c hc hmarked => h c ((head?_sanitizeChars_marked hmarked).mp hc) hmarked

lemma head_ofField_of_carrier {owner field : String} {element : Element}
    (hcarrier : element.enumCarrier?.isSome) :
    (ResolvedType.ofField owner field element).head =
      .inlineEnum (ResolvedType.inlineEnumName owner field) := by
  rw [ResolvedType.ofField, if_pos hcarrier, ResolvedType.arrayIf]
  split
  · rfl
  · rfl

/-- The enum of a field is declared beside the interface, and under the name that the field's type
has exactly if the field does not begin with a listed letter. -/
theorem inline_enum_declared_as_used_iff (context : Context) (owner : String)
    (definition : Definition) (field : String) (element : Element)
    (hfield : (field, element) ∈ definition.fields) (hcarrier : element.enumCarrier?.isSome) :
    ∃ declared members properties,
      fieldEnum? owner field element = some (.enumeration declared members) ∧
      .enumeration declared members ∈ context.renderStructured owner definition ∧
      .interface (context.interfaceName owner) properties ∈
        context.renderStructured owner definition ∧
      context.property owner (field, element) ∈ properties ∧
      (declared = (context.property owner (field, element)).type.name ↔
        ∀ c, field.toList.head? = some c → c ∉ markedCapitalLetters) := by
  obtain ⟨carrier, hsome⟩ := Option.isSome_iff_exists.mp hcarrier
  have hdeclared : fieldEnum? owner field element =
      some (renderEnum (ResolvedType.inlineEnumName owner field) carrier.type carrier.members) := by
    rw [fieldEnum?, hsome, Option.map_some]
  have hused : (context.property owner (field, element)).type.name =
      ResolvedType.inlineEnumName owner field := by
    rw [Context.property, Context.typeExpression, head_ofField_of_carrier hcarrier]
    rfl
  refine ⟨_, _, definition.fields.map (context.property owner), hdeclared, ?_, ?_, ?_, ?_⟩
  · exact List.mem_append_left _ (List.mem_filterMap.mpr ⟨(field, element), hfield, hdeclared⟩)
  · exact List.mem_append_right _ (List.mem_singleton.mpr rfl)
  · exact List.mem_map_of_mem hfield
  · rw [hused, ofQualified_eq_self_iff, isIdentifier_inlineEnumName_iff]

theorem inline_enum_of_status_declared_as_used :
    let element := Element.withEnum none (.ofList [("Draft", .implicit)])
    let definition := Definition.entity (.ofList [("status", element)])
    ("status", element) ∈ definition.fields ∧ element.enumCarrier?.isSome ∧
      ∃ declared members, fieldEnum? "Books" "status" element = some (.enumeration declared members) ∧
        declared = ((⟨"I", none⟩ : Context).property "Books" ("status", element)).type.name := by
  intro element definition
  have hfield : ("status", element) ∈ definition.fields := List.mem_singleton.mpr rfl
  obtain ⟨declared, members, -, hdeclared, -, -, -, hiff⟩ :=
    inline_enum_declared_as_used_iff ⟨"I", none⟩ "Books" definition "status" element hfield rfl
  refine ⟨hfield, rfl, declared, members, hdeclared, hiff.mpr fun c hc => ?_⟩
  obtain rfl : 's' = c := Option.some.inj hc
  decide

/-- The capital of ǰ is J with a caron, which is no letter, so that the declared name differs from
the one in use. -/
theorem inline_enum_of_caron_declared_otherwise :
    let element := Element.withEnum none (.ofList [("M", .implicit)])
    let property := (⟨"", none⟩ : Context).property "A" ("ǰx", element)
    ∃ members, fieldEnum? "A" "ǰx" element = some (.enumeration "AJ_x" members) ∧
      property.type.name = "AJ\u030cx" ∧ "AJ_x" ≠ property.type.name := by
  refine ⟨[⟨"M", some (.text "M")⟩], ?_, ?_, ?_⟩
  · decide +kernel
  · decide +kernel
  · decide +kernel

end CdsDeclarations
