import CdsDeclarations.Proofs.InlineEnums
import CdsDeclarations.Proofs.References
import CdsDeclarations.Proofs.TextBlocks

/-!
# Texts on one line

Everything that declarations are written with stays on one line: identifiers, capitals, numbers and
string literals, whatever characters the model holds. The prefix of interfaces is the only text that
is written as it is given.
-/

namespace CdsDeclarations

open Identifier

lemma isAllowed_lineFeed : isAllowed '\n' = false :=
  isAllowed_eq_false (by decide) (by decide) (by decide)

lemma IsIdentifier.onOneLine {name : String} (h : IsIdentifier name.toList) : OnOneLine name :=
  fun hmem => Bool.false_ne_true (isAllowed_lineFeed.symm.trans (h.allowed '\n' hmem))

lemma onOneLine_ofQualified (qualified : String) : OnOneLine (ofQualified qualified) :=
  (isIdentifier_ofQualified qualified).onOneLine

lemma onOneLine_sanitize (raw : String) : OnOneLine (sanitize raw) :=
  (isIdentifier_sanitize raw).onOneLine

lemma lineFeed_not_mem_upper {c : Char} (hc : c ≠ '\n') : '\n' ∉ upperMapping.apply c :=
  not_mem_upper hc.symm (by decide) (by decide) (by decide)

lemma onOneLine_capitalize {text : String} (h : OnOneLine text) : OnOneLine (capitalize text) := by
  rw [OnOneLine, toList_capitalize]
  rw [OnOneLine] at h
  cases hchars : text.toList with
  | nil => exact List.not_mem_nil
  | cons first rest =>
    rw [hchars, List.mem_cons, not_or] at h
    rw [capitalizeChars, List.mem_append, not_or]
    exact ⟨lineFeed_not_mem_upper fun heq => h.1 heq.symm, h.2⟩

lemma onOneLine_inlineEnumName (owner field : String) :
    OnOneLine (ResolvedType.inlineEnumName owner field) := by
  rw [ResolvedType.inlineEnumName, onOneLine_append]
  exact ⟨onOneLine_ofQualified owner, onOneLine_capitalize (onOneLine_sanitize field)⟩

namespace Number

/-- The characters that numbers are written with. -/
def isTextChar (c : Char) : Bool :=
  c.isDigit || ['.', 'e', '+', '-'].contains c

lemma isTextChar_of_mem_toDigits {n : Nat} : ∀ c ∈ Nat.toDigits 10 n, isTextChar c := by
  intro c hc
  rw [isTextChar, Nat.isDigit_of_mem_toDigits (by decide) (by decide) hc, Bool.true_or]

lemma isTextChar_replicate_zero (count : Nat) : ∀ c ∈ List.replicate count '0', isTextChar c := by
  intro c hc
  rw [List.eq_of_mem_replicate hc]
  rfl

section Digits

variable {digits : List Char}

lemma isTextChar_significantDigits (h : ∀ c ∈ digits, isTextChar c) :
    ∀ c ∈ significantDigits digits, isTextChar c := by
  intro c hc
  rw [significantDigits] at hc
  split at hc
  · rw [List.mem_singleton.mp hc]
    rfl
  · refine h c (List.mem_reverse.mp ?_)
    exact (List.dropWhile_sublist _).subset (List.mem_reverse.mp hc)

lemma isTextChar_positional (h : ∀ c ∈ digits, isTextChar c) (leading : Int) :
    ∀ c ∈ positional digits leading, isTextChar c := by
  rw [positional]
  split
  · rw [List.forall_mem_append, List.forall_mem_cons, List.forall_mem_cons]
    exact ⟨⟨rfl, rfl, isTextChar_replicate_zero _⟩, h⟩
  · have hpadded := List.forall_mem_append.mpr
      ⟨h, isTextChar_replicate_zero (leading.toNat + 1 + 1 - digits.length)⟩
    rw [List.forall_mem_append, List.forall_mem_cons]
    exact ⟨fun c hc => hpadded c (List.mem_of_mem_take hc), rfl,
      fun c hc => hpadded c (List.mem_of_mem_drop hc)⟩

lemma isTextChar_scientific (h : ∀ c ∈ digits, isTextChar c) (leading : Int) :
    ∀ c ∈ scientific digits leading, isTextChar c := by
  have hfraction : ∀ c ∈ (if digits.length ≤ 1 then [] else '.' :: digits.drop 1), isTextChar c := by
    split
    · exact fun c hc => absurd hc List.not_mem_nil
    · rw [List.forall_mem_cons]
      exact ⟨rfl, fun c hc => h c (List.mem_of_mem_drop hc)⟩
  have hsign : isTextChar (if leading < 0 then '-' else '+') := by
    split
    · rfl
    · rfl
  rw [scientific, List.forall_mem_append, List.forall_mem_append, List.forall_mem_cons,
    List.forall_mem_cons]
  exact ⟨⟨fun c hc => h c (List.mem_of_mem_take hc), hfraction⟩, rfl, hsign,
    isTextChar_of_mem_toDigits⟩

end Digits

lemma isTextChar_doubleText (x : Double) : ∀ c ∈ doubleText x, isTextChar c := by
  have hkept := isTextChar_significantDigits
    (isTextChar_of_mem_toDigits (n := x.shortestDecimal.digits))
  rw [doubleText, List.forall_mem_append]
  constructor
  · split
    · exact List.all_eq_true.mp rfl
    · exact fun c hc => absurd hc List.not_mem_nil
  · split
    · exact List.all_eq_true.mp rfl
    · rw [decimalText]
      split
      · exact isTextChar_positional hkept _
      · exact isTextChar_scientific hkept _

/-- A number is written with digits, the point, the exponent's letter and signs alone. -/
lemma isTextChar_text (number : Number) : ∀ c ∈ number.text.toList, isTextChar c := by
  cases number with
  | integer value =>
    rw [text, Int.toString_eq_repr, Int.repr_eq_if]
    split
    · rw [Nat.toList_repr]
      exact isTextChar_of_mem_toDigits
    · rw [String.toList_append, Nat.toList_repr, List.forall_mem_append]
      exact ⟨List.all_eq_true.mp rfl, isTextChar_of_mem_toDigits⟩
  | floating value =>
    rw [text, String.toList_ofList]
    exact isTextChar_doubleText value

end Number

lemma onOneLine_numberText (number : Number) : OnOneLine number.text :=
  fun hmem => absurd (number.isTextChar_text '\n' hmem) (by decide)

lemma onOneLine_encode (text : String) : OnOneLine (StringLiteral.encode text) := by
  have hescape (c : Char) : '\n' ∉ StringLiteral.escapeChar c := by
    rw [StringLiteral.escapeChar]
    split_ifs with hquote hbackslash hfeed
    · decide
    · decide
    · decide
    · decide
    · decide
    · rw [List.mem_singleton]
      exact fun h => hfeed h.symm
  rw [OnOneLine, StringLiteral.encode, String.toList_ofList, StringLiteral.encodeChars,
    List.mem_append, List.mem_cons, List.mem_flatMap]
  rintro ((hquote | ⟨c, -, hc⟩) | hquote)
  · exact absurd hquote (by decide)
  · exact hescape c hc
  · exact absurd hquote (by decide)

lemma onOneLine_builtinName (type : BuiltinType) : OnOneLine type.name := by
  cases type with
  | string => decide
  | boolean => decide
  | number => decide
  | date => decide
  | buffer => decide
  | any => decide

/-- The head of an element's type comes from a target or from a type tag. -/
lemma head_ofElement_cases (element : Element) :
    (∃ target, (ResolvedType.ofElement element).head = .ofTarget target) ∨
      ∃ type, (ResolvedType.ofElement element).head = .ofTag type := by
  obtain ⟨type, cardinality, members, target, items, isKey, isNotNull⟩ := element
  rw [ResolvedType.ofElement.eq_def, ResolvedType.head_arrayIf]
  cases Element.isAssociation ⟨type, cardinality, members, target, items, isKey, isNotNull⟩ with
  | true => exact Or.inl ⟨target, rfl⟩
  | false =>
    rw [if_neg Bool.false_ne_true]
    cases items with
    | none => exact Or.inr ⟨type, rfl⟩
    | some items => exact head_ofElement_cases items

namespace Context

variable {context : Context}

lemma onOneLine_interfaceName (hprefixed : OnOneLine context.interfacePrefix) (modelName : String) :
    OnOneLine (context.interfaceName modelName) :=
  onOneLine_append.mpr ⟨hprefixed, onOneLine_ofQualified modelName⟩

lemma onOneLine_referenceName (hprefixed : OnOneLine context.interfacePrefix) (modelName : String) :
    OnOneLine (context.referenceName modelName) := by
  rw [referenceName]
  split
  · exact onOneLine_interfaceName hprefixed modelName
  · exact onOneLine_ofQualified modelName

lemma onOneLine_headName_ofElement (hprefixed : OnOneLine context.interfacePrefix)
    (element : Element) : OnOneLine (context.headName (ResolvedType.ofElement element).head) := by
  rcases head_ofElement_cases element with ⟨target, htarget⟩ | ⟨type, htype⟩
  · rw [htarget]
    cases target with
    | none => exact onOneLine_builtinName .any
    | some target => exact onOneLine_interfaceName hprefixed target
  · rw [htype]
    cases type with
    | none => exact onOneLine_builtinName .any
    | some tag =>
      rw [TypeHead.ofTag]
      split
      · exact onOneLine_builtinName (.ofTag tag)
      · exact onOneLine_referenceName hprefixed tag

lemma onOneLine_headName_ofField (hprefixed : OnOneLine context.interfacePrefix)
    (owner field : String) (element : Element) :
    OnOneLine (context.headName (ResolvedType.ofField owner field element).head) := by
  rw [ResolvedType.ofField]
  split
  · rw [ResolvedType.head_arrayIf]
    exact onOneLine_inlineEnumName owner field
  · exact onOneLine_headName_ofElement hprefixed element

end Context

lemma onOneLine_typeText {type : TypeExpression} (h : OnOneLine type.name) : OnOneLine type.text := by
  rw [TypeExpression.text, onOneLine_append]
  refine ⟨h, fun hmem => ?_⟩
  rw [String.toList_join, List.mem_flatMap] at hmem
  obtain ⟨suffix, hsuffix, hfeed⟩ := hmem
  rw [List.eq_of_mem_replicate hsuffix] at hfeed
  exact absurd hfeed (by decide)

lemma onOneLine_propertyLine {property : Property} (hname : OnOneLine property.name)
    (htype : OnOneLine property.type.name) : OnOneLine property.line := by
  have hmark : OnOneLine (if property.isOptional then "?" else "") := by
    split
    · decide
    · decide
  simp only [Property.line, onOneLine_append]
  exact ⟨⟨⟨⟨⟨by decide, hname⟩, hmark⟩, by decide⟩, onOneLine_typeText htype⟩, by decide⟩

lemma onOneLine_source (literal : EnumLiteral) : OnOneLine literal.source := by
  cases literal with
  | number value => exact onOneLine_numberText value
  | text value => exact onOneLine_encode value

lemma onOneLine_memberLine {member : EnumMember} (h : OnOneLine member.name) :
    OnOneLine member.line := by
  have hliteral : OnOneLine (member.literal.elim "" fun literal => " = " ++ literal.source) := by
    cases member.literal with
    | none => decide
    | some literal => exact onOneLine_append.mpr ⟨by decide, onOneLine_source literal⟩
  simp only [EnumMember.line, onOneLine_append]
  exact ⟨⟨⟨by decide, h⟩, hliteral⟩, by decide⟩

end CdsDeclarations
