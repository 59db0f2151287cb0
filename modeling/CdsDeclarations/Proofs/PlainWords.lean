import CdsDeclarations.Proofs.InlineEnums

/-!
# Names that are plain words

A plain word can only be declared where the model itself holds it: sanitizing puts in underscores
and nothing else, and an upper case holds no small letters.
-/

namespace CdsDeclarations

open Identifier

/-- Letters from a to z, of which the first one alone may be a capital. -/
def isPlainWord : List Char → Bool
  | [] => false
  | first :: rest => first.isAlpha && rest.all Char.isLower

lemma isAlpha_of_isLower {c : Char} (h : c.isLower) : c.isAlpha :=
  Bool.or_eq_true_iff.mpr (Or.inr h)

lemma isAlpha_of_mem_plainWord {word : List Char} (hword : isPlainWord word) {c : Char}
    (hc : c ∈ word) : c.isAlpha := by
  cases word with
  | nil => cases hc
  | cons first rest =>
    obtain ⟨hfirst, hrest⟩ := Bool.and_eq_true_iff.mp hword
    rcases List.mem_cons.mp hc with rfl | hc
    · exact hfirst
    · exact isAlpha_of_isLower (List.all_eq_true.mp hrest c hc)

lemma underscore_not_mem_plainWord {word : List Char} (hword : isPlainWord word) : '_' ∉ word :=
  fun hmem => absurd (isAlpha_of_mem_plainWord hword hmem) (by decide)

lemma map_replaceForbidden_of_no_underscore {chars : List Char}
    (h : '_' ∉ chars.map replaceForbidden) : chars.map replaceForbidden = chars := by
  refine map_replaceForbidden_of_allowed fun c hc => ?_
  by_contra hforbidden
  refine h (List.mem_map.mpr ⟨c, hc, ?_⟩)
  rw [replaceForbidden, if_neg hforbidden]

lemma sanitizeChars_of_no_underscore {chars : List Char} (h : '_' ∉ sanitizeChars chars) :
    sanitizeChars chars = chars := by
  rw [sanitizeChars] at h ⊢
  cases hmap : chars.map replaceForbidden with
  | nil => rw [List.map_eq_nil_iff.mp hmap, protectDigit]
  | cons c rest =>
    rw [hmap, protectDigit] at h
    by_cases hc : isDigit c = true
    · rw [if_pos hc] at h
      exact absurd List.mem_cons_self h
    · rw [if_neg hc, ← hmap] at h
      rw [protectDigit, if_neg hc, ← hmap]
      exact map_replaceForbidden_of_no_underscore h

/-- Behind a prefix, a name gives a word exactly if its local part does. -/
lemma append_ofQualified_eq_iff {word : String} (hword : isPlainWord word.toList)
    (front name : String) : front ++ ofQualified name = word ↔ front ++ localPart name = word := by
  rw [← String.toList_inj, ← String.toList_inj, String.toList_append, String.toList_append,
    toList_ofQualified]
  constructor
  · intro h
    have hnone : '_' ∉ sanitizeChars (localPart name).toList := fun hmem =>
      underscore_not_mem_plainWord hword (h ▸ List.mem_append_right _ hmem)
    rwa [sanitizeChars_of_no_underscore hnone] at h
  · intro h
    have hletters : ∀ c ∈ (localPart name).toList, c.isAlpha := fun c hc =>
      isAlpha_of_mem_plainWord hword (h ▸ List.mem_append_right _ hc)
    rwa [sanitizeChars_eq_self_iff.mpr (isIdentifier_of_letters hletters)]

lemma ofQualified_eq_iff {word : String} (hword : isPlainWord word.toList) (name : String) :
    ofQualified name = word ↔ localPart name = word := by
  have hiff := append_ofQualified_eq_iff hword "" name
  rwa [String.empty_append, String.empty_append] at hiff

lemma sanitizeChars_eq_nil_iff {chars : List Char} : sanitizeChars chars = [] ↔ chars = [] := by
  cases chars with
  | nil => exact ⟨fun _ => rfl, fun _ => rfl⟩
  | cons c rest =>
    rw [sanitizeChars, List.map_cons, protectDigit]
    split <;> simp

lemma dot_not_mem_capitalizeChars {chars : List Char} (h : '.' ∉ chars) :
    '.' ∉ capitalizeChars chars := by
  cases chars with
  | nil => exact h
  | cons first rest =>
    rw [List.mem_cons, not_or] at h
    rw [capitalizeChars, List.mem_append, not_or]
    exact ⟨not_mem_upper h.1 (by decide) (by decide) (by decide), h.2⟩

lemma isDigit_head?_capitalizeChars {chars : List Char} (h : IsIdentifier chars) {c : Char}
    (hc : (capitalizeChars chars).head? = some c) : isDigit c = false := by
  cases chars with
  | nil => cases hc
  | cons first rest =>
    rw [capitalizeChars, List.head?_append_of_ne_nil _ (upper_ne_nil first)] at hc
    exact isDigit_of_mem_upper (h.first first rfl) (List.mem_of_head? hc)

lemma isDigit_replaceForbidden {c : Char} (h : isDigit c = false) :
    isDigit (replaceForbidden c) = false := by
  rw [replaceForbidden]
  split
  · exact h
  · rfl

/-- The enum of a field is declared under the owner's name and the capitalized name of the field, in
which marks are replaced. -/
lemma toList_ofQualified_inlineEnumName (owner field : String) :
    (ofQualified (ResolvedType.inlineEnumName owner field)).toList =
      (ofQualified owner).toList ++ (capitalize (sanitize field)).toList.map replaceForbidden := by
  have howner := isIdentifier_ofQualified owner
  have hfield := isIdentifier_sanitizeChars field.toList
  have hdots :
      '.' ∉ (ofQualified owner).toList ++ capitalizeChars (sanitizeChars field.toList) := by
    rw [List.mem_append, not_or]
    exact ⟨dot_not_mem_of_allowed howner.allowed,
      dot_not_mem_capitalizeChars (dot_not_mem_of_allowed hfield.allowed)⟩
  rw [toList_ofQualified, localPart, String.toList_ofList, toList_inlineEnumName,
    localChars_of_no_dot hdots, sanitizeChars, List.map_append,
    map_replaceForbidden_of_allowed howner.allowed, toList_capitalize_sanitize]
  refine protectDigit_of_head fun c hc => ?_
  rw [List.head?_append, Option.or_eq_some_iff, List.head?_map] at hc
  rcases hc with hfront | ⟨-, hback⟩
  · exact howner.first c hfront
  · obtain ⟨d, hd, rfl⟩ := Option.map_eq_some_iff.mp hback
    exact isDigit_replaceForbidden (isDigit_head?_capitalizeChars hfield hd)

lemma exists_not_lower_of_ne_nil {chars : List Char} (h : chars ≠ []) :
    ∃ d ∈ (capitalizeChars chars).map replaceForbidden, d.isLower = false := by
  obtain ⟨first, rest, rfl⟩ := List.exists_cons_of_ne_nil h
  obtain ⟨d, others, hupper⟩ := List.exists_cons_of_ne_nil (upper_ne_nil first)
  have hd : d ∈ upperMapping.apply first := by
    rw [hupper]
    exact List.mem_cons_self
  refine ⟨replaceForbidden d, List.mem_map_of_mem (List.mem_append_left rest hd), ?_⟩
  rw [replaceForbidden]
  split
  · exact isLower_of_mem_upper hd
  · rfl

lemma toList_ofQualified_eq_nil_iff {name : String} :
    (ofQualified name).toList = [] ↔ localPart name = "" := by
  rw [toList_ofQualified, sanitizeChars_eq_nil_iff, String.toList_eq_nil_iff]

lemma map_replaceForbidden_eq_iff {word chars : List Char} (hword : isPlainWord word) :
    chars.map replaceForbidden = word ↔ chars = word := by
  constructor
  · rintro rfl
    exact (map_replaceForbidden_of_no_underscore (underscore_not_mem_plainWord hword)).symm
  · rintro rfl
    have hletters := isIdentifier_of_letters fun c => isAlpha_of_mem_plainWord hword
    exact map_replaceForbidden_of_allowed hletters.allowed

/-- Only the first letter of a plain word may be a capital, so that no capitalized name follows
another one in it. -/
lemma append_capitalizeChars_eq_iff {word front chars : List Char} (hword : isPlainWord word)
    (hfront : front ≠ []) :
    front ++ (capitalizeChars chars).map replaceForbidden = word ↔ chars = [] ∧ front = word := by
  constructor
  · intro h
    by_cases hchars : chars = []
    · rw [hchars, capitalizeChars, List.map_nil, List.append_nil] at h
      exact ⟨hchars, h⟩
    · obtain ⟨d, hd, hcapital⟩ := exists_not_lower_of_ne_nil hchars
      obtain ⟨c, others, rfl⟩ := List.exists_cons_of_ne_nil hfront
      rw [← h] at hword
      obtain ⟨-, hsmall⟩ := Bool.and_eq_true_iff.mp hword
      have hlower := List.all_eq_true.mp hsmall d (List.mem_append_right others hd)
      exact absurd (hcapital.symm.trans hlower) Bool.false_ne_true
  · rintro ⟨rfl, rfl⟩
    exact List.append_nil front

/-- The enum of a field takes a word for its name only where the owner or the field has no name to
add to it. -/
theorem ofQualified_inlineEnumName_eq_iff {word : String} (hword : isPlainWord word.toList)
    (owner field : String) :
    ofQualified (ResolvedType.inlineEnumName owner field) = word ↔
      localPart owner = "" ∧ capitalize (sanitize field) = word ∨
        field = "" ∧ localPart owner = word := by
  have hempty : "" ≠ word := by
    rintro rfl
    exact Bool.false_ne_true hword
  rw [← String.toList_inj, toList_ofQualified_inlineEnumName]
  by_cases howner : localPart owner = ""
  · rw [toList_ofQualified_eq_nil_iff.mpr howner, List.nil_append,
      map_replaceForbidden_eq_iff hword, String.toList_inj]
    constructor
    · exact fun h => Or.inl ⟨howner, h⟩
    · rintro (⟨-, h⟩ | ⟨-, h⟩)
      · exact h
      · exact absurd (howner.symm.trans h) hempty
  · have hsome : (ofQualified owner).toList ≠ [] :=
      fun h => howner (toList_ofQualified_eq_nil_iff.mp h)
    rw [toList_capitalize_sanitize, append_capitalizeChars_eq_iff hword hsome,
      sanitizeChars_eq_nil_iff, String.toList_eq_nil_iff, String.toList_inj,
      ofQualified_eq_iff hword, or_iff_right fun h => howner h.1]

end CdsDeclarations
