import CdsDeclarations.Identifier
import Mathlib.Data.List.TakeWhile
import Mathlib.Tactic.Lemma

/-!
# The language of identifiers

Sanitizing maps every text to an identifier and keeps the identifiers as they are. An identifier has
no dot, so that taking the local part keeps it as well.
-/

namespace CdsDeclarations

section Alphabet

variable {c : Char}

/-- Of ASCII, the ranges of the alphabet hold the letters from A to Z and from a to z. -/
lemma alphabeticRanges_ascii : ∀ range ∈ alphabeticRanges,
    range = (0x41, 0x5A) ∨ range = (0x61, 0x7A) ∨ 0x80 ≤ range.1 := by
  decide +kernel

lemma isAlphabetic_of_isAlpha (h : c.isAlpha) : isAlphabetic c := by
  have hranges : (0x41, 0x5A) ∈ alphabeticRanges ∧ (0x61, 0x7A) ∈ alphabeticRanges :=
    ⟨List.mem_cons_self, List.mem_cons_of_mem _ List.mem_cons_self⟩
  rcases Bool.or_eq_true_iff.mp h with hupper | hlower
  · obtain ⟨hfirst, hlast⟩ := of_decide_eq_true hupper
    exact List.any_eq_true.mpr ⟨_, hranges.1, Bool.and_eq_true_iff.mpr
      ⟨decide_eq_true hfirst, decide_eq_true hlast⟩⟩
  · exact List.any_eq_true.mpr ⟨_, hranges.2, hlower⟩

lemma isAlpha_of_isAlphabetic (hascii : c.toNat < 0x80) (h : isAlphabetic c) : c.isAlpha := by
  obtain ⟨range, hrange, hbounds⟩ := List.any_eq_true.mp h
  obtain ⟨hfirst, hlast⟩ := Bool.and_eq_true_iff.mp hbounds
  refine Bool.or_eq_true_iff.mpr ?_
  rcases alphabeticRanges_ascii range hrange with rfl | rfl | houtside
  · exact Or.inl (decide_eq_true ⟨of_decide_eq_true hfirst, of_decide_eq_true hlast⟩)
  · exact Or.inr hbounds
  · have hletter := of_decide_eq_true hfirst
    omega

lemma isDigit_of_isAlphabetic (h : isAlphabetic c) : isDigit c = false := by
  refine Bool.eq_false_iff.mpr fun hdigit => ?_
  obtain ⟨hzero, hnine⟩ := Bool.and_eq_true_iff.mp hdigit
  have hlast : c.toNat ≤ 57 := of_decide_eq_true hnine
  obtain ⟨range, hrange, hbounds⟩ := List.any_eq_true.mp h
  have hfirst : range.1 ≤ c.toNat := of_decide_eq_true (Bool.and_eq_true_iff.mp hbounds).1
  rcases alphabeticRanges_ascii range hrange with rfl | rfl | houtside
  · exact absurd (hfirst.trans hlast) (by decide)
  · exact absurd (hfirst.trans hlast) (by decide)
  · omega

end Alphabet

/-- Characters of the alphabet without a digit in front. -/
structure IsIdentifier (chars : List Char) : Prop where
  allowed : ∀ c ∈ chars, Identifier.isAllowed c
  first : ∀ c, chars.head? = some c → isDigit c = false

lemma IsIdentifier.append {front back : List Char} (hfront : IsIdentifier front)
    (hback : IsIdentifier back) : IsIdentifier (front ++ back) := by
  refine ⟨fun c hc => ?_, fun c hc => ?_⟩
  · rcases List.mem_append.mp hc with hc | hc
    · exact hfront.allowed c hc
    · exact hback.allowed c hc
  · cases front with
    | nil => exact hback.first c hc
    | cons d front => exact hfront.first c hc

namespace Identifier

lemma isAllowed_underscore : isAllowed '_' = true := rfl

lemma isAllowed_of_isAlphabetic {c : Char} (h : isAlphabetic c) : isAllowed c := by
  rw [isAllowed, h, Bool.or_true]

/-- Of ASCII, identifiers have letters, digits, underscores and dollar signs. -/
lemma isAllowed_eq_false {c : Char} (hascii : c.toNat < 0x80) (hletter : c.isAlpha = false)
    (hsign : (isDigit c || c = '_' || c = '$') = false) : isAllowed c = false := by
  rw [isAllowed, hsign, Bool.false_or]
  refine Bool.eq_false_iff.mpr fun h => ?_
  exact Bool.false_ne_true (hletter.symm.trans (isAlpha_of_isAlphabetic hascii h))

lemma isAllowed_replaceForbidden (c : Char) : isAllowed (replaceForbidden c) := by
  rw [replaceForbidden]
  split
  · assumption
  · exact isAllowed_underscore

lemma map_replaceForbidden_of_allowed {chars : List Char} (h : ∀ c ∈ chars, isAllowed c) :
    chars.map replaceForbidden = chars := by
  have hid : ∀ c ∈ chars, replaceForbidden c = id c := fun c hc => if_pos (h c hc)
  rw [List.map_congr_left hid, List.map_id]

lemma isIdentifier_protectDigit {chars : List Char} (h : ∀ c ∈ chars, isAllowed c) :
    IsIdentifier (protectDigit chars) := by
  cases chars with
  | nil => exact ⟨h, by simp [protectDigit]⟩
  | cons c rest =>
    rw [protectDigit]
    by_cases hc : isDigit c = true
    · rw [if_pos hc]
      refine ⟨fun d hd => ?_, fun d hd => ?_⟩
      · rcases List.mem_cons.mp hd with rfl | hd
        · exact isAllowed_underscore
        · exact h d hd
      · rw [← Option.some.inj hd]
        rfl
    · rw [if_neg hc]
      refine ⟨h, fun d hd => ?_⟩
      rw [← Option.some.inj hd]
      exact Bool.not_eq_true _ ▸ hc

lemma isIdentifier_of_letters {chars : List Char} (h : ∀ c ∈ chars, c.isAlpha) :
    IsIdentifier chars where
  allowed c hc := isAllowed_of_isAlphabetic (isAlphabetic_of_isAlpha (h c hc))
  first c hc := isDigit_of_isAlphabetic (isAlphabetic_of_isAlpha (h c (List.mem_of_head? hc)))

lemma isIdentifier_sanitizeChars (chars : List Char) : IsIdentifier (sanitizeChars chars) := by
  apply isIdentifier_protectDigit
  intro c hc
  obtain ⟨d, -, rfl⟩ := List.mem_map.mp hc
  exact isAllowed_replaceForbidden d

lemma protectDigit_of_head {chars : List Char}
    (h : ∀ c, chars.head? = some c → isDigit c = false) : protectDigit chars = chars := by
  cases chars with
  | nil => rfl
  | cons c rest => rw [protectDigit, h c rfl, if_neg Bool.false_ne_true]

/-- Sanitizing keeps exactly the identifiers. -/
theorem sanitizeChars_eq_self_iff {chars : List Char} :
    sanitizeChars chars = chars ↔ IsIdentifier chars := by
  constructor
  · exact fun h => h ▸ isIdentifier_sanitizeChars chars
  · intro h
    rw [sanitizeChars, map_replaceForbidden_of_allowed h.allowed, protectDigit_of_head h.first]

lemma localChars_of_no_dot {chars : List Char} (h : '.' ∉ chars) : localChars chars = chars := by
  have hkeep : chars.reverse.takeWhile (· ≠ '.') = chars.reverse := by
    refine List.takeWhile_eq_self_iff.mpr fun c hc => ?_
    rw [decide_eq_true_eq]
    rintro rfl
    exact h (List.mem_reverse.mp hc)
  rw [localChars, hkeep, List.reverse_reverse]

lemma dot_not_mem_of_allowed {chars : List Char} (h : ∀ c ∈ chars, isAllowed c) : '.' ∉ chars := by
  intro hmem
  have hdot : isAllowed '.' = false := isAllowed_eq_false (by decide) (by decide) (by decide)
  exact Bool.false_ne_true (hdot.symm.trans (h '.' hmem))

lemma localPart_of_no_dot {name : String} (h : '.' ∉ name.toList) : localPart name = name := by
  rw [localPart, localChars_of_no_dot h, String.ofList_toList]

lemma toList_sanitize (text : String) : (sanitize text).toList = sanitizeChars text.toList := by
  rw [sanitize, String.toList_ofList]

lemma isIdentifier_sanitize (raw : String) : IsIdentifier (sanitize raw).toList := by
  rw [toList_sanitize]
  exact isIdentifier_sanitizeChars raw.toList

lemma sanitize_eq_self {name : String} (h : IsIdentifier name.toList) : sanitize name = name := by
  rw [sanitize, sanitizeChars_eq_self_iff.mpr h, String.ofList_toList]

lemma toList_ofQualified (qualified : String) :
    (ofQualified qualified).toList = sanitizeChars (localPart qualified).toList :=
  toList_sanitize (localPart qualified)

lemma isIdentifier_ofQualified (qualified : String) :
    IsIdentifier (ofQualified qualified).toList :=
  isIdentifier_sanitize (localPart qualified)

/-- A name is declared as it is exactly if it is an identifier. -/
theorem ofQualified_eq_self_iff {name : String} :
    ofQualified name = name ↔ IsIdentifier name.toList := by
  constructor
  · exact fun h => h ▸ isIdentifier_ofQualified name
  · intro h
    rw [ofQualified, localPart_of_no_dot (dot_not_mem_of_allowed h.allowed), sanitize_eq_self h]

end Identifier

end CdsDeclarations
