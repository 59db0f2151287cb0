import CdsDeclarations.Proofs.WrittenNames
import Mathlib.Data.Set.Operations

/-!
# Sanitizing as a retraction

The identifiers are a language over letters, decimal digits, the underscore and the dollar sign, and
sanitizing is a retraction onto it: every text is written as an identifier, place by place, and the
identifiers are what it leaves alone. So it does no harm to sanitize twice.
-/

namespace CdsDeclarations.Identifier

/-- Letters of any script, the ten ASCII digits, the underscore and the dollar sign. -/
def InAlphabet (c : Char) : Prop :=
  isAlphabetic c ∨ ('0' ≤ c ∧ c ≤ '9') ∨ c = '_' ∨ c = '$'

/-- The texts over the alphabet that have no ASCII digit in front. -/
def language : Set String :=
  {text | (∀ c ∈ text.toList, InAlphabet c) ∧
    ∀ c, text.toList.head? = some c → ¬('0' ≤ c ∧ c ≤ '9')}

/-- A character of the alphabet is kept, and every other one becomes an underscore. -/
def SanitizedTo (c d : Char) : Prop :=
  InAlphabet c ∧ d = c ∨ ¬InAlphabet c ∧ d = '_'

/-- How an identifier stands for a text: an underscore goes in front of a leading digit, and behind
it stands one character for each of the text, in its place. -/
structure StandsFor (name raw : String) : Prop where
  mem_language : name ∈ language
  empty_iff : name = "" ↔ raw = ""
  placed : ∃ signs, List.Forall₂ SanitizedTo raw.toList signs ∧
    name.toList = (if startsWithDigit raw.toList then ['_'] else []) ++ signs

lemma isDigit_iff {c : Char} : isDigit c ↔ '0' ≤ c ∧ c ≤ '9' := by
  simp [isDigit]

lemma isAllowed_iff {c : Char} : isAllowed c ↔ InAlphabet c := by
  simp only [isAllowed, InAlphabet, Bool.or_eq_true, decide_eq_true_eq, isDigit_iff]
  tauto

lemma mem_language_iff {text : String} : text ∈ language ↔ IsIdentifier text.toList := by
  constructor
  · rintro ⟨hallowed, hfirst⟩
    refine ⟨fun c hc => isAllowed_iff.mpr (hallowed c hc), fun c hc => ?_⟩
    rw [← Bool.not_eq_true, isDigit_iff]
    exact hfirst c hc
  · intro h
    refine ⟨fun c hc => isAllowed_iff.mp (h.allowed c hc), fun c hc => ?_⟩
    rw [← isDigit_iff, Bool.not_eq_true]
    exact h.first c hc

lemma sanitizedTo_replaceForbidden (c : Char) : SanitizedTo c (replaceForbidden c) := by
  by_cases hc : isAllowed c
  · rw [replaceForbidden, if_pos hc]
    exact Or.inl ⟨isAllowed_iff.mp hc, rfl⟩
  · rw [replaceForbidden, if_neg hc]
    exact Or.inr ⟨fun h => hc (isAllowed_iff.mpr h), rfl⟩

lemma standsFor_sanitize (raw : String) : StandsFor (sanitize raw) raw where
  mem_language := mem_language_iff.mpr (isIdentifier_sanitize raw)
  empty_iff := by
    rw [← String.toList_eq_nil_iff, toList_sanitize, sanitizeChars_eq_nil_iff,
      String.toList_eq_nil_iff]
  placed := by
    refine ⟨raw.toList.map replaceForbidden, ?_, ?_⟩
    · rw [List.forall₂_map_right_iff, List.forall₂_same]
      exact fun c _ => sanitizedTo_replaceForbidden c
    · rw [toList_sanitize, sanitizeChars, protectDigit_eq_ite,
        startsWithDigit_map_replaceForbidden]
      split
      · rfl
      · rfl

lemma sanitize_eq_self_iff {raw : String} : sanitize raw = raw ↔ raw ∈ language := by
  rw [mem_language_iff, ← sanitizeChars_eq_self_iff, ← toList_sanitize, String.toList_inj]

lemma range_sanitize : Set.range sanitize = language := by
  ext name
  constructor
  · rintro ⟨raw, rfl⟩
    exact (standsFor_sanitize raw).mem_language
  · intro h
    exact ⟨name, sanitize_eq_self_iff.mpr h⟩

lemma localChars_append_dot {name : List Char} (front : List Char) (h : '.' ∉ name) :
    localChars (front ++ '.' :: name) = name := by
  have hname : ∀ c ∈ name.reverse, decide (c ≠ '.') = true := by
    intro c hc
    rw [decide_eq_true_eq]
    rintro rfl
    exact h (List.mem_reverse.mp hc)
  rw [localChars, List.reverse_append, List.reverse_cons, List.append_assoc,
    List.takeWhile_append_of_pos hname]
  simp

lemma localPart_append_dot {name : String} (front : String) (h : '.' ∉ name.toList) :
    localPart (front ++ "." ++ name) = name := by
  have hchars : (front ++ "." ++ name).toList = front.toList ++ '.' :: name.toList := by
    simp
  rw [localPart, hchars, localChars_append_dot front.toList h, String.ofList_toList]

/-- Every text is sanitized to an identifier that stands for it place by place, and a text is kept
exactly if it is an identifier. So sanitizing twice is sanitizing once, and so it is for the names of
declarations, which depend on what stands behind the last dot alone. -/
theorem sanitize_retracts_onto_language :
    (∀ raw, StandsFor (sanitize raw) raw) ∧
      (∀ raw, sanitize raw = raw ↔ raw ∈ language) ∧
      Set.range sanitize = language ∧
      (∀ raw, sanitize (sanitize raw) = sanitize raw) ∧
      (∀ qualified, ofQualified (ofQualified qualified) = ofQualified qualified) ∧
      ∀ front name, '.' ∉ name.toList →
        ofQualified name = sanitize name ∧ ofQualified (front ++ "." ++ name) = sanitize name := by
  refine ⟨standsFor_sanitize, fun raw => sanitize_eq_self_iff, range_sanitize, fun raw => ?_,
    fun qualified => ?_, fun front name hname => ⟨?_, ?_⟩⟩
  · exact sanitize_eq_self (isIdentifier_sanitize raw)
  · exact ofQualified_eq_self_iff.mpr (isIdentifier_ofQualified qualified)
  · rw [ofQualified, localPart_of_no_dot hname]
  · rw [ofQualified, localPart_append_dot front hname]

theorem order_item_declared_without_its_path :
    '.' ∉ "order-item".toList ∧
      ofQualified ("my.shop" ++ "." ++ "order-item") = sanitize "order-item" := by
  have hname : '.' ∉ "order-item".toList := by decide
  exact ⟨hname, (sanitize_retracts_onto_language.2.2.2.2.2 "my.shop" "order-item" hname).2⟩

end CdsDeclarations.Identifier
