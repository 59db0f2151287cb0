import CdsDeclarations.Proofs.CaseMappings
import Mathlib.Data.List.Basic

/-!
# Lower case around a capital sigma

Lower-casing goes character by character, except that a capital sigma looks at what stands around
it. This file says what becomes of a text when another one is put behind it: nothing changes if the
word ends there, and at most the sigma at its end changes if the word goes on.
-/

namespace CdsDeclarations

/-- Lower case of characters that stand between others. -/
def lowercaseWithin (reversedBefore after : List Char) : List Char → List Char
  | [] => []
  | c :: rest =>
    (if c = 'Σ' then [lowerSigma reversedBefore (rest ++ after)] else lowerMapping.apply c) ++
      lowercaseWithin (c :: reversedBefore) after rest

lemma lowercaseWithin_nil (reversedBefore chars : List Char) :
    lowercaseWithin reversedBefore [] chars = lowercaseAfter reversedBefore chars := by
  induction chars generalizing reversedBefore with
  | nil => rfl
  | cons c rest ih => rw [lowercaseWithin, lowercaseAfter, List.append_nil, ih]

lemma lowercaseWithin_append (reversedBefore after front back : List Char) :
    lowercaseWithin reversedBefore after (front ++ back) =
      lowercaseWithin reversedBefore (back ++ after) front ++
        lowercaseWithin (front.reverse ++ reversedBefore) after back := by
  induction front generalizing reversedBefore with
  | nil => rfl
  | cons c front ih =>
    simp only [List.cons_append, lowercaseWithin, ih, List.append_assoc, List.reverse_cons,
      List.nil_append]

lemma lowercaseAfter_append (reversedBefore front back : List Char) :
    lowercaseAfter reversedBefore (front ++ back) =
      lowercaseWithin reversedBefore back front ++
        lowercaseAfter (front.reverse ++ reversedBefore) back := by
  rw [← lowercaseWithin_nil, lowercaseWithin_append, List.append_nil, lowercaseWithin_nil]

lemma nearestIsCased_cons_of_ignorable {c : Char} (hc : isCaseIgnorable c) (rest : List Char) :
    nearestIsCased (c :: rest) = nearestIsCased rest := by
  simp only [nearestIsCased, List.dropWhile_cons, hc, if_true]

lemma nearestIsCased_cons_of_not_ignorable {c : Char} (hc : isCaseIgnorable c = false)
    (rest : List Char) : nearestIsCased (c :: rest) = isCased c := by
  simp only [nearestIsCased, List.dropWhile_cons, hc, Bool.false_eq_true, if_false]

lemma nearestIsCased_append_of_ignorable {front : List Char} (rest : List Char)
    (hfront : ∀ c ∈ front, isCaseIgnorable c) :
    nearestIsCased (front ++ rest) = nearestIsCased rest := by
  induction front with
  | nil => rfl
  | cons c front ih =>
    rw [List.cons_append, nearestIsCased_cons_of_ignorable (hfront c List.mem_cons_self)]
    exact ih fun d hd => hfront d (List.mem_cons_of_mem c hd)

lemma nearestIsCased_append_of_not_ignorable {front : List Char} {c : Char} (rest : List Char)
    (hmem : c ∈ front) (hc : isCaseIgnorable c = false) :
    nearestIsCased (front ++ rest) = nearestIsCased front := by
  induction front with
  | nil => simp at hmem
  | cons d front ih =>
    cases hd : isCaseIgnorable d with
    | false =>
      rw [List.cons_append, nearestIsCased_cons_of_not_ignorable hd,
        nearestIsCased_cons_of_not_ignorable hd]
    | true =>
      have hne : c ≠ d := by
        rintro rfl
        rw [hc] at hd
        exact Bool.noConfusion hd
      rw [List.cons_append, nearestIsCased_cons_of_ignorable hd,
        nearestIsCased_cons_of_ignorable hd]
      exact ih ((List.mem_cons.mp hmem).resolve_left hne)

lemma nearestIsCased_append_congr (front : List Char) {rest rest' : List Char}
    (h : nearestIsCased rest = nearestIsCased rest') :
    nearestIsCased (front ++ rest) = nearestIsCased (front ++ rest') := by
  induction front with
  | nil => exact h
  | cons c front ih =>
    cases hc : isCaseIgnorable c with
    | false =>
      rw [List.cons_append, List.cons_append, nearestIsCased_cons_of_not_ignorable hc,
        nearestIsCased_cons_of_not_ignorable hc]
    | true =>
      rw [List.cons_append, List.cons_append, nearestIsCased_cons_of_ignorable hc,
        nearestIsCased_cons_of_ignorable hc, ih]

lemma lowercaseWithin_congr (reversedBefore chars : List Char) {after after' : List Char}
    (h : nearestIsCased after = nearestIsCased after') :
    lowercaseWithin reversedBefore after chars = lowercaseWithin reversedBefore after' chars := by
  induction chars generalizing reversedBefore with
  | nil => rfl
  | cons c rest ih =>
    simp only [lowercaseWithin, lowerSigma, nearestIsCased_append_congr rest h, ih]

lemma lowercaseWithin_of_no_sigma (reversedBefore after : List Char) {chars : List Char}
    (h : 'Σ' ∉ chars) :
    lowercaseWithin reversedBefore after chars = chars.flatMap lowerMapping.apply := by
  induction chars generalizing reversedBefore with
  | nil => rfl
  | cons c rest ih =>
    have hc : c ≠ 'Σ' := fun hc => h (hc ▸ List.mem_cons_self)
    rw [lowercaseWithin, if_neg hc, List.flatMap_cons,
      ih _ fun hmem => h (List.mem_cons_of_mem c hmem)]

lemma lowercaseAfter_of_no_sigma (reversedBefore : List Char) {chars : List Char}
    (h : 'Σ' ∉ chars) : lowercaseAfter reversedBefore chars = chars.flatMap lowerMapping.apply := by
  rw [← lowercaseWithin_nil, lowercaseWithin_of_no_sigma _ _ h]

lemma sigma_not_ignorable : isCaseIgnorable 'Σ' = false := by decide +kernel

lemma sigma_isCased (rest : List Char) : nearestIsCased ('Σ' :: rest) = true := by
  rw [nearestIsCased_cons_of_not_ignorable sigma_not_ignorable]
  decide +kernel

lemma sigma_not_mem_of_ignorable {chars : List Char} (h : ∀ c ∈ chars, isCaseIgnorable c) :
    'Σ' ∉ chars := by
  intro hmem
  have hsigma := h 'Σ' hmem
  rw [sigma_not_ignorable] at hsigma
  exact Bool.noConfusion hsigma

/-- Lower case of a capital sigma that only ignorable characters separate from what follows. -/
lemma lowercaseWithin_last_sigma (reversedBefore after front back : List Char)
    (hback : ∀ c ∈ back, isCaseIgnorable c) :
    lowercaseWithin reversedBefore after (front ++ 'Σ' :: back) =
      lowercaseWithin reversedBefore ['Σ'] front ++
        lowerSigma (front.reverse ++ reversedBefore) after ::
          back.flatMap lowerMapping.apply := by
  have hfront : lowercaseWithin reversedBefore ('Σ' :: back ++ after) front =
      lowercaseWithin reversedBefore ['Σ'] front := by
    apply lowercaseWithin_congr
    rw [List.cons_append, sigma_isCased, sigma_isCased]
  have hsigma : lowerSigma (front.reverse ++ reversedBefore) (back ++ after) =
      lowerSigma (front.reverse ++ reversedBefore) after := by
    rw [lowerSigma, lowerSigma, nearestIsCased_append_of_ignorable after hback]
  rw [lowercaseWithin_append, hfront, lowercaseWithin, if_pos rfl, hsigma,
    lowercaseWithin_of_no_sigma _ _ (sigma_not_mem_of_ignorable hback)]
  rfl

/-- Characters that end in a capital sigma behind a letter with a case, with nothing but ignorable
characters after it. Such a sigma is written as a final one in lower case. -/
def EndsInSigma (reversedBefore chars : List Char) : Prop :=
  ∃ front back, chars = front ++ 'Σ' :: back ∧
    nearestIsCased (front.reverse ++ reversedBefore) ∧ ∀ c ∈ back, isCaseIgnorable c

lemma EndsInSigma.cons {reversedBefore rest : List Char} (c : Char)
    (h : EndsInSigma (c :: reversedBefore) rest) : EndsInSigma reversedBefore (c :: rest) := by
  obtain ⟨front, back, rfl, hcased, hback⟩ := h
  exact ⟨c :: front, back, rfl, by simpa using hcased, hback⟩

lemma lowercaseWithin_of_not_endsInSigma (reversedBefore after : List Char) {chars : List Char}
    (h : ¬EndsInSigma reversedBefore chars) :
    lowercaseWithin reversedBefore after chars = lowercaseAfter reversedBefore chars := by
  induction chars generalizing reversedBefore with
  | nil => rfl
  | cons c rest ih =>
    have hrest := ih (c :: reversedBefore) fun hrest => h (hrest.cons c)
    rw [lowercaseWithin, lowercaseAfter, hrest]
    by_cases hc : c = 'Σ'
    · have hsigma : lowerSigma reversedBefore (rest ++ after) = lowerSigma reversedBefore rest := by
        by_cases hback : ∀ d ∈ rest, isCaseIgnorable d
        · have hbefore : nearestIsCased reversedBefore = false := by
            rw [← Bool.not_eq_true]
            exact fun hcased => h ⟨[], rest, by rw [hc]; rfl, hcased, hback⟩
          rw [lowerSigma, lowerSigma, hbefore, Bool.false_and, Bool.false_and]
        · push Not at hback
          obtain ⟨d, hd, hcounts⟩ := hback
          rw [lowerSigma, lowerSigma,
            nearestIsCased_append_of_not_ignorable after hd (Bool.not_eq_true _ ▸ hcounts)]
      rw [if_pos hc, if_pos hc, hsigma]
    · rw [if_neg hc, if_neg hc]

end CdsDeclarations
