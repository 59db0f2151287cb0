import CdsDeclarations.Proofs.LowerCase

/-!
# Names that differ in a final sigma

A capital sigma at the end of a name is a final one in lower case, unless letters are put behind the
name. So two names may have different lower cases alone and the same one in front of a suffix. This
file says for which names that happens.
-/

namespace CdsDeclarations

/-- Of the single lower cases only that of the capital sigma is a small sigma. -/
lemma lowerRuns_reach_sigma : ∀ run ∈ lowerRuns,
    (run.first = 0x3A3 ∧ run.offset = 32) ∨ run.last + run.offset < 0x3C2 ∨
      0x3C3 < run.first + run.offset := by
  decide +kernel

lemma CaseRun.apply_ne_sigma {run : CaseRun} (hrun : run ∈ lowerRuns) {c d : Char}
    (hcovers : run.covers c) (hc : c ≠ 'Σ') (hd : d.toNat = 0x3C2 ∨ d.toNat = 0x3C3) :
    run.apply c ≠ d := by
  intro happly
  simp only [CaseRun.covers, Bool.and_eq_true, decide_eq_true_eq] at hcovers
  have hmoved : (c.toNat + run.offset).toNat = d.toNat := by
    apply toNat_ofNat_eq (by omega)
    rw [← happly, CaseRun.apply]
  have hfirst : c.toNat ≠ 0x3A3 := by
    intro hnat
    apply hc
    rw [← Char.ofNat_toNat c, hnat]
  rcases lowerRuns_reach_sigma run hrun with ⟨h1, h2⟩ | h | h <;> omega

lemma sigma_not_mem_lower {c d : Char} (hc : isCaseIgnorable c)
    (hd : d.toNat = 0x3C2 ∨ d.toNat = 0x3C3) : d ∉ lowerMapping.apply c := by
  have hsigma : c ≠ 'Σ' := by
    rintro rfl
    rw [sigma_not_ignorable] at hc
    exact Bool.noConfusion hc
  have hsame : d ≠ c := by
    rintro rfl
    have hcounts : isCaseIgnorable 'ς' = false ∧ isCaseIgnorable 'σ' = false := by decide +kernel
    rcases hd with h | h <;> rw [← Char.ofNat_toNat d, h] at hc
    · exact absurd (hc.symm.trans hcounts.1) (by decide)
    · exact absurd (hc.symm.trans hcounts.2) (by decide)
  rcases lowerMapping.apply_cases c with
    ⟨expansion, hentry, happly⟩ | ⟨-, ⟨run, hrun, hcovers, happly⟩ | happly⟩
  · have hexpansion : expansion = ['i', '\u0307'] := congrArg Prod.snd (List.mem_singleton.mp hentry)
    rw [happly, hexpansion]
    intro hmem
    have hnat : d.toNat = 0x69 ∨ d.toNat = 0x307 := by
      rcases List.mem_cons.mp hmem with rfl | hmem
      · exact Or.inl rfl
      · rw [List.mem_singleton.mp hmem]
        exact Or.inr rfl
    omega
  · rw [happly, List.mem_singleton]
    exact (CaseRun.apply_ne_sigma hrun hcovers hsigma hd).symm
  · rw [happly, List.mem_singleton]
    exact hsame

lemma sigma_not_mem_lower_ignorable {chars : List Char} {d : Char}
    (hchars : ∀ c ∈ chars, isCaseIgnorable c) (hd : d.toNat = 0x3C2 ∨ d.toNat = 0x3C3) :
    d ∉ chars.flatMap lowerMapping.apply := by
  intro hmem
  obtain ⟨c, hc, hdc⟩ := List.mem_flatMap.mp hmem
  exact sigma_not_mem_lower (hchars c hc) hd hdc

/-- The last place of a list that holds one of two elements is determined by the list. -/
lemma last_place_unique {α : Type} {front front' back back' : List α} {a b : α}
    (hback : b ∉ back) (hback' : a ∉ back')
    (h : front ++ a :: back = front' ++ b :: back') : front = front' ∧ a = b ∧ back = back' := by
  rcases List.append_eq_append_iff.mp h with ⟨mid, hfront, hmid⟩ | ⟨mid, hfront, hmid⟩
  · cases mid with
    | nil =>
      obtain ⟨rfl, rfl⟩ := List.cons.inj hmid
      exact ⟨by simpa using hfront.symm, rfl, rfl⟩
    | cons x mid =>
      refine absurd ?_ hback
      rw [(List.cons.inj hmid).2]
      simp
  · cases mid with
    | nil =>
      obtain ⟨rfl, rfl⟩ := List.cons.inj hmid
      exact ⟨by simpa using hfront, rfl, rfl⟩
    | cons x mid =>
      refine absurd ?_ hback'
      rw [(List.cons.inj hmid).2]
      simp

/-- Lower case of a name with more of its word behind it. -/
def innerLowercase (name : String) : String :=
  String.ofList (lowercaseWithin [] ['a'] name.toList)

/-- One name ends in a capital sigma, and the other is written in lower case as that name is where
its word goes on. -/
structure SigmaTwins (name other : String) : Prop where
  ends : EndsInSigma [] name.toList
  inner : lowercase other = innerLowercase name

lemma nearestIsCased_letter : nearestIsCased ['a'] = true := by decide +kernel

lemma innerLowercase_of_not_ends {name : String} (h : ¬EndsInSigma [] name.toList) :
    innerLowercase name = lowercase name := by
  rw [innerLowercase, lowercaseWithin_of_not_endsInSigma [] ['a'] h, lowercase]

/-- Where a name ends in a capital sigma, its two lower cases differ in that place alone. -/
lemma lowercases_of_ends {name : String} (h : EndsInSigma [] name.toList) :
    ∃ front back, (lowercase name).toList = front ++ 'ς' :: back ∧
      (innerLowercase name).toList = front ++ 'σ' :: back ∧ 'ς' ∉ back ∧ 'σ' ∉ back := by
  obtain ⟨front, back, hname, hcased, hback⟩ := h
  have hfinal : lowerSigma (front.reverse ++ []) [] = 'ς' := by
    rw [lowerSigma, hcased]
    rfl
  have hinner : lowerSigma (front.reverse ++ []) ['a'] = 'σ' := by
    rw [lowerSigma, nearestIsCased_letter, Bool.not_true, Bool.and_false]
    rfl
  refine ⟨lowercaseWithin [] ['Σ'] front, back.flatMap lowerMapping.apply, ?_, ?_,
    sigma_not_mem_lower_ignorable hback (Or.inl rfl),
    sigma_not_mem_lower_ignorable hback (Or.inr rfl)⟩
  · rw [lowercase, String.toList_ofList, ← lowercaseWithin_nil, hname,
      lowercaseWithin_last_sigma _ _ _ _ hback, hfinal]
  · rw [innerLowercase, String.toList_ofList, hname, lowercaseWithin_last_sigma _ _ _ _ hback,
      hinner]

lemma SigmaTwins.not_ends {name other : String} (h : SigmaTwins name other) :
    ¬EndsInSigma [] other.toList := by
  intro hother
  obtain ⟨front, back, -, hinner, hfinal, -⟩ := lowercases_of_ends h.ends
  obtain ⟨front', back', hlower, -, -, hsigma⟩ := lowercases_of_ends hother
  rw [h.inner, hinner] at hlower
  have hsame := (last_place_unique hfinal hsigma hlower).2.1
  exact absurd hsame (by decide)

/-- Names that differ in lower case have the same lower case inside a word exactly if they are
twins. -/
theorem innerLowercase_eq_iff {name other : String} (h : lowercase name ≠ lowercase other) :
    innerLowercase name = innerLowercase other ↔ SigmaTwins name other ∨ SigmaTwins other name := by
  constructor
  · intro hinner
    by_cases hname : EndsInSigma [] name.toList
    · by_cases hother : EndsInSigma [] other.toList
      · obtain ⟨front, back, hlower, hin, -, hsigma⟩ := lowercases_of_ends hname
        obtain ⟨front', back', hlower', hin', -, hsigma'⟩ := lowercases_of_ends hother
        rw [hinner, hin'] at hin
        obtain ⟨rfl, -, rfl⟩ := last_place_unique hsigma' hsigma hin
        exact absurd (String.toList_injective (hlower.trans hlower'.symm)) h
      · exact Or.inl ⟨hname, by rw [hinner, innerLowercase_of_not_ends hother]⟩
    · by_cases hother : EndsInSigma [] other.toList
      · exact Or.inr ⟨hother, by rw [← hinner, innerLowercase_of_not_ends hname]⟩
      · rw [innerLowercase_of_not_ends hname, innerLowercase_of_not_ends hother] at hinner
        exact absurd hinner h
  · rintro (htwins | htwins)
    · rw [← htwins.inner, innerLowercase_of_not_ends htwins.not_ends]
    · rw [← htwins.inner, innerLowercase_of_not_ends htwins.not_ends]

end CdsDeclarations
