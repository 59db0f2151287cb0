import CdsDeclarations.Proofs.CaseMappings
import CdsDeclarations.Proofs.Identifiers

/-!
# Capitals in identifiers

The upper case of a character of the alphabet stays inside the alphabet, except for some letters
that have no single capital: their upper case is another capital with combining marks behind it, and
these marks are no letters.
-/

namespace CdsDeclarations

/-- The stretches of letters in which all capitals lie. -/
def capitalRanges : CharRanges :=
  [
    (0x41, 0x5A), (0xC0, 0xD6), (0xD8, 0xF6), (0xF8, 0x2C1), (0x363, 0x374), (0x376, 0x377),
    (0x37F, 0x37F), (0x386, 0x386), (0x388, 0x38A), (0x38C, 0x38C), (0x38E, 0x3A1), (0x3A3, 0x3F5),
    (0x3F7, 0x481), (0x48A, 0x52F), (0x531, 0x556), (0x10A0, 0x10C5), (0x10C7, 0x10C7),
    (0x10CD, 0x10CD), (0x13A0, 0x13F5), (0x1C80, 0x1C8A), (0x1C90, 0x1CBA), (0x1CBD, 0x1CBF),
    (0x1E00, 0x1F15), (0x1F18, 0x1F1D), (0x1F20, 0x1F45), (0x1F48, 0x1F4D), (0x1F59, 0x1F59),
    (0x1F5B, 0x1F5B), (0x1F5D, 0x1F5D), (0x1F5F, 0x1F7D), (0x1FB6, 0x1FBC), (0x1FC6, 0x1FCC),
    (0x1FD6, 0x1FDB), (0x1FE0, 0x1FEC), (0x1FF6, 0x1FFC), (0x212F, 0x2139), (0x2160, 0x2188),
    (0x24B6, 0x24E9), (0x2C00, 0x2CE4), (0x2CEB, 0x2CEE), (0x2CF2, 0x2CF3), (0xA640, 0xA66E),
    (0xA67F, 0xA6EF), (0xA722, 0xA788), (0xA78B, 0xA7DC), (0xA7F1, 0xA805), (0xFF21, 0xFF3A),
    (0x10400, 0x1049D), (0x104B0, 0x104D3), (0x10570, 0x1057A), (0x1057C, 0x1058A),
    (0x1058C, 0x10592), (0x10594, 0x10595), (0x10C80, 0x10CB2), (0x10D4A, 0x10D65),
    (0x118A0, 0x118DF), (0x16E40, 0x16E7F), (0x16EA0, 0x16EB8), (0x1E900, 0x1E943)
  ]

/-- The letters whose upper case is a capital with combining marks. -/
def markedCapitalLetters : List Char :=
  [
    '\u01f0', '\u0390', '\u03b0', '\u1e96', '\u1e97', '\u1e98', '\u1e99', '\u1f50', '\u1f52',
    '\u1f54', '\u1f56', '\u1fb6', '\u1fb7', '\u1fc6', '\u1fc7', '\u1fd2', '\u1fd3', '\u1fd6',
    '\u1fd7', '\u1fe2', '\u1fe3', '\u1fe4', '\u1fe6', '\u1fe7', '\u1ff6', '\u1ff7'
  ]

/-- The combining marks of these capitals. -/
def capitalMarks : List Char :=
  ['\u0300', '\u0301', '\u0308', '\u030a', '\u030c', '\u0313', '\u0331', '\u0342']

lemma capitalRanges_sublist : capitalRanges.Sublist alphabeticRanges := by decide +kernel

/-- The stretches leave out surrogates and the small letters from a to z. -/
lemma capitalRanges_bounds : ∀ range ∈ capitalRanges,
    (range.2 < 0xD800 ∨ (0xDFFF < range.1 ∧ range.2 < 0x110000)) ∧
      (range.2 < 0x61 ∨ 0x7A < range.1) := by
  decide +kernel

/-- A capital is a letter and no digit. -/
structure IsCapital (c : Char) : Prop where
  alphabetic : isAlphabetic c
  notDigit : isDigit c = false

lemma isCapital_of_contains {c : Char} (h : capitalRanges.contains c) : IsCapital c := by
  obtain ⟨range, hrange, hbounds⟩ := List.any_eq_true.mp h
  have hletter : isAlphabetic c :=
    List.any_eq_true.mpr ⟨range, capitalRanges_sublist.subset hrange, hbounds⟩
  exact ⟨hletter, isDigit_of_isAlphabetic hletter⟩

lemma contains_ofNat {range : Nat × Nat} (hrange : range ∈ capitalRanges) {n : Nat}
    (hfirst : range.1 ≤ n) (hlast : n ≤ range.2) : capitalRanges.contains (Char.ofNat n) := by
  have hvalid := (capitalRanges_bounds range hrange).1
  have hnat : (Char.ofNat n).toNat = n := by
    apply toNat_ofNat_of_valid
    rcases hvalid with h | ⟨h1, h2⟩
    · exact Or.inl (by omega)
    · exact Or.inr ⟨by omega, by omega⟩
  refine List.any_eq_true.mpr ⟨range, hrange, ?_⟩
  simp only [hnat, Bool.and_eq_true, decide_eq_true_eq]
  exact ⟨hfirst, hlast⟩

/-- Every run of capitals lies inside one stretch, except for one run with gaps between letters. -/
lemma upperRuns_inside : ∀ run ∈ upperRuns,
    (∃ range ∈ capitalRanges,
      run.last + run.offset ≤ range.2 ∧ range.1 ≤ run.first + run.offset) ∨
    (run.first = 0x1F51 ∧ run.last = 0x1F57 ∧ run.stride = 2 ∧ run.offset = 8) := by
  decide +kernel

lemma CaseRun.contains_apply {run : CaseRun} (hrun : run ∈ upperRuns) {c : Char}
    (hcovers : run.covers c) : capitalRanges.contains (run.apply c) := by
  simp only [CaseRun.covers, Bool.and_eq_true, decide_eq_true_eq] at hcovers
  rw [CaseRun.apply]
  rcases upperRuns_inside run hrun with ⟨range, hrange, hlast, hfirst⟩ | ⟨h1, h2, h3, h4⟩
  · exact contains_ofNat hrange (by omega) (by omega)
  · rw [h1, h3] at hcovers
    have hmoved : ((c.toNat : Int) + run.offset).toNat ∈ [0x1F59, 0x1F5B, 0x1F5D, 0x1F5F] := by
      simp only [List.mem_cons, List.not_mem_nil, or_false]
      omega
    have hsingle : ∀ n ∈ [0x1F59, 0x1F5B, 0x1F5D, 0x1F5F],
        ∃ range ∈ capitalRanges, range.1 ≤ n ∧ n ≤ range.2 := by
      decide
    obtain ⟨range, hrange, hfirst, hlast⟩ := hsingle _ hmoved
    exact contains_ofNat hrange hfirst hlast

-- Characters are finitely many, so that a bounded statement on them may be decided by counting all
-- of them. The tables are compared by `all` and `any`, which go through the lists alone.

lemma upperExpansions_inside : ∀ entry ∈ upperExpansions,
    (entry.2.all fun d => capitalRanges.contains d || capitalMarks.contains d) = true ∧
    ((entry.1 ∈ markedCapitalLetters ∧ entry.2.any (capitalMarks.contains ·) = true) ∨
      (entry.1 ∉ markedCapitalLetters ∧ entry.2 ≠ [] ∧
        entry.2.all capitalRanges.contains = true)) := by
  decide +kernel

lemma markedCapitalLetters_expand : markedCapitalLetters ⊆ upperExpansions.map Prod.fst := by
  decide +kernel

lemma capitalMarks_not_allowed : capitalMarks.all (!Identifier.isAllowed ·) = true := by
  decide +kernel

/-- The upper case of a listed letter leaves the alphabet. That of any other character is the
character itself or capitals. -/
theorem upper_cases (c : Char) :
    (c ∈ markedCapitalLetters ∧ ∃ d ∈ upperMapping.apply c, Identifier.isAllowed d = false) ∨
    (c ∉ markedCapitalLetters ∧ (upperMapping.apply c = [c] ∨
      (upperMapping.apply c ≠ [] ∧ ∀ d ∈ upperMapping.apply c, IsCapital d))) := by
  rcases upperMapping.apply_cases c with
    ⟨expansion, hentry, happly⟩ | ⟨hkeys, hrest⟩
  · rw [happly]
    obtain ⟨-, ⟨hmarked, hmarks⟩ | ⟨hmarked, hne, hall⟩⟩ := upperExpansions_inside _ hentry
    · obtain ⟨d, hd, hmark⟩ := List.any_eq_true.mp hmarks
      have hforbidden :=
        List.all_eq_true.mp capitalMarks_not_allowed d (List.contains_iff_mem.mp hmark)
      exact Or.inl ⟨hmarked, d, hd, by simpa using hforbidden⟩
    · refine Or.inr ⟨hmarked, Or.inr ⟨hne, fun d hd => ?_⟩⟩
      exact isCapital_of_contains (List.all_eq_true.mp hall d hd)
  · have hmarked : c ∉ markedCapitalLetters := fun hmem => hkeys (markedCapitalLetters_expand hmem)
    refine Or.inr ⟨hmarked, ?_⟩
    rcases hrest with ⟨run, hrun, hcovers, happly⟩ | happly
    · rw [happly]
      refine Or.inr ⟨List.cons_ne_nil _ _, fun d hd => ?_⟩
      rw [List.mem_singleton.mp hd]
      exact isCapital_of_contains (CaseRun.contains_apply hrun hcovers)
    · exact Or.inl happly

/-- What stands in the upper case of a character is a capital or a mark, unless it is the character
alone. -/
theorem mem_upper_cases {c d : Char} (h : d ∈ upperMapping.apply c) :
    (d = c ∧ upperMapping.apply c = [c]) ∨ capitalRanges.contains d ∨ d ∈ capitalMarks := by
  rcases upperMapping.apply_cases c with
    ⟨expansion, hentry, happly⟩ | ⟨-, ⟨run, hrun, hcovers, happly⟩ | happly⟩
  · rw [happly] at h
    have hd := List.all_eq_true.mp (upperExpansions_inside _ hentry).1 d h
    rw [Bool.or_eq_true, List.contains_iff_mem] at hd
    exact Or.inr hd
  · rw [happly, List.mem_singleton] at h
    exact Or.inr (Or.inl (h ▸ CaseRun.contains_apply hrun hcovers))
  · rw [happly, List.mem_singleton] at h
    exact Or.inl ⟨h, happly⟩

/-- An ASCII character that is no letter comes from itself alone. -/
lemma not_mem_upper {c d : Char} (hne : d ≠ c) (hascii : d.toNat < 0x80)
    (hletter : d.isAlpha = false) (hmark : d ∉ capitalMarks) : d ∉ upperMapping.apply c := by
  intro hmem
  rcases mem_upper_cases hmem with ⟨hsame, -⟩ | h | h
  · exact hne hsame
  · have halpha := isAlpha_of_isAlphabetic hascii (isCapital_of_contains h).alphabetic
    exact Bool.false_ne_true (hletter.symm.trans halpha)
  · exact hmark h

lemma upper_ne_nil (c : Char) : upperMapping.apply c ≠ [] := by
  rcases upper_cases c with ⟨-, d, hd, -⟩ | ⟨-, hsame | ⟨hne, -⟩⟩
  · exact List.ne_nil_of_mem hd
  · rw [hsame]
    exact List.cons_ne_nil c []
  · exact hne

lemma capitalMarks_not_lower {d : Char} (h : d ∈ capitalMarks) :
    d.isLower = false ∧ isDigit d = false := by
  have hall : capitalMarks.all fun d => !d.isLower && !isDigit d := by decide
  simpa using List.all_eq_true.mp hall d h

lemma upper_ne_self_of_lower :
    ∀ n < 26, upperMapping.apply (Char.ofNat (0x61 + n)) ≠ [Char.ofNat (0x61 + n)] := by
  decide +kernel

/-- No small letter from a to z stands in an upper case. -/
lemma isLower_of_mem_upper {c d : Char} (h : d ∈ upperMapping.apply c) : d.isLower = false := by
  refine Bool.eq_false_iff.mpr fun hlower => ?_
  have hsmall := Bool.and_eq_true_iff.mp hlower
  have hfirst : 0x61 ≤ d.toNat := of_decide_eq_true hsmall.1
  have hlast : d.toNat ≤ 0x7A := of_decide_eq_true hsmall.2
  rcases mem_upper_cases h with ⟨rfl, hsame⟩ | hcapital | hmark
  · have hself := upper_ne_self_of_lower (d.toNat - 0x61) (by omega)
    rw [Nat.add_sub_cancel' hfirst, Char.ofNat_toNat] at hself
    exact hself hsame
  · obtain ⟨range, hrange, hbounds⟩ := List.any_eq_true.mp hcapital
    have houtside := (capitalRanges_bounds range hrange).2
    simp only [Bool.and_eq_true, decide_eq_true_eq] at hbounds
    omega
  · rw [(capitalMarks_not_lower hmark).1] at hlower
    cases hlower

/-- A digit stands in the upper case of no character but itself. -/
lemma isDigit_of_mem_upper {c d : Char} (hc : isDigit c = false) (h : d ∈ upperMapping.apply c) :
    isDigit d = false := by
  rcases mem_upper_cases h with ⟨rfl, -⟩ | hcapital | hmark
  · exact hc
  · exact (isCapital_of_contains hcapital).notDigit
  · exact (capitalMarks_not_lower hmark).2

end CdsDeclarations
