import CdsDeclarations.Generation.FreeName
import Mathlib.Data.List.Basic
import Mathlib.Data.List.Nodup
import Mathlib.Order.Bounds.Defs
import Mathlib.Tactic.Push

/-!
# The search for a free name

The search tries as many numbers as names are taken. If the key tells the numbered forms of a name
from each other and from the name itself, not all of them can be taken, so that the search always
ends with the least free number, just as it would without the bound.
-/

namespace CdsDeclarations

/-- A key that no two of a name and its numbered forms share. -/
structure TellsNumbers (key : String → String) (name : String) : Prop where
  injective : Function.Injective fun number => key (numbered name number)
  fresh : ∀ number, key (numbered name number) ≠ key name

lemma toList_numbered (name : String) (number : Nat) :
    (numbered name number).toList = name.toList ++ '_' :: Nat.toDigits 10 number := by
  rw [numbered, String.toList_append, String.toList_append, Nat.toString_eq_repr, Nat.toList_repr,
    List.append_assoc]
  rfl

lemma numbered_injective (name : String) : Function.Injective (numbered name) := by
  intro number other h
  have hlists := congrArg String.toList h
  rw [toList_numbered, toList_numbered] at hlists
  have hdigits := (List.cons.inj (List.append_cancel_left hlists)).2
  rw [← Nat.ofDigitChars_ten_toDigits (n := number), hdigits, Nat.ofDigitChars_ten_toDigits]

lemma numbered_ne (name : String) (number : Nat) : numbered name number ≠ name := by
  intro h
  have hlength := congrArg (fun text => text.toList.length) h
  simp only [toList_numbered, List.length_append, List.length_cons] at hlength
  omega

lemma tellsNumbers_id (name : String) : TellsNumbers id name :=
  ⟨numbered_injective name, numbered_ne name⟩

variable {key : String → String} {taken : List String} {name : String}

lemma firstFree_cases (steps number : Nat) :
    (∃ k, number ≤ k ∧ k < number + steps ∧ firstFree key taken name steps number = numbered name k ∧
      key (numbered name k) ∉ taken ∧
      ∀ i, number ≤ i → i < k → key (numbered name i) ∈ taken) ∨
    ∀ i, number ≤ i → i < number + steps → key (numbered name i) ∈ taken := by
  induction steps generalizing number with
  | zero => exact Or.inr fun i h1 h2 => absurd h2 (by omega)
  | succ steps ih =>
    rw [firstFree]
    by_cases hfirst : key (numbered name number) ∈ taken
    · rw [if_pos (List.contains_iff_mem.mpr hfirst)]
      rcases ih (number + 1) with ⟨k, hle, hlt, hfree, hkey, hbefore⟩ | hall
      · refine Or.inl ⟨k, by omega, by omega, hfree, hkey, fun i h1 h2 => ?_⟩
        by_cases hi : i = number
        · rw [hi]
          exact hfirst
        · exact hbefore i (by omega) h2
      · refine Or.inr fun i h1 h2 => ?_
        by_cases hi : i = number
        · rw [hi]
          exact hfirst
        · exact hall i (by omega) (by omega)
    · rw [if_neg (fun h => hfirst (List.contains_iff_mem.mp h))]
      exact Or.inl ⟨number, by omega, by omega, rfl, hfirst, fun i h1 h2 => absurd h2 (by omega)⟩

/-- Names in a list cannot take a name and as many numbered forms of it as the list is long. -/
lemma exists_free_number (hkey : TellsNumbers key name) (hname : key name ∈ taken) :
    ∃ k, 1 ≤ k ∧ k < 1 + taken.length ∧ key (numbered name k) ∉ taken := by
  by_contra hnone
  push Not at hnone
  let keys := key name :: (List.range' 1 taken.length).map fun k => key (numbered name k)
  have hnodup : keys.Nodup := by
    refine List.nodup_cons.mpr ⟨?_, (List.nodup_range' (s := 1)).map hkey.injective⟩
    intro hmem
    obtain ⟨k, -, hk⟩ := List.mem_map.mp hmem
    exact hkey.fresh k hk
  have hsubset : keys ⊆ taken := by
    intro text htext
    rcases List.mem_cons.mp htext with rfl | hmem
    · exact hname
    · obtain ⟨k, hk, rfl⟩ := List.mem_map.mp hmem
      have hrange := List.mem_range'_1.mp hk
      exact hnone k hrange.1 hrange.2
  have hlength := hnodup.length_le_of_subset hsubset
  simp only [keys, List.length_cons, List.length_map, List.length_range'] at hlength
  omega

/-- A free name is the name itself, or its numbered form with the least number that is free. -/
theorem freeName_cases (hkey : TellsNumbers key name) :
    (key name ∉ taken ∧ freeName key taken name = name) ∨
    (key name ∈ taken ∧ ∃ k, 1 ≤ k ∧ k ≤ taken.length ∧
      freeName key taken name = numbered name k ∧ key (numbered name k) ∉ taken ∧
      ∀ i, 1 ≤ i → i < k → key (numbered name i) ∈ taken) := by
  rw [freeName]
  by_cases hname : key name ∈ taken
  · rw [if_pos (List.contains_iff_mem.mpr hname)]
    rcases firstFree_cases taken.length 1 with ⟨k, hle, hlt, hfree, hfresh, hbefore⟩ | hall
    · exact Or.inr ⟨hname, k, hle, by omega, hfree, hfresh, hbefore⟩
    · obtain ⟨k, hle, hlt, hfresh⟩ := exists_free_number hkey hname
      exact absurd (hall k hle hlt) hfresh
  · rw [if_neg (fun h => hname (List.contains_iff_mem.mp h))]
    exact Or.inl ⟨hname, rfl⟩

/-- The least positive number whose numbered form of a name is free. -/
def IsLeastFree (key : String → String) (taken : List String) (name : String) (number : Nat) : Prop :=
  IsLeast {n | 0 < n ∧ key (numbered name n) ∉ taken} number

lemma isLeastFree_congr {others : List String} {number : Nat}
    (h : ∀ text, text ∈ taken ↔ text ∈ others) :
    IsLeastFree key taken name number ↔ IsLeastFree key others name number := by
  simp only [IsLeastFree, h]

/-- A taken name gets its least free number, which is at most the number of names taken. -/
theorem exists_isLeastFree_of_taken (hkey : TellsNumbers key name) (hname : key name ∈ taken) :
    ∃ number, number ≤ taken.length ∧ freeName key taken name = numbered name number ∧
      IsLeastFree key taken name number := by
  rcases @freeName_cases key taken name hkey with
    ⟨hfree, -⟩ | ⟨-, number, hpos, hle, hnumbered, hfresh, hbefore⟩
  · exact absurd hname hfree
  · refine ⟨number, hle, hnumbered, ⟨hpos, hfresh⟩, ?_⟩
    rintro other ⟨hother, hunused⟩
    by_contra hlt
    exact hunused (hbefore other hother (by omega))

theorem freeName_of_not_taken (hname : key name ∉ taken) : freeName key taken name = name := by
  rw [freeName, if_neg fun h => hname (List.contains_iff_mem.mp h)]

/-- The numbered forms of a name tried one after the other without a bound: a taken form is passed
over, and the search stops at the first one that is free. -/
inductive StopsAt (key : String → String) (taken : List String) (name : String) :
    Nat → String → Prop
  | free {number : Nat} (h : key (numbered name number) ∉ taken) :
    StopsAt key taken name number (numbered name number)
  | passed {number : Nat} {result : String} (h : key (numbered name number) ∈ taken)
    (next : StopsAt key taken name (number + 1) result) : StopsAt key taken name number result

lemma StopsAt.unique {number : Nat} {result other : String}
    (h : StopsAt key taken name number result) (hother : StopsAt key taken name number other) :
    other = result := by
  induction h with
  | free hfree =>
    cases hother with
    | free _ => rfl
    | passed htaken _ => exact absurd htaken hfree
  | passed htaken _ ih =>
    cases hother with
    | free hfree => exact absurd htaken hfree
    | passed _ next => exact ih next

lemma stopsAt_of_forall_taken {number last : Nat} (hle : number ≤ last)
    (hfree : key (numbered name last) ∉ taken)
    (hbefore : ∀ i, number ≤ i → i < last → key (numbered name i) ∈ taken) :
    StopsAt key taken name number (numbered name last) := by
  obtain ⟨steps, rfl⟩ := Nat.exists_eq_add_of_le hle
  induction steps generalizing number with
  | zero => exact .free hfree
  | succ steps ih =>
    apply StopsAt.passed (hbefore number (by omega) (by omega))
    have hsame : number + (steps + 1) = number + 1 + steps := by omega
    rw [hsame] at hfree hbefore ⊢
    exact ih (by omega) hfree fun i hi hlt => hbefore i (by omega) hlt

/-- The unbounded search stops with the least free number and with no other result. -/
theorem IsLeastFree.stopsAt_iff {number : Nat} (h : IsLeastFree key taken name number)
    (result : String) : StopsAt key taken name 1 result ↔ result = numbered name number := by
  have hstops : StopsAt key taken name 1 (numbered name number) := by
    refine stopsAt_of_forall_taken h.1.1 h.1.2 fun i hi hlt => ?_
    by_contra hfree
    exact absurd (h.2 ⟨hi, hfree⟩) (by omega)
  constructor
  · exact hstops.unique
  · rintro rfl
    exact hstops

theorem freeName_not_taken (hkey : TellsNumbers key name) :
    key (freeName key taken name) ∉ taken := by
  rcases @freeName_cases key taken name hkey with ⟨hname, hfree⟩ | ⟨-, k, -, -, hfree, hfresh, -⟩
  · rw [hfree]
    exact hname
  · rw [hfree]
    exact hfresh

end CdsDeclarations
