import CdsDeclarations.OrderedMap
import CdsDeclarations.Text.LetterCase
import Mathlib.Tactic.Lemma

/-!
# Case mappings

A case mapping looks a character up among those that become several, then among the runs. What is
known about the cases of a character comes from the table in which it is found.
-/

namespace CdsDeclarations

/-- A character is expanded, or moved by a run, or left as it is. -/
lemma CaseMapping.apply_cases (mapping : CaseMapping) (c : Char) :
    (∃ expansion, (c, expansion) ∈ mapping.expansions ∧ mapping.apply c = expansion) ∨
    (c ∉ mapping.expansions.map Prod.fst ∧
      ((∃ run ∈ mapping.runs, run.covers c ∧ mapping.apply c = [run.apply c]) ∨
        mapping.apply c = [c])) := by
  rw [apply]
  cases hlookup : mapping.expansions.lookup c with
  | some expansion => exact Or.inl ⟨expansion, mem_of_lookup_eq_some hlookup, rfl⟩
  | none =>
    refine Or.inr ⟨not_mem_keys_of_lookup_eq_none hlookup, ?_⟩
    cases hfind : mapping.runs.find? (·.covers c) with
    | some run =>
      have hcovers : run.covers c := List.find?_some (p := fun run : CaseRun => run.covers c) hfind
      exact Or.inl ⟨run, List.mem_of_find?_eq_some hfind, hcovers, rfl⟩
    | none => exact Or.inr rfl

lemma toNat_ofNat_of_valid {n : Nat} (h : n.isValidChar) : (Char.ofNat n).toNat = n := by
  rw [Char.ofNat, dif_pos h]
  rfl

lemma toNat_ofNat_eq {n k : Nat} (hk : k ≠ 0) (h : (Char.ofNat n).toNat = k) : n = k := by
  by_cases hvalid : n.isValidChar
  · rw [toNat_ofNat_of_valid hvalid] at h
    exact h
  · rw [Char.ofNat, dif_neg hvalid] at h
    exact absurd h.symm hk

end CdsDeclarations
