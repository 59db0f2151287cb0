import CdsDeclarations.OrderedMap
import Mathlib.Data.List.Induction
import Mathlib.Data.List.Nodup
import Mathlib.Tactic.Lemma

/-!
# Insertion order

What a map holds after some pairs were inserted one after the other: a repeated name keeps its first
position and takes its last value.
-/

namespace CdsDeclarations

namespace OrderedMap

variable {α : Type}

lemma lookup_cons_eq_ite (entry : String × α) (rest : List (String × α)) (name : String) :
    (entry :: rest).lookup name = if name = entry.1 then some entry.2 else rest.lookup name := by
  rw [List.lookup_cons]
  by_cases h : name = entry.1
  · simp [h]
  · rw [if_neg h, beq_eq_false_iff_ne.mpr h]

lemma lookup_replaceEntry (key name : String) (value : α) (entries : List (String × α)) :
    (replaceEntry key value entries).2.lookup name =
      if name = key then some value else entries.lookup name := by
  induction entries with
  | nil => exact lookup_cons_eq_ite (key, value) [] name
  | cons entry rest ih =>
    rw [replaceEntry_cons, lookup_cons_eq_ite entry]
    split
    · next hkey =>
      rw [lookup_cons_eq_ite, hkey]
      split <;> rfl
    · next hkey =>
      rw [lookup_cons_eq_ite, ih]
      by_cases h : name = key
      · rw [if_pos h, if_neg (h ▸ Ne.symm hkey), if_pos h]
      · rw [if_neg h, if_neg h]

/-- A map holds the entries that are found in it. -/
lemma get?_eq_some_iff {map : OrderedMap α} {key : String} {value : α} :
    map.get? key = some value ↔ (key, value) ∈ map.entries := by
  rw [get?]
  constructor
  · exact mem_of_lookup_eq_some
  · intro hentry
    cases hlookup : map.entries.lookup key with
    | none => exact absurd (List.mem_map_of_mem hentry) (not_mem_keys_of_lookup_eq_none hlookup)
    | some other =>
      have hsame := List.inj_on_of_nodup_map map.keys_nodup (mem_of_lookup_eq_some hlookup) hentry rfl
      exact congrArg (fun entry => some entry.2) hsame

lemma replaceEntry_of_not_mem {key : String} {entries : List (String × α)}
    (h : key ∉ entries.map Prod.fst) (value : α) :
    replaceEntry key value entries = (none, entries ++ [(key, value)]) := by
  induction entries with
  | nil => rfl
  | cons entry rest ih =>
    rw [List.map_cons, List.mem_cons, not_or] at h
    rw [replaceEntry_cons, if_neg (Ne.symm h.1), ih h.2, List.cons_append]

lemma entries_insert_of_not_mem {map : OrderedMap α} {key : String} (h : key ∉ map.keys)
    (value : α) : (map.insert key value).entries = map.entries ++ [(key, value)] :=
  congrArg Prod.snd (replaceEntry_of_not_mem h value)

lemma get?_insert (map : OrderedMap α) (key name : String) (value : α) :
    (map.insert key value).get? name = if name = key then some value else map.get? name :=
  lookup_replaceEntry key name value map.entries

lemma keys_insert (map : OrderedMap α) (key : String) (value : α) :
    (map.insert key value).keys = if key ∈ map.keys then map.keys else map.keys ++ [key] :=
  map_fst_replaceEntry key value map.entries

lemma ofList_concat (pairs : List (String × α)) (pair : String × α) :
    ofList (pairs ++ [pair]) = (ofList pairs).insert pair.1 pair.2 := by
  rw [ofList, insertAll, List.foldl_append]
  rfl

/-- The names stand in the order in which they first came. -/
theorem keys_ofList (pairs : List (String × α)) :
    (ofList pairs).keys = (pairs.map Prod.fst).eraseDups := by
  induction pairs using List.reverseRecOn with
  | nil => rfl
  | append_singleton pairs pair ih =>
    rw [ofList_concat, keys_insert, ih, List.map_append, List.eraseDups_append]
    by_cases h : pair.1 ∈ pairs.map Prod.fst
    · simp [h, List.removeAll]
    · simp [h, List.removeAll, List.eraseDups_cons]

/-- Every name has the value that came last. -/
theorem get?_ofList (pairs : List (String × α)) (name : String) :
    (ofList pairs).get? name = pairs.reverse.lookup name := by
  induction pairs using List.reverseRecOn with
  | nil => rfl
  | append_singleton pairs pair ih =>
    rw [ofList_concat, get?_insert, ih, List.reverse_append, List.reverse_singleton,
      List.singleton_append, lookup_cons_eq_ite]

lemma mem_of_mem_entries_ofList {pairs : List (String × α)} {entry : String × α}
    (h : entry ∈ (ofList pairs).entries) : entry ∈ pairs := by
  have hlookup := get?_eq_some_iff.mpr h
  rw [get?_ofList] at hlookup
  exact List.mem_reverse.mp (mem_of_lookup_eq_some hlookup)

end OrderedMap

end CdsDeclarations
