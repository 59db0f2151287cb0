import CdsDeclarations.Proofs.MapEntries
import Mathlib.Data.Finset.Card

/-!
# Histories of maps

However a map was made, it is the map of the pairs that were inserted on the way, one after the
other. All that can be asked of it follows from these pairs.
-/

namespace CdsDeclarations

namespace OrderedMap

variable {α : Type}

lemma replaceEntry_fst (key : String) (value : α) (entries : List (String × α)) :
    (replaceEntry key value entries).1 = entries.lookup key := by
  induction entries with
  | nil => rfl
  | cons entry rest ih =>
    rw [replaceEntry_cons, lookup_cons_eq_ite]
    by_cases h : entry.1 = key
    · rw [if_pos h, if_pos h.symm]
    · rw [if_neg h, if_neg (Ne.symm h), ← ih]

lemma getThenInsert?_fst (map : OrderedMap α) (key : String) (value : α) :
    (map.getThenInsert? key value).1 = map.get? key :=
  replaceEntry_fst key value map.entries

/-- How a map came about, with all pairs that were inserted since it was new. -/
inductive MadeFrom : List (String × α) → OrderedMap α → Prop
  | empty : MadeFrom [] .empty
  | insert {pairs : List (String × α)} {map : OrderedMap α} (h : MadeFrom pairs map)
      (key : String) (value : α) :
      MadeFrom (pairs ++ [(key, value)]) (map.getThenInsert? key value).2
  | ofList (pairs : List (String × α)) : MadeFrom pairs (.ofList pairs)
  | read {decode : Json.Decoder α} {depth room : Nat} {node : Json.Node}
      {entries : List (Json.TextLiteral × Json.Node)} {pairs : List (String × α)}
      {map : OrderedMap α} (hspells : Json.SpellsWithin depth room entries node)
      (hpairs : Json.EntriesRead (decode room) entries pairs)
      (hread : Json.readMap decode depth node = .ok map) : MadeFrom pairs map

lemma MadeFrom.eq_ofList {pairs : List (String × α)} {map : OrderedMap α} (h : MadeFrom pairs map) :
    map = .ofList pairs := by
  induction h with
  | empty => rfl
  | insert _ key value ih => rw [ofList_concat, ← ih, OrderedMap.insert]
  | ofList pairs => rfl
  | read hspells hpairs hread =>
    exact (Except.ok.inj ((Json.readMap_of_spellsWithin hspells hpairs).symm.trans hread)).symm

/-- A map agrees with the pairs that were inserted into it. -/
structure Refines (pairs : List (String × α)) (map : OrderedMap α) : Prop where
  keys_distinct : map.keys.Nodup
  keys_eq : map.keys = (pairs.map Prod.fst).eraseDups
  get?_eq : ∀ key, map.get? key = pairs.reverse.lookup key
  size_eq : map.size = (pairs.map Prod.fst).toFinset.card
  previous_eq : ∀ key value, (map.getThenInsert? key value).1 = map.get? key
  get?_after : ∀ key value other,
    (map.getThenInsert? key value).2.get? other = if other = key then some value else map.get? other
  entry_after : ∀ (key : String) (value : α) (position : Nat) (entry : String × α),
    map.entries[position]? = some entry →
    (map.getThenInsert? key value).2.entries[position]? =
      some (if entry.1 = key then (key, value) else entry)
  keys_after : ∀ key value, (map.getThenInsert? key value).2.keys =
    if key ∈ map.keys then map.keys else map.keys ++ [key]
  rebuilt : .ofList map.entries = map

lemma getElem?_replaceEntry {key : String} (value : α) {entries : List (String × α)}
    (hkeys : (entries.map Prod.fst).Nodup) {position : Nat} {entry : String × α}
    (h : entries[position]? = some entry) :
    (replaceEntry key value entries).2[position]? =
      some (if entry.1 = key then (key, value) else entry) := by
  induction entries generalizing position with
  | nil => cases h
  | cons first rest ih =>
    rw [List.map_cons, List.nodup_cons] at hkeys
    rw [replaceEntry_cons]
    cases position with
    | zero =>
      obtain rfl : first = entry := Option.some.inj h
      by_cases hfirst : first.1 = key
      · rw [if_pos hfirst, if_pos hfirst, List.getElem?_cons_zero]
      · rw [if_neg hfirst, if_neg hfirst, List.getElem?_cons_zero]
    | succ position =>
      rw [List.getElem?_cons_succ] at h
      by_cases hfirst : first.1 = key
      · have hentry : entry.1 ≠ key := by
          rintro hsame
          have hmem := List.mem_map_of_mem (List.mem_of_getElem? h) (f := Prod.fst)
          exact hkeys.1 (hfirst ▸ hsame ▸ hmem)
        rw [if_pos hfirst, if_neg hentry, List.getElem?_cons_succ, h]
      · rw [if_neg hfirst, List.getElem?_cons_succ, ih hkeys.2 h]

lemma size_ofList (pairs : List (String × α)) :
    (ofList pairs).size = (pairs.map Prod.fst).toFinset.card := by
  have hkeys : (ofList pairs).keys.toFinset = (pairs.map Prod.fst).toFinset := by
    ext key
    rw [List.mem_toFinset, List.mem_toFinset, keys_ofList, List.mem_eraseDups]
  rw [← hkeys, List.toFinset_card_of_nodup]
  · rw [keys, List.length_map, size]
  · exact (ofList pairs).keys_nodup

lemma entries_insertAll {map : OrderedMap α} {pairs : List (String × α)}
    (h : ((map.entries ++ pairs).map Prod.fst).Nodup) :
    (map.insertAll pairs).entries = map.entries ++ pairs := by
  induction pairs generalizing map with
  | nil => exact (List.append_nil _).symm
  | cons pair rest ih =>
    have hnew : pair.1 ∉ map.entries.map Prod.fst := by
      rw [List.map_append, List.nodup_append] at h
      exact fun hmem => h.2.2 pair.1 hmem pair.1 List.mem_cons_self rfl
    have hentries : (map.insert pair.1 pair.2).entries = map.entries ++ [pair] :=
      entries_insert_of_not_mem hnew pair.2
    rw [List.append_cons, ← hentries] at h ⊢
    exact ih h

/-- The map of its own entries is the map itself. -/
lemma ofList_entries (map : OrderedMap α) : ofList map.entries = map := by
  have hkeys : (((empty : OrderedMap α).entries ++ map.entries).map Prod.fst).Nodup :=
    map.keys_nodup
  have hentries : (ofList map.entries).entries = map.entries := entries_insertAll hkeys
  cases hmap : ofList map.entries
  rw [hmap] at hentries
  cases map
  cases hentries
  rfl

/-- Whatever a map was made from, it refines. -/
theorem refines_ofList (pairs : List (String × α)) : Refines pairs (ofList pairs) where
  keys_distinct := (ofList pairs).keys_nodup
  keys_eq := keys_ofList pairs
  get?_eq := get?_ofList pairs
  size_eq := size_ofList pairs
  previous_eq := getThenInsert?_fst (ofList pairs)
  get?_after key value other := get?_insert (ofList pairs) key other value
  entry_after _ value _ _ h := getElem?_replaceEntry value (ofList pairs).keys_nodup h
  keys_after key value := keys_insert (ofList pairs) key value
  rebuilt := ofList_entries (ofList pairs)

lemma MadeFrom.refines {pairs : List (String × α)} {map : OrderedMap α} (h : MadeFrom pairs map) :
    Refines pairs map :=
  h.eq_ofList ▸ refines_ofList pairs

end OrderedMap

end CdsDeclarations
