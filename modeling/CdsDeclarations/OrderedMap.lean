/-!
# Insertion-ordered maps

A map from names to values that keeps the order in which the names first came. The order carries
meaning: fields and enum members are declared in it.
-/

namespace CdsDeclarations

/-- Entries in insertion order, no name twice. -/
structure OrderedMap (α : Type) where
  entries : List (String × α)
  keys_nodup : (entries.map Prod.fst).Nodup
  deriving DecidableEq

section Lookup

variable {α β : Type} [BEq α] [LawfulBEq α] {key : α} {entries : List (α × β)}

theorem mem_of_lookup_eq_some {value : β} (h : entries.lookup key = some value) :
    (key, value) ∈ entries := by
  obtain ⟨before, after, rfl, -⟩ := List.lookup_eq_some_iff.mp h
  exact List.mem_append_right before List.mem_cons_self

theorem not_mem_keys_of_lookup_eq_none (h : entries.lookup key = none) :
    key ∉ entries.map Prod.fst := by
  intro hmem
  obtain ⟨entry, hentry, rfl⟩ := List.mem_map.mp hmem
  have hother := List.lookup_eq_none_iff.mp h entry hentry
  simp at hother

end Lookup

namespace OrderedMap

variable {α β : Type}

/-- The value that was under a name, and the entries with the new one: in the place of the old one,
or at the end if there was none. -/
def replaceEntry (key : String) (value : α) : List (String × α) → Option α × List (String × α)
  | [] => (none, [(key, value)])
  | entry :: rest =>
    if entry.1 = key then (some entry.2, (key, value) :: rest)
    else
      let (previous, after) := replaceEntry key value rest
      (previous, entry :: after)

theorem replaceEntry_cons (key : String) (value : α) (entry : String × α)
    (rest : List (String × α)) :
    replaceEntry key value (entry :: rest) =
      if entry.1 = key then (some entry.2, (key, value) :: rest)
      else ((replaceEntry key value rest).1, entry :: (replaceEntry key value rest).2) :=
  rfl

theorem map_fst_replaceEntry (key : String) (value : α) (entries : List (String × α)) :
    (replaceEntry key value entries).2.map Prod.fst =
      if key ∈ entries.map Prod.fst then entries.map Prod.fst
      else entries.map Prod.fst ++ [key] := by
  induction entries with
  | nil => simp [replaceEntry]
  | cons entry rest ih =>
    rw [replaceEntry_cons]
    by_cases h : entry.1 = key
    · simp [h]
    · have hk : ¬key = entry.1 := fun e => h e.symm
      simp only [h, ite_false, List.map_cons, ih, List.mem_cons, hk, false_or]
      split <;> rfl

theorem nodup_map_fst_replaceEntry (key : String) (value : α) (entries : List (String × α))
    (h : (entries.map Prod.fst).Nodup) :
    ((replaceEntry key value entries).2.map Prod.fst).Nodup := by
  rw [map_fst_replaceEntry]
  split
  · exact h
  · next hk =>
    refine List.nodup_append.mpr ⟨h, by simp, ?_⟩
    intro a ha b hb
    have hb : b = key := by simpa using hb
    exact fun hab => hk (by rw [← hb, ← hab]; exact ha)

/-- The map without entries. -/
def empty : OrderedMap α := ⟨[], List.nodup_nil⟩

instance : Inhabited (OrderedMap α) := ⟨empty⟩

/-- Inserts a value and gives the one that it takes the place of. -/
def getThenInsert? (map : OrderedMap α) (key : String) (value : α) : Option α × OrderedMap α :=
  let replaced := replaceEntry key value map.entries
  (replaced.1,
    ⟨replaced.2, nodup_map_fst_replaceEntry key value map.entries map.keys_nodup⟩)

/-- A name keeps its first position and takes its last value. -/
def insert (map : OrderedMap α) (key : String) (value : α) : OrderedMap α :=
  (map.getThenInsert? key value).2

def get? (map : OrderedMap α) (key : String) : Option α :=
  map.entries.lookup key

def keys (map : OrderedMap α) : List String :=
  map.entries.map Prod.fst

def size (map : OrderedMap α) : Nat :=
  map.entries.length

def isEmpty (map : OrderedMap α) : Bool :=
  map.entries.isEmpty

/-- The map after inserting the pairs from left to right. -/
def insertAll (map : OrderedMap α) (pairs : List (String × α)) : OrderedMap α :=
  pairs.foldl (fun map pair => map.insert pair.1 pair.2) map

def ofList (pairs : List (String × α)) : OrderedMap α :=
  empty.insertAll pairs

end OrderedMap

end CdsDeclarations
