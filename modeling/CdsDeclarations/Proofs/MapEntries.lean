import CdsDeclarations.Proofs.InsertionOrder
import CdsDeclarations.Proofs.JsonTrees
import Mathlib.Data.List.Forall2

/-!
# Maps in two spellings

An object and a list of pairs with the same entries are read as the same map.
-/

namespace CdsDeclarations

namespace Json

/-- An object that holds some entries. -/
def objectOf (entries : List (TextLiteral × Node)) : Node :=
  .object (.ofList entries)

/-- An entry whose name is written without escapes. -/
def plainEntry (name : String) (value : Node) : TextLiteral × Node :=
  (.plain name, value)

/-- An entry as a list of its name and its value. -/
def pairNode (entry : TextLiteral × Node) : Node :=
  .list (.item (.text entry.1) (.item entry.2 .close))

/-- A list of the pairs of some entries. -/
def pairsOf (entries : List (TextLiteral × Node)) : Node :=
  .list (.ofList (entries.map pairNode))

/-- An object and a list of pairs that hold the same entries. -/
def Spells (entries : List (TextLiteral × Node)) (node : Node) : Prop :=
  node = objectOf entries ∨ node = pairsOf entries

/-- How a map may be spelled where `depth` containers may be opened in it, and how many of them are
left for its values. -/
inductive SpellsWithin : (depth room : Nat) → List (TextLiteral × Node) → Node → Prop
  | object {room : Nat} {entries : List (TextLiteral × Node)} :
      SpellsWithin (room + 1) room entries (objectOf entries)
  | pairs {room : Nat} {entries : List (TextLiteral × Node)} :
      SpellsWithin (room + 2) room entries (pairsOf entries)
  | noPairs {room : Nat} : SpellsWithin (room + 1) room [] (pairsOf [])

lemma SpellsWithin.spells {depth room : Nat} {entries : List (TextLiteral × Node)} {node : Node}
    (h : SpellsWithin depth room entries node) : Spells entries node := by
  cases h with
  | object => exact .inl rfl
  | pairs => exact .inr rfl
  | noPairs => exact .inr rfl

section Entries

variable {α ε : Type}

/-- Reads a name and its value. -/
def readEntry (read : Node → Except Fault α) (entry : TextLiteral × Node) :
    Except Fault (String × α) := do
  let name ← entry.1.read
  let value ← read entry.2
  return (name, value)

lemma readEntry_eq_ok_iff {read : Node → Except Fault α} {entry : TextLiteral × Node}
    {pair : String × α} :
    readEntry read entry = .ok pair ↔
      entry.1.read = .ok pair.1 ∧ read entry.2 = .ok pair.2 := by
  obtain ⟨name, value⟩ := pair
  simp [readEntry]

/-- Entries that are read as some pairs, one by one. -/
abbrev EntriesRead (read : Node → Except Fault α) :
    List (TextLiteral × Node) → List (String × α) → Prop :=
  List.Forall₂ fun entry pair => readEntry read entry = .ok pair

/-- Takes what is read next into a map. -/
def insertStep (readNext : ε → Except Fault (String × α)) (map : OrderedMap α) (next : ε) :
    Except Fault (OrderedMap α) := do
  let pair ← readNext next
  return map.insert pair.1 pair.2

lemma foldlM_insertStep_eq_ok_iff {readNext : ε → Except Fault (String × α)}
    {sources : List ε} {map final : OrderedMap α} :
    sources.foldlM (insertStep readNext) map = .ok final ↔
      ∃ pairs, List.Forall₂ (fun source pair => readNext source = .ok pair) sources pairs ∧
        map.insertAll pairs = final := by
  induction sources generalizing map with
  | nil => simp [OrderedMap.insertAll]
  | cons source rest ih =>
    rw [List.foldlM_cons, bind_eq_ok_iff]
    simp only [insertStep, bind_eq_ok_iff, pure_eq_ok_iff, ih]
    constructor
    · rintro ⟨_, ⟨pair, hpair, rfl⟩, pairs, hpairs, hfinal⟩
      exact ⟨pair :: pairs, .cons hpair hpairs, hfinal⟩
    · rintro ⟨_, _ | ⟨hpair, hpairs⟩, hfinal⟩
      exact ⟨_, ⟨_, hpair, rfl⟩, _, hpairs, hfinal⟩

end Entries

section Reading

variable {α : Type} {decode : Decoder α} {depth : Nat} {entries : List (TextLiteral × Node)}
  {map : OrderedMap α}

lemma readMap_objectOf_eq_ok_iff :
    readMap decode (depth + 1) (objectOf entries) = .ok map ↔
      ∃ pairs, EntriesRead (decode depth) entries pairs ∧ .ofList pairs = map := by
  have hsteps : Members.stepWith anyKey
      (fun (map : OrderedMap α) name value => do
        let value ← decode depth value
        return map.insert name value) = insertStep (readEntry (decode depth)) := by
    funext map entry
    simp only [Members.stepWith, insertStep, readEntry, bind_assoc, pure_bind]
    rfl
  rw [objectOf, readMap, Members.fold_ofList, hsteps]
  exact foldlM_insertStep_eq_ok_iff

lemma readMap_pairsOf_eq_ok_iff :
    readMap decode (depth + 1) (pairsOf entries) = .ok map ↔
      ∃ pairs, List.Forall₂ (fun entry pair => readPair decode depth (pairNode entry) = .ok pair)
        entries pairs ∧ .ofList pairs = map := by
  rw [pairsOf, readMap, Items.fold_ofList]
  refine foldlM_insertStep_eq_ok_iff.trans ?_
  simp only [List.forall₂_map_left_iff]
  rfl

lemma readPair_pairNode (entry : TextLiteral × Node) :
    readPair decode (depth + 1) (pairNode entry) = readEntry (decode depth) entry :=
  rfl

lemma exists_entry_of_readPair {node : Node} {pair : String × α}
    (h : readPair decode depth node = .ok pair) : ∃ entry, node = pairNode entry := by
  cases depth with
  | zero => cases h
  | succ depth =>
    cases node with
    | list items =>
      cases items with
      | item name rest =>
        simp only [readPair, readPairItems, bind_eq_ok_iff] at h
        obtain ⟨text, hname, hrest⟩ := h
        cases name with
        | text literal =>
          cases rest with
          | item value rest =>
            simp only [bind_eq_ok_iff] at hrest
            obtain ⟨content, -, ⟨⟩, hclose, -⟩ := hrest
            cases rest with
            | close => exact ⟨(literal, value), rfl⟩
            | item _ _ => cases hclose
            | broken cause => cases cause <;> cases hclose
          | _ => cases hrest
        | _ => cases hname
      | _ => cases h
    | _ => cases h

lemma exists_entries_of_readPair {values : List Node} {pairs : List (String × α)}
    (h : List.Forall₂ (fun value pair => readPair decode depth value = .ok pair) values pairs) :
    ∃ entries, values = List.map pairNode entries := by
  induction h with
  | nil => exact ⟨[], rfl⟩
  | cons hpair hpairs ih =>
    obtain ⟨entry, rfl⟩ := exists_entry_of_readPair hpair
    obtain ⟨entries, rfl⟩ := ih
    exact ⟨entry :: entries, rfl⟩

lemma exists_entries_of_readMap {node : Node} (h : readMap decode depth node = .ok map) :
    ∃ entries, Spells entries node := by
  cases depth with
  | zero => cases h
  | succ depth =>
    cases node with
    | object members =>
      rw [readMap, Members.fold_eq_ok_iff] at h
      obtain ⟨entries, rfl, -⟩ := h
      exact ⟨entries, .inl rfl⟩
    | list items =>
      rw [readMap, Items.fold_eq_ok_iff] at h
      obtain ⟨values, rfl, h⟩ := h
      obtain ⟨pairs, hpairs, -⟩ := foldlM_insertStep_eq_ok_iff.mp h
      obtain ⟨entries, rfl⟩ := exists_entries_of_readPair hpairs
      exact ⟨entries, .inr rfl⟩
    | _ => cases h

/-- The entries of a map are read one by one. -/
lemma exists_pairs_of_readMap {node : Node} (hspells : Spells entries node)
    (h : readMap decode depth node = .ok map) :
    ∃ room pairs, SpellsWithin depth room entries node ∧
      EntriesRead (decode room) entries pairs ∧ .ofList pairs = map := by
  cases depth with
  | zero => rcases hspells with rfl | rfl <;> cases h
  | succ depth =>
    rcases hspells with rfl | rfl
    · obtain ⟨pairs, hpairs, hmap⟩ := readMap_objectOf_eq_ok_iff.mp h
      exact ⟨depth, pairs, .object, hpairs, hmap⟩
    · obtain ⟨pairs, hpairs, hmap⟩ := readMap_pairsOf_eq_ok_iff.mp h
      cases depth with
      | zero =>
        cases hpairs with
        | nil => exact ⟨0, [], .noPairs, .nil, hmap⟩
        | cons hpair _ => cases hpair
      | succ depth =>
        simp only [readPair_pairNode] at hpairs
        exact ⟨depth, pairs, .pairs, hpairs, hmap⟩

lemma readMap_of_spellsWithin {room : Nat} {node : Node} {pairs : List (String × α)}
    (hspells : SpellsWithin depth room entries node)
    (hpairs : EntriesRead (decode room) entries pairs) :
    readMap decode depth node = .ok (.ofList pairs) := by
  cases hspells with
  | object => exact readMap_objectOf_eq_ok_iff.mpr ⟨pairs, hpairs, rfl⟩
  | pairs =>
    refine readMap_pairsOf_eq_ok_iff.mpr ⟨pairs, ?_, rfl⟩
    simpa only [readPair_pairNode] using hpairs
  | noPairs =>
    cases hpairs
    rfl

end Reading

end Json

end CdsDeclarations
