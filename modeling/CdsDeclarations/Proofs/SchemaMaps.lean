import CdsDeclarations.Proofs.AcceptedTrees
import CdsDeclarations.Proofs.MapHistories

/-!
# Maps of a model

Every map in a model that was read, at whatever depth, was read from a part of the tree of its text
and holds what the entries of that part say.
-/

namespace CdsDeclarations

namespace Json

/-- A node is a part of itself and of every node that one of its wholes stands in. -/
inductive Node.PartOf : Node → Node → Prop
  | whole (node : Node) : PartOf node node
  | item {part value : Node} {values : List Node} (hvalue : value ∈ values)
      (h : PartOf part value) : PartOf part (.list (.ofList values))
  | member {part : Node} {entry : TextLiteral × Node} {entries : List (TextLiteral × Node)}
      (hentry : entry ∈ entries) (h : PartOf part entry.2) : PartOf part (.object (.ofList entries))

lemma Node.PartOf.trans {part between whole : Node} (hpart : part.PartOf between)
    (h : between.PartOf whole) : part.PartOf whole := by
  induction h with
  | whole => exact hpart
  | item hvalue _ ih => exact .item hvalue ih
  | member hentry _ ih => exact .member hentry ih

/-- A map that was read from a part of a tree, with the pairs that the entries of this part give. -/
def MapReadIn {α : Type} (root : Node) (decode : Decoder α) (pairs : List (String × α))
    (map : OrderedMap α) : Prop :=
  ∃ part depth room entries, part.PartOf root ∧ SpellsWithin depth room entries part ∧
    EntriesRead (decode room) entries pairs ∧ readMap decode depth part = .ok map

section Maps

variable {α : Type} {decode : Decoder α} {depth : Nat} {root node : Node} {map : OrderedMap α}

lemma exists_mapReadIn (hpart : node.PartOf root) (h : readMap decode depth node = .ok map) :
    ∃ pairs, MapReadIn root decode pairs map := by
  obtain ⟨entries, hspells⟩ := exists_entries_of_readMap h
  obtain ⟨room, pairs, hwithin, hpairs, -⟩ := exists_pairs_of_readMap hspells h
  exact ⟨pairs, node, depth, room, entries, hpart, hwithin, hpairs, h⟩

lemma MapReadIn.refines {pairs : List (String × α)} (h : MapReadIn root decode pairs map) :
    map.Refines pairs := by
  obtain ⟨part, depth, room, entries, -, hspells, hpairs, hread⟩ := h
  exact (OrderedMap.MadeFrom.read hspells hpairs hread).refines

lemma Spells.partOf {entries : List (TextLiteral × Node)} (h : Spells entries node)
    {entry : TextLiteral × Node} (hentry : entry ∈ entries) : entry.2.PartOf node := by
  rcases h with rfl | rfl
  · exact .member hentry (.whole entry.2)
  · refine .item (List.mem_map_of_mem hentry) ?_
    have hvalue : entry.2 ∈ [.text entry.1, entry.2] := by simp
    exact .item hvalue (.whole entry.2)

lemma exists_entry_of_mem_pairs {read : Node → Except Fault α} {entries : List (TextLiteral × Node)}
    {pairs : List (String × α)} (h : EntriesRead read entries pairs) {pair : String × α}
    (hpair : pair ∈ pairs) : ∃ entry ∈ entries, readEntry read entry = .ok pair := by
  induction h with
  | nil => cases hpair
  | @cons entry _ _ _ hfirst _ ih =>
    rcases List.mem_cons.mp hpair with rfl | hrest
    · exact ⟨entry, List.mem_cons_self, hfirst⟩
    · obtain ⟨other, hother, hread⟩ := ih hrest
      exact ⟨other, List.mem_cons_of_mem entry hother, hread⟩

/-- What a map holds was read from a part of the map's own node. -/
lemma exists_part_of_mem_entries (h : readMap decode depth node = .ok map) {entry : String × α}
    (hentry : entry ∈ map.entries) :
    ∃ part room, part.PartOf node ∧ decode room part = .ok entry.2 := by
  obtain ⟨sources, hspells⟩ := exists_entries_of_readMap h
  obtain ⟨room, pairs, -, hpairs, rfl⟩ := exists_pairs_of_readMap hspells h
  have hpair := OrderedMap.mem_of_mem_entries_ofList hentry
  obtain ⟨source, hsource, hread⟩ := exists_entry_of_mem_pairs hpairs hpair
  exact ⟨source.2, room, hspells.partOf hsource, (readEntry_eq_ok_iff.mp hread).2⟩

end Maps

section Records

variable {Slot : Type} [DecidableEq Slot] {Content : Slot → Type} {format : RecordFormat Slot}
  {read : (slot : Slot) → Node → Except Fault (Content slot)} {draft final : Draft Content}
  {slot : Slot} {content : Content slot}

lemma read_of_set {other : Slot} {value : Content other} {node : Node}
    (hread : read slot node = .ok content) (h : draft.set slot content other = some value) :
    draft other = some value ∨ read other node = .ok value := by
  rw [Draft.set] at h
  by_cases hslot : slot = other
  · subst hslot
    rw [dif_pos rfl] at h
    exact Or.inr (hread.trans (congrArg Except.ok (Option.some.inj h)))
  · rw [dif_neg hslot] at h
    exact Or.inl h

lemma read_of_foldlM {entries : List (TextLiteral × Node)}
    (h : entries.foldlM (Members.stepWith format.checkKey (format.step read)) draft = .ok final)
    (hslot : final slot = some content) :
    draft slot = some content ∨ ∃ entry ∈ entries, read slot entry.2 = .ok content := by
  induction entries generalizing draft with
  | nil =>
    obtain rfl := Except.ok.inj h
    exact Or.inl hslot
  | cons entry rest ih =>
    rw [List.foldlM_cons, bind_eq_ok_iff] at h
    obtain ⟨next, hnext, hrest⟩ := h
    rcases ih hrest with hdraft | ⟨other, hother, hread⟩
    · obtain ⟨key, -, ⟨taken, value, -, -, hread, rfl⟩ | ⟨-, -, rfl⟩⟩ :=
        RecordFormat.stepWith_eq_ok_iff.mp hnext
      · rcases read_of_set hread hdraft with hearlier | hvalue
        · exact Or.inl hearlier
        · exact Or.inr ⟨entry, List.mem_cons_self, hvalue⟩
      · exact Or.inl hdraft
    · exact Or.inr ⟨other, List.mem_cons_of_mem entry hother, hread⟩

lemma read_of_readSlots {slots : List Slot} {position : Nat} {items : Items}
    (h : format.readSlots read slots position draft items = .ok final) :
    ∃ values, items = .ofList values ∧ ∀ slot content, final slot = some content →
      draft slot = some content ∨ ∃ value ∈ values, read slot value = .ok content := by
  induction slots generalizing position draft items with
  | nil =>
    simp only [RecordFormat.readSlots, bind_eq_ok_iff] at h
    obtain ⟨_, hclose, hfinal⟩ := h
    obtain rfl := Except.ok.inj hfinal
    exact ⟨[], requireClose_eq_ok_iff.mp hclose, fun _ _ hslot => Or.inl hslot⟩
  | cons first slots ih =>
    cases items with
    | close =>
      rw [RecordFormat.readSlots] at h
      split at h
      · exact ih h
      · cases h
    | item value rest =>
      simp only [RecordFormat.readSlots, bind_eq_ok_iff] at h
      obtain ⟨taken, hvalue, hrest⟩ := h
      obtain ⟨values, rfl, hfinal⟩ := ih hrest
      refine ⟨value :: values, rfl, fun slot content hslot => ?_⟩
      rcases hfinal slot content hslot with hdraft | ⟨other, hother, hread⟩
      · rcases read_of_set hvalue hdraft with hearlier | hread
        · exact Or.inl hearlier
        · exact Or.inr ⟨value, List.mem_cons_self, hread⟩
      · exact Or.inr ⟨other, List.mem_cons_of_mem value hother, hread⟩
    | broken cause => cases h

/-- What stands in a slot of a record was read from a part of the record's node. -/
lemma exists_part_of_slot {node : Node} (h : format.read read node = .ok final)
    (hslot : final slot = some content) :
    ∃ part, part.PartOf node ∧ read slot part = .ok content := by
  cases node with
  | object members =>
    obtain ⟨entries, rfl, hentries⟩ := Members.fold_eq_ok_iff.mp h
    rcases read_of_foldlM hentries hslot with hnone | ⟨entry, hentry, hread⟩
    · cases hnone
    · exact ⟨entry.2, .member hentry (.whole entry.2), hread⟩
  | list items =>
    obtain ⟨values, rfl, hfinal⟩ := read_of_readSlots h
    rcases hfinal slot content hslot with hnone | ⟨value, hvalue, hread⟩
    · cases hnone
    · exact ⟨value, .item hvalue (.whole value), hread⟩
  | _ => cases h

lemma read_of_readOptional {α : Type} {read : Node → Except Fault α} {node : Node} {value : α}
    (h : readOptional read node = .ok (some value)) : read node = .ok value := by
  cases node with
  | null => cases h
  | _ =>
    simp only [readOptional, map_eq_ok_iff] at h
    obtain ⟨content, hcontent, ⟨⟩⟩ := h
    exact hcontent

end Records

end Json

/-- The enum members of an element itself or of its items on some level. -/
inductive Element.HoldsMembers : Element → EnumMembers → Prop
  | own {element : Element} {members : EnumMembers} (h : element.members = some members) :
      HoldsMembers element members
  | items {element items : Element} {members : EnumMembers} (hitems : element.items = some items)
      (h : HoldsMembers items members) : HoldsMembers element members

/-- The enum members in a definition: its own, and those of its items and of its fields. -/
inductive Definition.HoldsMembers : Definition → EnumMembers → Prop
  | own {definition : Definition} {members : EnumMembers}
      (h : definition.members = some members) : HoldsMembers definition members
  | items {definition : Definition} {items : Element} {members : EnumMembers}
      (hitems : definition.items = some items) (h : items.HoldsMembers members) :
      HoldsMembers definition members
  | field {definition : Definition} {elements : OrderedMap Element} {field : String × Element}
      {members : EnumMembers} (helements : definition.elements = some elements)
      (hfield : field ∈ elements.entries) (h : field.2.HoldsMembers members) :
      HoldsMembers definition members

namespace Csn

open Json

lemma exists_part_of_element {depth : Nat} {node : Node} {element : Element}
    {members : EnumMembers} (h : readElement depth node = .ok element)
    (hmembers : element.HoldsMembers members) :
    ∃ part room, part.PartOf node ∧ readMembers room part = .ok members := by
  induction depth generalizing node element with
  | zero => cases h
  | succ depth ih =>
    obtain ⟨draft, hdraft, helement⟩ := bind_eq_ok_iff.mp h
    obtain rfl := Except.ok.inj helement
    cases hmembers with
    | own hown =>
      have hslot : draft .enum = some (some members) := Option.join_eq_some_iff.mp hown
      obtain ⟨part, hpart, hread⟩ := exists_part_of_slot hdraft hslot
      exact ⟨part, depth, hpart, read_of_readOptional hread⟩
    | @items _ items _ hitems hinner =>
      have hslot : draft .items = some (some items) := Option.join_eq_some_iff.mp hitems
      obtain ⟨part, hpart, hread⟩ := exists_part_of_slot hdraft hslot
      obtain ⟨inner, room, hinside, hfound⟩ := ih (read_of_readOptional hread) hinner
      exact ⟨inner, room, hinside.trans hpart, hfound⟩

lemma exists_part_of_definition {depth : Nat} {node : Node} {definition : Definition}
    (h : readDefinition depth node = .ok definition) :
    (∀ elements, definition.elements = some elements →
      ∃ part room, part.PartOf node ∧ readElements room part = .ok elements) ∧
    ∀ members, definition.HoldsMembers members →
      ∃ part room, part.PartOf node ∧ readMembers room part = .ok members := by
  cases depth with
  | zero => cases h
  | succ depth =>
    obtain ⟨draft, hdraft, hdefinition⟩ := bind_eq_ok_iff.mp h
    obtain rfl := Except.ok.inj hdefinition
    have helements : ∀ elements, (definitionOfDraft draft).elements = some elements →
        ∃ part, part.PartOf node ∧ readElements depth part = .ok elements := by
      intro elements hown
      have hslot : draft .elements = some (some elements) := Option.join_eq_some_iff.mp hown
      obtain ⟨part, hpart, hread⟩ := exists_part_of_slot hdraft hslot
      exact ⟨part, hpart, read_of_readOptional hread⟩
    refine ⟨fun elements hown => ?_, fun members hmembers => ?_⟩
    · obtain ⟨part, hpart, hread⟩ := helements elements hown
      exact ⟨part, depth, hpart, hread⟩
    · cases hmembers with
      | own hown =>
        have hslot : draft .enum = some (some members) := Option.join_eq_some_iff.mp hown
        obtain ⟨part, hpart, hread⟩ := exists_part_of_slot hdraft hslot
        exact ⟨part, depth, hpart, read_of_readOptional hread⟩
      | @items items _ hitems hinner =>
        have hslot : draft .items = some (some items) := Option.join_eq_some_iff.mp hitems
        obtain ⟨part, hpart, hread⟩ := exists_part_of_slot hdraft hslot
        obtain ⟨inner, room, hinside, hfound⟩ :=
          exists_part_of_element (read_of_readOptional hread) hinner
        exact ⟨inner, room, hinside.trans hpart, hfound⟩
      | @field elements field _ hown hfield hinner =>
        obtain ⟨part, hpart, hread⟩ := helements elements hown
        obtain ⟨value, room, hvalue, helement⟩ := exists_part_of_mem_entries hread hfield
        obtain ⟨inner, inside, hinside, hfound⟩ := exists_part_of_element helement hinner
        exact ⟨inner, inside, hinside.trans (hvalue.trans hpart), hfound⟩

lemma exists_part_of_schema {root : Node} {draft : Draft DocumentSlot.Content} {schema : Schema}
    {depth : Nat} (hdraft : readDocument depth root = .ok draft)
    (hschema : schemaOfDraft draft = .ok schema) :
    ∃ part room, part.PartOf root ∧ readMap readDefinition room part = .ok schema.definitions := by
  cases depth with
  | zero => cases hdraft
  | succ depth =>
    unfold schemaOfDraft at hschema
    split at hschema
    · next definitions hdefinitions =>
      obtain rfl := Except.ok.inj hschema
      have hslot : draft .definitions = some (some definitions) :=
        Option.join_eq_some_iff.mp hdefinitions
      obtain ⟨part, hpart, hread⟩ := exists_part_of_slot hdraft hslot
      exact ⟨part, depth, hpart, read_of_readOptional hread⟩
    · cases hschema

/-- Every map agrees with the pairs that were inserted into it, however it was made. In a model that
was read, the maps of definitions, of fields and of enum members were all made from the entries of
a part of the text's tree. -/
theorem maps_refine_histories :
    (∀ {α : Type} (pairs : List (String × α)) (map : OrderedMap α),
      map.MadeFrom pairs → map.Refines pairs) ∧
    ∀ text schema, readSchema text = .ok schema →
      ∃ root, IsTextOf text root ∧
        (∃ pairs, MapReadIn root readDefinition pairs schema.definitions ∧
          schema.definitions.Refines pairs) ∧
        ∀ entry ∈ schema.definitions.entries,
          (∀ elements, entry.2.elements = some elements →
            ∃ pairs, MapReadIn root readElement pairs elements ∧ elements.Refines pairs) ∧
          ∀ members, entry.2.HoldsMembers members →
            ∃ pairs, MapReadIn root readEnumValue pairs members ∧ members.Refines pairs := by
  refine ⟨fun _ _ h => h.refines, fun text schema h => ?_⟩
  obtain ⟨root, draft, htext, hdraft, hschema⟩ := readSchema_eq_ok_iff.mp h
  obtain ⟨part, room, hpart, hread⟩ := exists_part_of_schema hdraft hschema
  refine ⟨root, htext, ?_, fun entry hentry => ?_⟩
  · obtain ⟨pairs, hpairs⟩ := exists_mapReadIn hpart hread
    exact ⟨pairs, hpairs, hpairs.refines⟩
  · obtain ⟨value, depth, hvalue, hdefinition⟩ := exists_part_of_mem_entries hread hentry
    obtain ⟨helements, hmembers⟩ := exists_part_of_definition hdefinition
    refine ⟨fun elements hown => ?_, fun members hheld => ?_⟩
    · obtain ⟨inner, inside, hinner, hfound⟩ := helements elements hown
      obtain ⟨pairs, hpairs⟩ := exists_mapReadIn (hinner.trans (hvalue.trans hpart)) hfound
      exact ⟨pairs, hpairs, hpairs.refines⟩
    · obtain ⟨inner, inside, hinner, hfound⟩ := hmembers members hheld
      obtain ⟨pairs, hpairs⟩ := exists_mapReadIn (hinner.trans (hvalue.trans hpart)) hfound
      exact ⟨pairs, hpairs, hpairs.refines⟩

/-- A repeated name keeps its place and takes its last value, inserted by hand as well as read. -/
theorem repeated_names_refine :
    let map : OrderedMap Nat := .ofList [("a", 1), ("b", 2)]
    let text := "\x7b\"definitions\":\x7b\"E\":\x7b\"enum\":\x7b\"X\":1,\"Y\":2,\"X\":3\x7d\x7d\x7d\x7d"
    let members : EnumMembers :=
      .ofList [("X", .number (.integer 3)), ("Y", .number (.integer 2))]
    let schema : Schema := ⟨none, .ofList [("E", { members := some members })]⟩
    map.getThenInsert? "a" 3 = (some 1, .ofList [("a", 3), ("b", 2)]) ∧
    (map.getThenInsert? "a" 3).2.Refines [("a", 1), ("b", 2), ("a", 3)] ∧
    readSchema text = .ok schema ∧
    ∃ pairs, members.Refines pairs := by
  intro map text members schema
  have hread : readSchema text = .ok schema := by decide +kernel
  have hmade := (OrderedMap.MadeFrom.ofList [("a", 1), ("b", 2)]).insert "a" 3
  obtain ⟨root, -, -, hmaps⟩ := maps_refine_histories.2 text schema hread
  obtain ⟨pairs, -, hpairs⟩ := (hmaps ("E", { members := some members }) (by decide)).2 members
    (.own rfl)
  exact ⟨by decide, maps_refine_histories.1 _ _ hmade, hread, pairs, hpairs⟩

end Csn

end CdsDeclarations
