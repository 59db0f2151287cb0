import CdsDeclarations.Proofs.AcceptedTrees
import CdsDeclarations.Proofs.WrittenTrees

/-!
# Unknown members

The members of a record may stand in any order, and members with other keys may stand among them.
They are only skimmed, so they may hold anything that is complete.
-/

namespace CdsDeclarations

namespace Json

section Permuting

variable {α σ : Type}

/-- A fold whose steps may change places succeeds alike in every order. -/
lemma foldlM_of_perm {step : σ → α → Except Fault σ}
    (hswap : ∀ state first second between final, step state first = .ok between →
      step between second = .ok final →
      ∃ between', step state second = .ok between' ∧ step between' first = .ok final)
    {sources sources' : List α} (hperm : sources.Perm sources') {state final : σ}
    (h : sources.foldlM step state = .ok final) : sources'.foldlM step state = .ok final := by
  induction hperm generalizing state with
  | nil => exact h
  | cons source _ ih =>
    rw [List.foldlM_cons, bind_eq_ok_iff] at h ⊢
    obtain ⟨next, hnext, hrest⟩ := h
    exact ⟨next, hnext, ih hrest⟩
  | swap first second rest =>
    simp only [List.foldlM_cons, bind_eq_ok_iff] at h ⊢
    obtain ⟨between, hsecond, next, hfirst, hrest⟩ := h
    obtain ⟨between', hfirst', hsecond'⟩ := hswap state second first between next hsecond hfirst
    exact ⟨between', hfirst', next, hsecond', hrest⟩
  | trans _ _ ih ih' => exact ih' (ih h)

end Permuting

section Records

variable {Slot : Type} [DecidableEq Slot] {Content : Slot → Type}

lemma Draft.set_of_ne {draft : Draft Content} {slot other : Slot} (content : Content slot)
    (h : slot ≠ other) : draft.set slot content other = draft other :=
  dif_neg h

lemma Draft.set_self (draft : Draft Content) (slot : Slot) (content : Content slot) :
    draft.set slot content slot = some content :=
  dif_pos rfl

lemma Draft.set_comm {draft : Draft Content} {first second : Slot} (content : Content first)
    (content' : Content second) (h : first ≠ second) :
    (draft.set first content).set second content' =
      (draft.set second content').set first content := by
  funext slot
  by_cases hfirst : first = slot
  · subst hfirst
    rw [set_of_ne content' h.symm, set_self, set_self]
  · rw [set_of_ne content hfirst]
    by_cases hsecond : second = slot
    · subst hsecond
      rw [set_self, set_self]
    · rw [set_of_ne content' hsecond, set_of_ne content' hsecond, set_of_ne content hfirst]

variable {format : RecordFormat Slot} {R : Slot → Node → Node → Prop}
  {read read' : (slot : Slot) → Node → Except Fault (Content slot)}

/-- Two members of a record may change places. -/
lemma stepWith_swap (draft : Draft Content) (first second : TextLiteral × Node)
    (between final : Draft Content)
    (hfirst : Members.stepWith format.checkKey (format.step read) draft first = .ok between)
    (hsecond : Members.stepWith format.checkKey (format.step read) between second = .ok final) :
    ∃ between', Members.stepWith format.checkKey (format.step read) draft second = .ok between' ∧
      Members.stepWith format.checkKey (format.step read) between' first = .ok final := by
  simp only [RecordFormat.stepWith_eq_ok_iff] at hfirst hsecond ⊢
  obtain ⟨key, hkey, hfirst⟩ := hfirst
  obtain ⟨key', hkey', hsecond⟩ := hsecond
  rcases hfirst with ⟨slot, content, hslot, hdraft, hvalue, rfl⟩ | ⟨hslot, hvalue, rfl⟩
  · rcases hsecond with ⟨slot', content', hslot', hdraft', hvalue', rfl⟩ | ⟨hslot', hvalue', rfl⟩
    · have hne : slot ≠ slot' := by
        rintro rfl
        rw [Draft.set_self] at hdraft'
        cases hdraft'
      rw [Draft.set_of_ne content hne] at hdraft'
      refine ⟨draft.set slot' content',
        ⟨key', hkey', .inl ⟨slot', content', hslot', hdraft', hvalue', rfl⟩⟩, key, hkey, ?_⟩
      refine .inl ⟨slot, content, hslot, ?_, hvalue, (Draft.set_comm content content' hne).symm⟩
      rw [Draft.set_of_ne content' hne.symm, hdraft]
    · exact ⟨draft, ⟨key', hkey', .inr ⟨hslot', hvalue', rfl⟩⟩, key, hkey,
        .inl ⟨slot, content, hslot, hdraft, hvalue, rfl⟩⟩
  · exact ⟨final, ⟨key', hkey', hsecond⟩, key, hkey, .inr ⟨hslot, hvalue, rfl⟩⟩

/-- A member for none of the slots, with any complete value. -/
structure IsUnknown (format : RecordFormat Slot) (entry : TextLiteral × Node) : Prop where
  key : ∃ key, entry.1.read = .ok key ∧ format.slot? key = none
  complete : entry.2.IsComplete

/-- A record with related values, in which unknown members may be added at any place and all members
may stand in any order. -/
inductive RecordExtended (format : RecordFormat Slot) (R : Slot → Node → Node → Prop) :
    Node → Node → Prop
  | object {entries kept added entries' : List (TextLiteral × Node)}
      (members : List.Forall₂ (MemberRelated format R) entries kept)
      (unknown : ∀ entry ∈ added, IsUnknown format entry)
      (order : entries'.Perm (kept ++ added)) :
      RecordExtended format R (.object (.ofList entries)) (.object (.ofList entries'))
  | list {values values' : List Node} (slots : SlotsRelated R format.slots values values') :
      RecordExtended format R (.list (.ofList values)) (.list (.ofList values'))

lemma foldlM_of_unknown {added : List (TextLiteral × Node)}
    (h : ∀ entry ∈ added, IsUnknown format entry) (draft : Draft Content) :
    added.foldlM (Members.stepWith format.checkKey (format.step read)) draft = .ok draft := by
  induction added with
  | nil => rfl
  | cons entry rest ih =>
    obtain ⟨hentry, hrest⟩ := List.forall_mem_cons.mp h
    obtain ⟨key, hkey, hslot⟩ := hentry.key
    rw [List.foldlM_cons, bind_eq_ok_iff]
    refine ⟨draft, ?_, ih hrest⟩
    exact RecordFormat.stepWith_eq_ok_iff.mpr ⟨key, hkey, .inr ⟨hslot, hentry.complete, rfl⟩⟩

/-- Records with unknown members are read as without them. -/
lemma RecordFormat.carries_read_extended
    (hslots : ∀ slot, Carries (read slot) (read' slot) (R slot)) :
    Carries (format.read read) (format.read read') (RecordExtended format R) := by
  intro node node' draft hextended h
  cases hextended with
  | object members unknown order =>
    rw [RecordFormat.read, Members.fold_ofList] at h ⊢
    refine foldlM_of_perm stepWith_swap order.symm ?_
    rw [List.foldlM_append, bind_eq_ok_iff]
    exact ⟨draft, foldlM_of_forall₂ (stepWith_of_memberRelated hslots) members h,
      foldlM_of_unknown unknown draft⟩
  | list slots => exact readSlots_of_slotsRelated hslots slots h

end Records

section Maps

/-- A map in the same spelling, with the same names and related values. -/
inductive MapExtended (R : Node → Node → Prop) : Node → Node → Prop
  | object {entries entries' : List (TextLiteral × Node)}
      (values : List.Forall₂ (EntryRelated R) entries entries') :
      MapExtended R (objectOf entries) (objectOf entries')
  | pairs {entries entries' : List (TextLiteral × Node)}
      (values : List.Forall₂ (EntryRelated R) entries entries') :
      MapExtended R (pairsOf entries) (pairsOf entries')

lemma carries_readMap_extended {α : Type} {decode : Decoder α} {R : Node → Node → Prop}
    (h : ∀ depth, Carries (decode depth) (decode depth) R) (depth : Nat) :
    Carries (readMap decode depth) (readMap decode depth) (MapExtended R) := by
  intro node node' map hextended hread
  cases depth with
  | zero => rcases hextended with _ | _ <;> cases hread
  | succ depth =>
    cases hextended with
    | object values =>
      obtain ⟨pairs, hpairs, hmap⟩ := readMap_objectOf_eq_ok_iff.mp hread
      exact readMap_objectOf_eq_ok_iff.mpr
        ⟨pairs, readEntries_of_related (h depth) values hpairs, hmap⟩
    | pairs values =>
      obtain ⟨pairs, hpairs, hmap⟩ := readMap_pairsOf_eq_ok_iff.mp hread
      refine readMap_pairsOf_eq_ok_iff.mpr ⟨pairs, ?_, hmap⟩
      cases depth with
      | zero =>
        cases hpairs with
        | nil =>
          cases values
          exact .nil
        | cons hpair _ => cases hpair
      | succ depth =>
        simp only [readPair_pairNode] at hpairs ⊢
        exact readEntries_of_related (h depth) values hpairs

end Maps

end Json

namespace Csn

open Json

def elementSlotExtended (itemsExtended : Node → Node → Prop) : ElementSlot → Node → Node → Prop
  | .items => OrNull itemsExtended
  | _ => Eq

/-- An element with unknown members, in itself and in the element types of so many arrayed elements
inside each other. -/
def ElementExtended : Nat → Node → Node → Prop
  | 0 => Eq
  | levels + 1 => RecordExtended elementFormat (elementSlotExtended (ElementExtended levels))

def definitionSlotExtended (levels : Nat) : DefinitionSlot → Node → Node → Prop
  | .elements => OrNull (MapExtended (ElementExtended levels))
  | .items => OrNull (ElementExtended levels)
  | _ => Eq

def DefinitionExtended (levels : Nat) : Node → Node → Prop :=
  RecordExtended definitionFormat (definitionSlotExtended levels)

def documentSlotExtended (levels : Nat) : DocumentSlot → Node → Node → Prop
  | .definitions => OrNull (MapExtended (DefinitionExtended levels))
  | .namespaceName => Eq

/-- A document with unknown members, in itself, in its definitions and in their elements. -/
def DocumentExtended (levels : Nat) : Node → Node → Prop :=
  RecordExtended documentFormat (documentSlotExtended levels)

lemma carries_readElement_extended (levels depth : Nat) :
    Carries (readElement depth) (readElement depth) (ElementExtended levels) := by
  induction levels generalizing depth with
  | zero => exact carries_eq (readElement depth)
  | succ levels ih =>
    intro node node' element hextended h
    cases depth with
    | zero => cases h
    | succ depth =>
      refine bind_eq_ok_of_imp h fun draft hdraft => ?_
      refine RecordFormat.carries_read_extended (fun slot => ?_) node node' draft hextended hdraft
      cases slot with
      | items => exact carries_readOptional (ih depth)
      | _ => exact carries_eq _

lemma carries_readDefinition_extended (levels depth : Nat) :
    Carries (readDefinition depth) (readDefinition depth) (DefinitionExtended levels) := by
  intro node node' definition hextended h
  cases depth with
  | zero => cases h
  | succ depth =>
    refine bind_eq_ok_of_imp h fun draft hdraft => ?_
    refine RecordFormat.carries_read_extended (fun slot => ?_) node node' draft hextended hdraft
    cases slot with
    | elements =>
      exact carries_readOptional
        (carries_readMap_extended (carries_readElement_extended levels) depth)
    | items => exact carries_readOptional (carries_readElement_extended levels depth)
    | _ => exact carries_eq _

lemma carries_readDocument_extended (levels depth : Nat) :
    Carries (readDocument depth) (readDocument depth) (DocumentExtended levels) := by
  intro node node' draft hextended h
  cases depth with
  | zero => cases h
  | succ depth =>
    refine RecordFormat.carries_read_extended (fun slot => ?_) node node' draft hextended h
    cases slot with
    | definitions =>
      exact carries_readOptional
        (carries_readMap_extended (carries_readDefinition_extended levels) depth)
    | namespaceName => exact carries_eq _

/-- A text that is read as a model, and any text of the same document with unknown members and the
members of its records in any order, are read as the same model. There is such a text if the tokens
of the document can be written at all. -/
theorem readSchema_of_extended {text : String} {schema : Schema}
    (h : readSchema text = .ok schema) :
    (∃ root, IsTextOf text root) ∧
    ∀ levels root root', IsTextOf text root → DocumentExtended levels root root' →
      (root'.IsWritable → ∃ text', IsTextOf text' root') ∧
      ∀ text', IsTextOf text' root' → readSchema text' = .ok schema := by
  obtain ⟨root, draft, htext, hdraft, hschema⟩ := readSchema_eq_ok_iff.mp h
  refine ⟨⟨root, htext⟩, ?_⟩
  intro levels root₁ root' htext₁ hextended
  obtain rfl := htext.unique htext₁
  have hdraft' :=
    carries_readDocument_extended levels nestingLimit root root' draft hextended hdraft
  have hcomplete := checks_readDocument nestingLimit root' draft hdraft'
  refine ⟨exists_text_of_isWritable hcomplete, fun text' htext' => ?_⟩
  exact readSchema_eq_ok_iff.mpr ⟨root', draft, htext', hdraft', hschema⟩

theorem readSchema_of_extended_entity :
    let text := "\x7b\"namespace\":\"m\",\"definitions\":\x7b\"E\":\x7b\"kind\":\"entity\"," ++
      "\"elements\":\x7b\"n\":\x7b\"type\":\"cds.String\",\"key\":true\x7d\x7d\x7d\x7d\x7d"
    let text' := "\x7b\"$version\":[1e999],\"definitions\":\x7b\"E\":\x7b\"key\":\x7b\x7d," ++
      "\"elements\":\x7b\"n\":\x7b\"kind\":\"\\ud800\",\"key\":true," ++
      "\"type\":\"cds.String\"\x7d\x7d,\"kind\":\"entity\"\x7d\x7d,\"namespace\":\"m\"\x7d"
    let entity := Definition.entity (.ofList [("n", { type := some "cds.String", isKey := true })])
    let schema : Schema := ⟨some "m", .ofList [("E", entity)]⟩
    readSchema text = .ok schema ∧ readSchema text' = .ok schema := by
  intro text text' entity schema
  let type := plainEntry "type" (.text (.plain "cds.String"))
  let key := plainEntry "key" (.boolean true)
  let kind := plainEntry "kind" (.text (.plain "entity"))
  let elements (element : Node) := plainEntry "elements" (objectOf [plainEntry "n" element])
  let model := plainEntry "namespace" (.text (.plain "m"))
  let definitions (definition : Node) :=
    plainEntry "definitions" (objectOf [plainEntry "E" definition])
  -- Each of the added members has a key that only another record knows, or that none knows.
  let surrogate := plainEntry "kind" (.text ⟨[.unit 0xD800], .closed⟩)
  let nothing := plainEntry "key" (objectOf [])
  let huge : Numeral := { negative := false, whole := ['1'], exponent := some ['9', '9', '9'] }
  let version := plainEntry "$version" (.list (.ofList [.number huge]))
  let element := objectOf [type, key]
  let element' := objectOf [surrogate, key, type]
  let definition := objectOf [kind, elements element]
  let definition' := objectOf [nothing, elements element', kind]
  let root := objectOf [model, definitions definition]
  let root' := objectOf [version, definitions definition', model]
  have helement : ElementExtended 1 element element' := by
    refine .object (.cons ?_ (.cons ?_ .nil)) ?_ (List.reverse_perm ([type, key] ++ [surrogate]))
    · exact .slot "type" .type rfl rfl rfl
    · exact .slot "key" .key rfl rfl rfl
    · exact List.forall_mem_singleton.mpr ⟨⟨"kind", rfl, rfl⟩, rfl⟩
  have hdefinition : DefinitionExtended 1 definition definition' := by
    refine .object (.cons ?_ (.cons ?_ .nil)) ?_
      (List.reverse_perm ([kind, elements element'] ++ [nothing]))
    · exact .slot "kind" .kind rfl rfl rfl
    · exact .slot "elements" .elements rfl rfl
        (.inr ⟨nofun, nofun, .object (.cons (entryRelated_plainEntry helement) .nil)⟩)
    · exact List.forall_mem_singleton.mpr ⟨⟨"key", rfl, rfl⟩, trivial⟩
  have hextended : DocumentExtended 1 root root' := by
    refine .object (.cons ?_ (.cons ?_ .nil)) ?_
      (List.reverse_perm ([model, definitions definition'] ++ [version]))
    · exact .slot "namespace" .namespaceName rfl rfl rfl
    · exact .slot "definitions" .definitions rfl rfl
        (.inr ⟨nofun, nofun, .object (.cons (entryRelated_plainEntry hdefinition) .nil)⟩)
    · exact List.forall_mem_singleton.mpr ⟨⟨"$version", rfl, rfl⟩, rfl, trivial⟩
  have hchars : text.toList = _ := toList_append_ofList String.toList_ofList _
  have htext : IsTextOf text root :=
    ⟨root.skim_eq_ok_iff.mp (by decide), by rw [hchars]; decide +kernel⟩
  have hchars' : text'.toList = _ :=
    toList_append_ofList (toList_append_ofList String.toList_ofList _) _
  have htext' : IsTextOf text' root' :=
    ⟨root'.skim_eq_ok_iff.mp (by decide), by rw [hchars']; decide +kernel⟩
  have hread : readSchema text = .ok schema := by
    rw [readSchema, readText, htext.ofString_eq]
    decide +kernel
  obtain ⟨-, hothers⟩ := (readSchema_of_extended hread).2 1 root root' htext hextended
  exact ⟨hread, hothers text' htext'⟩

end Csn

end CdsDeclarations
