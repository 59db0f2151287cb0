import CdsDeclarations.Proofs.AcceptedTrees
import CdsDeclarations.Proofs.Nesting
import CdsDeclarations.Proofs.WrittenTrees

/-!
# Two spellings of a model

Maps of a model may be written as objects or as lists of pairs, and the literals of enum members may
be wrapped. The model does not depend on this, as long as the new spelling does not open more
containers at once than a reader allows. So the relations between two spellings count how many
containers may still be opened in the new one.
-/

namespace CdsDeclarations

namespace Json

/-- A node that is left as it is, where so many containers may be opened. -/
def Unchanged (room : Nat) (node node' : Node) : Prop :=
  node' = node ∧ node.nesting ≤ room

/-- Two spellings of a map, with the same entries in the same order. A name may stand there more
than once. -/
def MapRespelled (R : Nat → Node → Node → Prop) (depth : Nat) (node node' : Node) : Prop :=
  ∃ entries entries' room, Spells entries node ∧ SpellsWithin depth room entries' node' ∧
    List.Forall₂ (EntryRelated (R room)) entries entries'

variable {α : Type} {decode : Decoder α} {depth room : Nat}

lemma NeedsNesting.carries (h : NeedsNesting decode) (depth room : Nat) :
    Carries (decode depth) (decode room) (Unchanged room) := by
  rintro _ node value ⟨rfl, hroom⟩ hread
  exact h depth room node value hread hroom

lemma NeedsNesting.carries_readOptional (h : NeedsNesting decode) (depth room : Nat) :
    Carries (readOptional (decode depth)) (readOptional (decode room)) (Unchanged room) := by
  rintro _ node value ⟨rfl, hroom⟩ hread
  cases node with
  | null => exact hread
  | _ =>
    simp only [readOptional, map_eq_ok_iff] at hread ⊢
    obtain ⟨content, hcontent, hvalue⟩ := hread
    exact ⟨content, h depth room _ content hcontent hroom, hvalue⟩

lemma carries_unchanged (read : Node → Except Fault α) (room : Nat) :
    Carries read read (Unchanged room) := by
  rintro _ node value ⟨rfl, -⟩ hread
  exact hread

/-- A map and another spelling of it are read alike. -/
lemma carries_readMap {R : Nat → Node → Node → Prop}
    (h : ∀ depth room, Carries (decode depth) (decode room) (R room)) (depth depth' : Nat) :
    Carries (readMap decode depth) (readMap decode depth') (MapRespelled R depth') := by
  rintro node node' map ⟨entries, entries', room', hspells, hspells', hentries⟩ hread
  obtain ⟨room, pairs, -, hpairs, rfl⟩ := exists_pairs_of_readMap hspells hread
  exact readMap_of_spellsWithin hspells' (readEntries_of_related (h room room') hentries hpairs)

lemma keepsWritable_unchanged (room : Nat) : KeepsWritable (Unchanged room) := by
  rintro _ node ⟨rfl, -⟩ h
  exact h

lemma keepsWritable_mapRespelled {R : Nat → Node → Node → Prop}
    (hR : ∀ room, KeepsWritable (R room)) (depth : Nat) : KeepsWritable (MapRespelled R depth) := by
  rintro node node' ⟨entries, entries', room, hspells, hspells', hentries⟩ h
  rw [hspells.isWritable_iff] at h
  rw [hspells'.spells.isWritable_iff]
  refine forall_mem_of_forall₂ ?_ hentries h
  intro entry entry' hentry hwritable
  rw [hentry.name_eq]
  exact ⟨hwritable.1, hR room entry.2 entry'.2 hentry.value hwritable.2⟩

end Json

namespace Csn

open Json

/-- An object around a value. -/
def wrap (value : Node) : Node :=
  objectOf [plainEntry "val" value]

/-- A value that is wrapped some times. -/
def wrapped : Nat → Node → Node
  | 0, value => value
  | times + 1, value => wrap (wrapped times value)

/-- An enum literal that is wrapped some times may be wrapped any other number of times. -/
def LiteralRespelled (room : Nat) (node node' : Node) : Prop :=
  ∃ value times times', node = wrapped times value ∧ node' = wrapped times' value ∧
    node'.nesting ≤ room

def elementSlotRespelled (room : Nat) (itemsRespelled : Node → Node → Prop) :
    ElementSlot → Node → Node → Prop
  | .enum => OrNull (MapRespelled LiteralRespelled room)
  | .items => OrNull itemsRespelled
  | _ => Unchanged room

/-- Another spelling of an element: of its enum map, and of its items if it is an arrayed one. -/
def ElementRespelled : Nat → Node → Node → Prop
  | 0 => fun _ _ => False
  | room + 1 => RecordRelated elementFormat (elementSlotRespelled room (ElementRespelled room))

def definitionSlotRespelled (room : Nat) : DefinitionSlot → Node → Node → Prop
  | .elements => OrNull (MapRespelled ElementRespelled room)
  | .enum => OrNull (MapRespelled LiteralRespelled room)
  | .items => OrNull (ElementRespelled room)
  | _ => Unchanged room

def DefinitionRespelled : Nat → Node → Node → Prop
  | 0 => fun _ _ => False
  | room + 1 => RecordRelated definitionFormat (definitionSlotRespelled room)

def documentSlotRespelled (room : Nat) : DocumentSlot → Node → Node → Prop
  | .definitions => OrNull (MapRespelled DefinitionRespelled room)
  | .namespaceName => Unchanged room

/-- Another spelling of a document, in which so many containers may be open at once. -/
def DocumentRespelled : Nat → Node → Node → Prop
  | 0 => fun _ _ => False
  | room + 1 => RecordRelated documentFormat (documentSlotRespelled room)

lemma readEnumValue_wrap (depth : Nat) (value : Node) :
    readEnumValue (depth + 1) (wrap value) = readEnumValue depth value := by
  change (Members.member (.plain "val") value .close).fold anyKey _ EnumValue.implicit = _
  simp only [Members.fold, TextLiteral.read_plain, anyKey]
  cases readEnumValue depth value with
  | error fault => rfl
  | ok literal => rfl

lemma nesting_wrapped (times : Nat) (value : Node) :
    (wrapped times value).nesting = value.nesting + times := by
  induction times with
  | zero => rfl
  | succ times ih =>
    have hwrap := congrArg (· + 1) (Nat.max_zero (wrapped times value).nesting)
    rw [← Nat.add_assoc, ← ih]
    exact hwrap

lemma readEnumValue_wrapped (depth times : Nat) (value : Node) :
    readEnumValue (depth + times) (wrapped times value) = readEnumValue depth value := by
  induction times with
  | zero => rfl
  | succ times ih => rw [wrapped, ← Nat.add_assoc, readEnumValue_wrap, ih]

lemma le_depth_of_readEnumValue {depth times : Nat} {value : Node} {literal : EnumValue}
    (h : readEnumValue depth (wrapped times value) = .ok literal) : times ≤ depth := by
  induction times generalizing depth with
  | zero => exact Nat.zero_le depth
  | succ times ih =>
    cases depth with
    | zero => cases h
    | succ depth =>
      rw [wrapped, readEnumValue_wrap] at h
      exact Nat.succ_le_succ (ih h)

lemma carries_readEnumValue (depth room : Nat) :
    Carries (readEnumValue depth) (readEnumValue room) (LiteralRespelled room) := by
  rintro _ _ literal ⟨value, times, times', rfl, rfl, hroom⟩ h
  obtain ⟨left, rfl⟩ := Nat.exists_eq_add_of_le' (le_depth_of_readEnumValue h)
  rw [readEnumValue_wrapped] at h
  rw [nesting_wrapped] at hroom
  obtain ⟨left', rfl⟩ := Nat.exists_eq_add_of_le' (Nat.le_of_add_left_le hroom)
  rw [readEnumValue_wrapped]
  exact needsNesting_readEnumValue left left' value literal h (Nat.le_of_add_le_add_right hroom)

lemma carries_readElement (depth room : Nat) :
    Carries (readElement depth) (readElement room) (ElementRespelled room) := by
  induction room generalizing depth with
  | zero => rintro _ _ _ ⟨⟩
  | succ room ih =>
    intro node node' element hrespelled h
    cases depth with
    | zero => cases h
    | succ depth =>
      refine bind_eq_ok_of_imp h fun draft hdraft => ?_
      refine RecordFormat.carries_read (fun slot => ?_) node node' draft hrespelled hdraft
      cases slot with
      | type => exact needsNesting_readTypeTag.carries depth room
      | cardinality => exact needsNesting_readCardinality.carries_readOptional depth room
      | enum => exact carries_readOptional (carries_readMap carries_readEnumValue depth room)
      | target => exact carries_unchanged _ room
      | items => exact carries_readOptional (ih depth)
      | key => exact carries_unchanged _ room
      | notNull => exact carries_unchanged _ room

lemma carries_readDefinition (depth room : Nat) :
    Carries (readDefinition depth) (readDefinition room) (DefinitionRespelled room) := by
  intro node node' definition hrespelled h
  cases room with
  | zero => cases hrespelled
  | succ room =>
    cases depth with
    | zero => cases h
    | succ depth =>
      refine bind_eq_ok_of_imp h fun draft hdraft => ?_
      refine RecordFormat.carries_read (fun slot => ?_) node node' draft hrespelled hdraft
      cases slot with
      | kind => exact needsNesting_readKind.carries depth room
      | elements => exact carries_readOptional (carries_readMap carries_readElement depth room)
      | enum => exact carries_readOptional (carries_readMap carries_readEnumValue depth room)
      | type => exact needsNesting_readTypeTag.carries depth room
      | cardinality => exact needsNesting_readCardinality.carries_readOptional depth room
      | items => exact carries_readOptional (carries_readElement depth room)
      | target => exact carries_unchanged _ room

lemma carries_readDocument (depth room : Nat) :
    Carries (readDocument depth) (readDocument room) (DocumentRespelled room) := by
  intro node node' draft hrespelled h
  cases room with
  | zero => cases hrespelled
  | succ room =>
    cases depth with
    | zero => cases h
    | succ depth =>
      refine RecordFormat.carries_read (fun slot => ?_) node node' draft hrespelled h
      cases slot with
      | namespaceName => exact carries_unchanged _ room
      | definitions =>
        exact carries_readOptional (carries_readMap carries_readDefinition depth room)

lemma isWritable_wrapped_iff {times : Nat} {value : Node} :
    (wrapped times value).IsWritable ↔ value.IsWritable := by
  have hkey : (Token.text (.plain "val")).IsWritable :=
    ⟨rfl, '"', ['v', 'a', 'l', '"'], rfl, fun _ => rfl⟩
  induction times with
  | zero => exact Iff.rfl
  | succ times ih =>
    rw [wrapped, wrap, objectOf, isWritable_object_iff, List.forall_mem_singleton]
    exact (and_iff_right hkey).trans ih

lemma keepsWritable_literalRespelled (room : Nat) : KeepsWritable (LiteralRespelled room) := by
  rintro _ _ ⟨value, times, times', rfl, rfl, -⟩ h
  rw [isWritable_wrapped_iff] at h ⊢
  exact h

lemma keepsWritable_elementRespelled (room : Nat) : KeepsWritable (ElementRespelled room) := by
  induction room with
  | zero => rintro _ _ ⟨⟩
  | succ room ih =>
    refine keepsWritable_recordRelated fun slot => ?_
    cases slot with
    | enum =>
      exact keepsWritable_orNull (keepsWritable_mapRespelled keepsWritable_literalRespelled room)
    | items => exact keepsWritable_orNull ih
    | _ => exact keepsWritable_unchanged room

lemma keepsWritable_definitionRespelled (room : Nat) :
    KeepsWritable (DefinitionRespelled room) := by
  cases room with
  | zero => rintro _ _ ⟨⟩
  | succ room =>
    refine keepsWritable_recordRelated fun slot => ?_
    cases slot with
    | elements =>
      exact keepsWritable_orNull (keepsWritable_mapRespelled keepsWritable_elementRespelled room)
    | enum =>
      exact keepsWritable_orNull (keepsWritable_mapRespelled keepsWritable_literalRespelled room)
    | items => exact keepsWritable_orNull (keepsWritable_elementRespelled room)
    | _ => exact keepsWritable_unchanged room

lemma keepsWritable_documentRespelled (room : Nat) : KeepsWritable (DocumentRespelled room) := by
  cases room with
  | zero => rintro _ _ ⟨⟩
  | succ room =>
    refine keepsWritable_recordRelated fun slot => ?_
    cases slot with
    | definitions =>
      exact keepsWritable_orNull
        (keepsWritable_mapRespelled keepsWritable_definitionRespelled room)
    | namespaceName => exact keepsWritable_unchanged room

/-- If a text is read as a model, every other spelling of its document can be written, and is read
as the same model. In both spellings of a map a repeated name keeps its first position and takes
its last value. -/
theorem readSchema_of_respelled {text : String} {schema : Schema}
    (h : readSchema text = .ok schema) :
    (∃ root, IsTextOf text root) ∧
    (∀ root root', IsTextOf text root → DocumentRespelled nestingLimit root root' →
      (∃ text', IsTextOf text' root') ∧
      ∀ text', IsTextOf text' root' → readSchema text' = .ok schema) ∧
    ∀ (α : Type) (decode : Decoder α) (depth : Nat) (entries : List (TextLiteral × Node))
      (node : Node) (map : OrderedMap α),
      Spells entries node → readMap decode depth node = .ok map →
      ∃ room pairs, EntriesRead (decode room) entries pairs ∧
        map.keys = (pairs.map Prod.fst).eraseDups ∧
        ∀ name, map.get? name = pairs.reverse.lookup name := by
  obtain ⟨root, draft, htext, hdraft, hschema⟩ := readSchema_eq_ok_iff.mp h
  refine ⟨⟨root, htext⟩, ?_, ?_⟩
  · intro root₁ root' htext₁ hrespelled
    obtain rfl := htext.unique htext₁
    have hdraft' :=
      carries_readDocument nestingLimit nestingLimit root root' draft hrespelled hdraft
    have hcomplete := checks_readDocument nestingLimit root' draft hdraft'
    have hwritable :=
      keepsWritable_documentRespelled nestingLimit root root' hrespelled htext.isWritable
    refine ⟨exists_text_of_isWritable hcomplete hwritable, fun text' htext' => ?_⟩
    exact readSchema_eq_ok_iff.mpr ⟨root', draft, htext', hdraft', hschema⟩
  · intro α decode depth entries node map hspells hmap
    obtain ⟨room, pairs, -, hpairs, rfl⟩ := exists_pairs_of_readMap hspells hmap
    exact ⟨room, pairs, hpairs, OrderedMap.keys_ofList pairs, OrderedMap.get?_ofList pairs⟩

theorem readSchema_of_respelled_enum :
    let text := "\x7b\"definitions\":\x7b\"E\":\x7b\"kind\":\"type\",\"enum\":" ++
      "\x7b\"A\":1,\"B\":2,\"A\":3\x7d\x7d\x7d\x7d"
    let text' := "\x7b\"definitions\":[[\"E\",\x7b\"kind\":\"type\",\"enum\":" ++
      "[[\"A\",\x7b\"val\":1\x7d],[\"B\",2],[\"A\",\x7b\"val\":\x7b\"val\":3\x7d\x7d]]\x7d]]\x7d"
    let members := .ofList [("A", .number (.integer 3)), ("B", .number (.integer 2))]
    let schema := Schema.ofDefinitions (.ofList [("E", .enumeration none members)])
    readSchema text = .ok schema ∧ readSchema text' = .ok schema := by
  intro text text' members schema
  -- The tree of the first text, and the tree that the second one is written with.
  let digit (c : Char) : Node := .number { negative := false, whole := [c] }
  let definition (enum : Node) : Node :=
    objectOf [plainEntry "kind" (.text (.plain "type")), plainEntry "enum" enum]
  let literals :=
    [plainEntry "A" (digit '1'), plainEntry "B" (digit '2'), plainEntry "A" (digit '3')]
  let literals' :=
    [plainEntry "A" (wrapped 1 (digit '1')), plainEntry "B" (digit '2'),
      plainEntry "A" (wrapped 2 (digit '3'))]
  let definitions := [plainEntry "E" (definition (objectOf literals))]
  let definitions' := [plainEntry "E" (definition (pairsOf literals'))]
  let root := objectOf [plainEntry "definitions" (objectOf definitions)]
  let root' := objectOf [plainEntry "definitions" (pairsOf definitions')]
  have hliterals : MapRespelled LiteralRespelled 123 (objectOf literals) (pairsOf literals') := by
    refine ⟨literals, literals', 121, .inl rfl, .pairs, ?_⟩
    refine .cons (entryRelated_plainEntry ⟨digit '1', 0, 1, rfl, rfl, by decide⟩) ?_
    refine .cons (entryRelated_plainEntry ⟨digit '2', 0, 0, rfl, rfl, by decide⟩) ?_
    exact .cons (entryRelated_plainEntry ⟨digit '3', 0, 2, rfl, rfl, by decide⟩) .nil
  have hdefinition : DefinitionRespelled 124 (definition (objectOf literals))
      (definition (pairsOf literals')) := by
    refine .object (.cons (.slot "kind" .kind rfl rfl ⟨rfl, by decide⟩) ?_)
    exact .cons (.slot "enum" .enum rfl rfl (.inr ⟨nofun, nofun, hliterals⟩)) .nil
  have hdefinitions :
      MapRespelled DefinitionRespelled 126 (objectOf definitions) (pairsOf definitions') :=
    ⟨definitions, definitions', 124, .inl rfl, .pairs,
      .cons (entryRelated_plainEntry hdefinition) .nil⟩
  have hrespelled : DocumentRespelled nestingLimit root root' :=
    .object (.cons (.slot "definitions" .definitions rfl rfl
      (.inr ⟨nofun, nofun, hdefinitions⟩)) .nil)
  have hchars : text.toList = _ := toList_append_ofList String.toList_ofList _
  have htext : IsTextOf text root :=
    ⟨root.skim_eq_ok_iff.mp (by decide), by rw [hchars]; decide +kernel⟩
  have hchars' : text'.toList = _ := toList_append_ofList String.toList_ofList _
  have htext' : IsTextOf text' root' :=
    ⟨root'.skim_eq_ok_iff.mp (by decide), by rw [hchars']; decide +kernel⟩
  have hread : readSchema text = .ok schema := by
    rw [readSchema, readText, htext.ofString_eq]
    decide +kernel
  obtain ⟨-, hothers⟩ := (readSchema_of_respelled hread).2.1 root root' htext hrespelled
  exact ⟨hread, hothers text' htext'⟩

end Csn

end CdsDeclarations
