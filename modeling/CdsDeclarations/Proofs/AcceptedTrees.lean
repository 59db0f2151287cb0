import CdsDeclarations.Csn.Document
import CdsDeclarations.Proofs.JsonTokens
import CdsDeclarations.Proofs.MapEntries

/-!
# Trees that are read

Every decoder of the model looks at its whole node, so whatever it accepts is complete. A text that
is read as a model is therefore the text of one complete tree.
-/

namespace CdsDeclarations

namespace Json

variable {α σ : Type}

/-- A decoder accepts complete nodes only. -/
def Checks (read : Node → Except Fault α) : Prop :=
  ∀ node value, read node = .ok value → node.IsComplete

lemma forall_mem_of_foldlM {step : σ → α → Except Fault σ} {P : α → Prop}
    (hstep : ∀ state value next, step state value = .ok next → P value) {values : List α}
    {state final : σ} (h : values.foldlM step state = .ok final) : ∀ value ∈ values, P value := by
  induction values generalizing state with
  | nil => exact List.forall_mem_nil P
  | cons value rest ih =>
    rw [List.foldlM_cons, bind_eq_ok_iff] at h
    obtain ⟨next, hvalue, hrest⟩ := h
    exact List.forall_mem_cons.mpr ⟨hstep state value next hvalue, ih hrest⟩

lemma Items.isComplete_of_fold {step : σ → Node → Except Fault σ}
    (hstep : ∀ state value next, step state value = .ok next → value.IsComplete) {items : Items}
    {state final : σ} (h : items.fold step state = .ok final) : items.IsComplete := by
  obtain ⟨values, rfl, hvalues⟩ := fold_eq_ok_iff.mp h
  exact isComplete_ofList_iff.mpr (forall_mem_of_foldlM hstep hvalues)

lemma Members.isComplete_of_fold {checkKey : σ → String → Except Fault Unit}
    {step : σ → String → Node → Except Fault σ}
    (hstep : ∀ state key value next, step state key value = .ok next → value.IsComplete)
    {members : Members} {state final : σ} (h : members.fold checkKey step state = .ok final) :
    members.IsComplete := by
  obtain ⟨entries, rfl, hentries⟩ := fold_eq_ok_iff.mp h
  refine isComplete_ofList_iff.mpr (forall_mem_of_foldlM ?_ hentries)
  intro state entry next hentry
  simp only [stepWith, bind_eq_ok_iff] at hentry
  obtain ⟨key, hkey, _, -, hvalue⟩ := hentry
  exact ⟨entry.1.closed_of_read hkey, hstep state key entry.2 next hvalue⟩

lemma checks_readBoolean : Checks readBoolean
  | .boolean _, _, _ => trivial

lemma checks_readString : Checks readString
  | .text literal, _, h => literal.closed_of_read h

lemma checks_readUnit : Checks readUnit
  | .null, _, _ => trivial

lemma checks_readOptional {read : Node → Except Fault α} (hread : Checks read) :
    Checks (readOptional read) := by
  intro node value h
  cases node with
  | null => trivial
  | _ =>
    simp only [readOptional, map_eq_ok_iff] at h
    obtain ⟨content, hcontent, -⟩ := h
    exact hread _ content hcontent

lemma isComplete_of_readAny : (depth : Nat) → (node : Node) → (found : Found) →
    readAny depth node = .ok found → node.IsComplete
  | _, .null, _, _ => trivial
  | _, .boolean _, _, _ => trivial
  | _, .number numeral, _, h => by
    rw [readAny, map_eq_ok_iff] at h
    obtain ⟨value, hvalue, -⟩ := h
    exact numeral.complete_of_read hvalue
  | _, .text literal, _, h => by
    rw [readAny, map_eq_ok_iff] at h
    obtain ⟨value, hvalue, -⟩ := h
    exact literal.closed_of_read hvalue
  | 0, .list _, _, h => by cases h
  | 0, .object _, _, h => by cases h
  | _, .missing, _, h => by simp [readAny] at h
  | _, .unknown, _, h => by simp [readAny] at h
  | _, .brokenWord _, _, h => by simp [readAny] at h
  | depth + 1, .list items, _, h => by
    simp only [readAny, bind_eq_ok_iff] at h
    obtain ⟨_, hitems, -⟩ := h
    refine Items.isComplete_of_fold (fun _ value _ hvalue => ?_) hitems
    obtain ⟨found, hfound, -⟩ := bind_eq_ok_iff.mp hvalue
    exact isComplete_of_readAny depth value found hfound
  | depth + 1, .object members, _, h => by
    simp only [readAny, bind_eq_ok_iff] at h
    obtain ⟨_, hmembers, -⟩ := h
    refine Members.isComplete_of_fold (fun _ _ value _ hvalue => ?_) hmembers
    obtain ⟨found, hfound, -⟩ := bind_eq_ok_iff.mp hvalue
    exact isComplete_of_readAny depth value found hfound

lemma checks_readAny (depth : Nat) : Checks (readAny depth) :=
  isComplete_of_readAny depth

lemma Spells.isComplete {entries : List (TextLiteral × Node)} {node : Node}
    (h : Spells entries node)
    (hentries : ∀ entry ∈ entries, entry.1.ending = .closed ∧ entry.2.IsComplete) :
    node.IsComplete := by
  rcases h with rfl | rfl
  · exact Members.isComplete_ofList_iff.mpr hentries
  · refine Items.isComplete_ofList_iff.mpr (List.forall_mem_map.mpr fun entry hentry => ?_)
    obtain ⟨hkey, hvalue⟩ := hentries entry hentry
    exact ⟨hkey, hvalue, trivial⟩

lemma isComplete_of_readEntry {read : Node → Except Fault α} (hread : Checks read)
    {entries : List (TextLiteral × Node)} {pairs : List (String × α)}
    (h : EntriesRead read entries pairs) :
    ∀ entry ∈ entries, entry.1.ending = .closed ∧ entry.2.IsComplete := by
  induction h with
  | nil => exact List.forall_mem_nil _
  | @cons entry pair _ _ hpair _ ih =>
    obtain ⟨hkey, hvalue⟩ := readEntry_eq_ok_iff.mp hpair
    exact List.forall_mem_cons.mpr
      ⟨⟨entry.1.closed_of_read hkey, hread entry.2 pair.2 hvalue⟩, ih⟩

lemma checks_readMap {decode : Decoder α} (hdecode : ∀ depth, Checks (decode depth))
    (depth : Nat) : Checks (readMap decode depth) := by
  intro node map h
  obtain ⟨entries, hspells⟩ := exists_entries_of_readMap h
  obtain ⟨room, pairs, -, hpairs, -⟩ := exists_pairs_of_readMap hspells h
  exact hspells.isComplete (isComplete_of_readEntry (hdecode room) hpairs)

lemma requireClose_eq_ok_iff {items : Items} : items.requireClose = .ok () ↔ items = .close := by
  cases items with
  | broken cause => cases cause <;> simp [Items.requireClose]
  | _ => simp [Items.requireClose]

section Records

variable {Slot : Type} [DecidableEq Slot] {Content : Slot → Type}
  {read : (slot : Slot) → Node → Except Fault (Content slot)} {format : RecordFormat Slot}

lemma isComplete_of_readSlots (hread : ∀ slot, Checks (read slot)) {slots : List Slot}
    {position : Nat} {draft final : Draft Content} {items : Items}
    (h : format.readSlots read slots position draft items = .ok final) : items.IsComplete := by
  induction slots generalizing position draft items with
  | nil =>
    simp only [RecordFormat.readSlots, bind_eq_ok_iff] at h
    obtain ⟨_, hclose, -⟩ := h
    rw [requireClose_eq_ok_iff.mp hclose]
    trivial
  | cons slot slots ih =>
    cases items with
    | close => trivial
    | item value rest =>
      simp only [RecordFormat.readSlots, bind_eq_ok_iff] at h
      obtain ⟨content, hvalue, hrest⟩ := h
      exact ⟨hread slot value content hvalue, ih hrest⟩
    | broken cause => cases h

lemma RecordFormat.checks_read (hread : ∀ slot, Checks (read slot)) :
    Checks (format.read read) := by
  intro node draft h
  cases node with
  | object members =>
    obtain ⟨entries, rfl, hentries⟩ := Members.fold_eq_ok_iff.mp h
    refine Members.isComplete_ofList_iff.mpr (forall_mem_of_foldlM ?_ hentries)
    intro draft entry next hentry
    obtain ⟨key, hkey, hentry⟩ := stepWith_eq_ok_iff.mp hentry
    refine ⟨entry.1.closed_of_read hkey, ?_⟩
    rcases hentry with ⟨slot, content, -, -, hvalue, -⟩ | ⟨-, hvalue, -⟩
    · exact hread slot entry.2 content hvalue
    · exact hvalue
  | list items => exact isComplete_of_readSlots hread h
  | _ => cases h

end Records

end Json

namespace Csn

open Json

lemma checks_readTypeTag (depth : Nat) : Checks (readTypeTag depth) := by
  intro node tag h
  obtain ⟨found, hfound, -⟩ := bind_eq_ok_iff.mp h
  exact checks_readAny depth node found hfound

lemma checks_readCardinality (depth : Nat) : Checks (readCardinality depth) := by
  intro node cardinality h
  unfold readCardinality at h
  split at h
  · next members =>
    obtain ⟨many, hmany, -⟩ := bind_eq_ok_iff.mp h
    refine Members.isComplete_of_fold (fun _ key value _ hvalue => ?_) hmany
    obtain ⟨found, hfound, -⟩ := bind_eq_ok_iff.mp hvalue
    exact checks_readAny _ value found hfound
  · obtain ⟨found, hfound, -⟩ := bind_eq_ok_iff.mp h
    exact checks_readAny depth node found hfound

lemma checks_readEnumValue (depth : Nat) : Checks (readEnumValue depth) := by
  intro node literal h
  induction depth generalizing node literal with
  | zero =>
    obtain ⟨found, hfound, -⟩ := bind_eq_ok_iff.mp h
    exact checks_readAny _ node found hfound
  | succ depth ih =>
    cases node with
    | object members =>
      refine Members.isComplete_of_fold (fun _ key value next hvalue => ?_) h
      split at hvalue
      · exact ih value next hvalue
      · obtain ⟨found, hfound, -⟩ := bind_eq_ok_iff.mp hvalue
        exact checks_readAny depth value found hfound
    | _ =>
      obtain ⟨found, hfound, -⟩ := bind_eq_ok_iff.mp h
      exact checks_readAny _ _ found hfound

lemma isComplete_of_readKindEntry {members : Members} {kind : Kind}
    (h : readKindEntry members = .ok kind) : members.IsComplete := by
  cases members with
  | member name value rest =>
    simp only [readKindEntry, bind_eq_ok_iff] at h
    obtain ⟨text, hname, _, hvalue, hrest⟩ := h
    cases rest with
    | close => exact ⟨name.closed_of_read hname, checks_readUnit value _ hvalue, trivial⟩
    | broken cause => cases cause <;> cases hrest
    | _ => cases hrest
  | noColon name textEnds => simp [readKindEntry] at h
  | _ => cases h

lemma checks_readKind : (depth : Nat) → Checks (readKind depth)
  | _, .text literal, kind, h => by
    rw [readKind, map_eq_ok_iff] at h
    obtain ⟨name, hname, -⟩ := h
    exact literal.closed_of_read hname
  | depth + 1, .object members, kind, h => isComplete_of_readKindEntry h

lemma checks_readElement (depth : Nat) : Checks (readElement depth) := by
  induction depth with
  | zero => nofun
  | succ depth ih =>
    intro node element h
    obtain ⟨draft, hdraft, -⟩ := bind_eq_ok_iff.mp h
    refine RecordFormat.checks_read (fun slot => ?_) node draft hdraft
    cases slot with
    | type => exact checks_readTypeTag depth
    | cardinality => exact checks_readOptional (checks_readCardinality depth)
    | enum => exact checks_readOptional (checks_readMap checks_readEnumValue depth)
    | target => exact checks_readOptional checks_readString
    | items => exact checks_readOptional ih
    | key => exact checks_readBoolean
    | notNull => exact checks_readBoolean

lemma checks_readDefinition (depth : Nat) : Checks (readDefinition depth) := by
  intro node definition h
  cases depth with
  | zero => cases h
  | succ depth =>
    obtain ⟨draft, hdraft, -⟩ := bind_eq_ok_iff.mp h
    refine RecordFormat.checks_read (fun slot => ?_) node draft hdraft
    cases slot with
    | kind => exact checks_readKind depth
    | elements => exact checks_readOptional (checks_readMap checks_readElement depth)
    | enum => exact checks_readOptional (checks_readMap checks_readEnumValue depth)
    | type => exact checks_readTypeTag depth
    | cardinality => exact checks_readOptional (checks_readCardinality depth)
    | items => exact checks_readOptional (checks_readElement depth)
    | target => exact checks_readOptional checks_readString

lemma checks_readDocument (depth : Nat) : Checks (readDocument depth) := by
  intro node draft h
  cases depth with
  | zero => cases h
  | succ depth =>
    refine RecordFormat.checks_read (fun slot => ?_) node draft h
    cases slot with
    | namespaceName => exact checks_readOptional checks_readString
    | definitions => exact checks_readOptional (checks_readMap checks_readDefinition depth)

/-- A text is read as a model exactly if it is the text of a tree that is read as one. -/
theorem readSchema_eq_ok_iff {text : String} {schema : Schema} :
    readSchema text = .ok schema ↔
      ∃ root draft, IsTextOf text root ∧ readDocument nestingLimit root = .ok draft ∧
        schemaOfDraft draft = .ok schema := by
  constructor
  · intro h
    rw [readSchema] at h
    split at h
    · next draft hdraft =>
      obtain ⟨value, hvalue, htrailing⟩ := bind_eq_ok_iff.mp hdraft
      rcases hread : Text.ofString text with ⟨root, hasTrailing⟩
      rw [hread] at hvalue htrailing
      have hcomplete := checks_readDocument nestingLimit root value hvalue
      cases hasTrailing with
      | true => cases htrailing
      | false =>
        cases htrailing
        exact ⟨root, draft, isTextOf_of_ofString hcomplete hread, hvalue, h⟩
    · cases h
  · rintro ⟨root, draft, htext, hdraft, hschema⟩
    have hread : readText readDocument text = .ok draft := by
      rw [readText, htext.ofString_eq]
      exact bind_eq_ok_iff.mpr ⟨draft, hdraft, rfl⟩
    rw [readSchema, hread]
    exact hschema

end Csn

end CdsDeclarations
