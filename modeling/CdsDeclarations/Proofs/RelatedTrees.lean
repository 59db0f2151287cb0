import CdsDeclarations.Json.Record
import CdsDeclarations.Proofs.MapEntries

/-!
# Trees that are read alike

Relations between the parts of two trees are carried to the wholes: through the fold over a
container, through an optional slot and through a record in either of its spellings.
-/

namespace CdsDeclarations.Json

section Carrying

variable {α β σ : Type}

/-- What one decoder accepts, the other one reads alike in every related node. -/
def Carries (read read' : Node → Except Fault α) (R : Node → Node → Prop) : Prop :=
  ∀ node node' value, R node node' → read node = .ok value → read' node' = .ok value

lemma carries_eq (read : Node → Except Fault α) : Carries read read Eq := by
  rintro node _ value rfl h
  exact h

lemma foldlM_of_forall₂ {γ : Type} {step : σ → β → Except Fault σ} {step' : σ → γ → Except Fault σ}
    {R : β → γ → Prop}
    (hstep : ∀ state source source' next, R source source' →
      step state source = .ok next → step' state source' = .ok next)
    {sources : List β} {sources' : List γ} (hsources : List.Forall₂ R sources sources')
    {state final : σ} (h : sources.foldlM step state = .ok final) :
    sources'.foldlM step' state = .ok final := by
  induction hsources generalizing state with
  | nil => exact h
  | cons hsource _ ih =>
    rw [List.foldlM_cons, bind_eq_ok_iff] at h ⊢
    obtain ⟨next, hnext, hrest⟩ := h
    exact ⟨next, hstep state _ _ next hsource hnext, ih hrest⟩

/-- Both nodes are null, or neither of them is and they are related. -/
def OrNull (R : Node → Node → Prop) (node node' : Node) : Prop :=
  node = .null ∧ node' = .null ∨ node ≠ .null ∧ node' ≠ .null ∧ R node node'

lemma readOptional_of_ne_null {read : Node → Except Fault α} {node : Node} (h : node ≠ .null) :
    readOptional read node = some <$> read node := by
  cases node with
  | null => exact absurd rfl h
  | _ => rfl

lemma carries_readOptional {read read' : Node → Except Fault α} {R : Node → Node → Prop}
    (h : Carries read read' R) : Carries (readOptional read) (readOptional read') (OrNull R) := by
  rintro node node' value (⟨rfl, rfl⟩ | ⟨hne, hne', hR⟩) hread
  · exact hread
  · rw [readOptional_of_ne_null hne, map_eq_ok_iff] at hread
    obtain ⟨content, hcontent, rfl⟩ := hread
    rw [readOptional_of_ne_null hne', h node node' content hR hcontent]
    rfl

end Carrying

section Entries

variable {α : Type}

/-- Entries with the same name and related values. -/
structure EntryRelated (R : Node → Node → Prop) (entry entry' : TextLiteral × Node) : Prop where
  name_eq : entry'.1 = entry.1
  value : R entry.2 entry'.2

lemma entryRelated_plainEntry {R : Node → Node → Prop} {name : String} {value value' : Node}
    (h : R value value') : EntryRelated R (plainEntry name value) (plainEntry name value') :=
  ⟨rfl, h⟩

lemma readEntries_of_related {read read' : Node → Except Fault α} {R : Node → Node → Prop}
    (hread : Carries read read' R) {entries entries' : List (TextLiteral × Node)}
    {pairs : List (String × α)} (hentries : List.Forall₂ (EntryRelated R) entries entries')
    (hpairs : EntriesRead read entries pairs) : EntriesRead read' entries' pairs := by
  induction hentries generalizing pairs with
  | nil =>
    cases hpairs
    exact .nil
  | cons hentry _ ih =>
    cases hpairs with
    | @cons _ pair _ _ hpair hrest =>
      obtain ⟨hname, hvalue⟩ := readEntry_eq_ok_iff.mp hpair
      refine .cons (readEntry_eq_ok_iff.mpr ⟨?_, ?_⟩) (ih hrest)
      · rw [hentry.name_eq, hname]
      · exact hread _ _ pair.2 hentry.value hvalue

end Entries

section Records

variable {Slot : Type} {format : RecordFormat Slot} {R : Slot → Node → Node → Prop}

/-- Two members of a record with the same name: their values are related if it is the key of a slot,
and the same otherwise. -/
inductive MemberRelated (format : RecordFormat Slot) (R : Slot → Node → Node → Prop) :
    TextLiteral × Node → TextLiteral × Node → Prop
  | slot {name : TextLiteral} {value value' : Node} (key : String) (slot : Slot)
      (read_eq : name.read = .ok key) (slot_eq : format.slot? key = some slot)
      (related : R slot value value') : MemberRelated format R (name, value) (name, value')
  | unknown {name : TextLiteral} {value : Node} (key : String) (read_eq : name.read = .ok key)
      (slot_eq : format.slot? key = none) : MemberRelated format R (name, value) (name, value)

/-- The values of the slots that come first, related one by one. -/
inductive SlotsRelated (R : Slot → Node → Node → Prop) : List Slot → List Node → List Node → Prop
  | nil {slots : List Slot} : SlotsRelated R slots [] []
  | cons {slot : Slot} {slots : List Slot} {value value' : Node} {values values' : List Node}
      (head : R slot value value') (tail : SlotsRelated R slots values values') :
      SlotsRelated R (slot :: slots) (value :: values) (value' :: values')

/-- Two records in the same spelling, related slot by slot. -/
inductive RecordRelated (format : RecordFormat Slot) (R : Slot → Node → Node → Prop) :
    Node → Node → Prop
  | object {entries entries' : List (TextLiteral × Node)}
      (members : List.Forall₂ (MemberRelated format R) entries entries') :
      RecordRelated format R (.object (.ofList entries)) (.object (.ofList entries'))
  | list {values values' : List Node} (slots : SlotsRelated R format.slots values values') :
      RecordRelated format R (.list (.ofList values)) (.list (.ofList values'))

variable [DecidableEq Slot] {Content : Slot → Type}
  {read read' : (slot : Slot) → Node → Except Fault (Content slot)}

lemma stepWith_of_memberRelated (hslots : ∀ slot, Carries (read slot) (read' slot) (R slot))
    (draft : Draft Content) (entry entry' : TextLiteral × Node) (next : Draft Content)
    (hentry : MemberRelated format R entry entry')
    (h : Members.stepWith format.checkKey (format.step read) draft entry = .ok next) :
    Members.stepWith format.checkKey (format.step read') draft entry' = .ok next := by
  cases hentry with
  | slot key slot hkey hslot hrelated =>
    rw [RecordFormat.stepWith_eq_ok_iff] at h ⊢
    obtain ⟨key', hkey', h⟩ := h
    cases hkey.symm.trans hkey'
    rcases h with ⟨slot', content, hslot', hdraft, hvalue, hnext⟩ | ⟨hslot', -⟩
    · cases hslot.symm.trans hslot'
      have hvalue' := hslots slot _ _ content hrelated hvalue
      exact ⟨key, hkey, .inl ⟨slot, content, hslot, hdraft, hvalue', hnext⟩⟩
    · cases hslot.symm.trans hslot'
  | unknown key hkey hslot =>
    rw [RecordFormat.stepWith_eq_ok_iff] at h ⊢
    obtain ⟨key', hkey', h⟩ := h
    cases hkey.symm.trans hkey'
    rcases h with ⟨slot', _, hslot', -⟩ | ⟨-, hvalue, hnext⟩
    · cases hslot.symm.trans hslot'
    · exact ⟨key, hkey, .inr ⟨hslot, hvalue, hnext⟩⟩

lemma readSlots_of_slotsRelated (hslots : ∀ slot, Carries (read slot) (read' slot) (R slot))
    {slots : List Slot} {values values' : List Node} (hvalues : SlotsRelated R slots values values')
    {position : Nat} {draft final : Draft Content}
    (h : format.readSlots read slots position draft (.ofList values) = .ok final) :
    format.readSlots read' slots position draft (.ofList values') = .ok final := by
  induction slots generalizing values values' position draft with
  | nil =>
    cases hvalues with
    | nil => exact h
  | cons slot slots ih =>
    cases hvalues with
    | nil =>
      simp only [Items.ofList, RecordFormat.readSlots] at h ⊢
      split at h
      · next hlack =>
        rw [if_pos hlack]
        exact ih .nil h
      · cases h
    | cons head tail =>
      simp only [Items.ofList, RecordFormat.readSlots, bind_eq_ok_iff] at h ⊢
      obtain ⟨content, hcontent, hrest⟩ := h
      exact ⟨content, hslots slot _ _ content head hcontent, ih tail hrest⟩

/-- Related records are read alike if related values of their slots are. -/
lemma RecordFormat.carries_read (hslots : ∀ slot, Carries (read slot) (read' slot) (R slot)) :
    Carries (format.read read) (format.read read') (RecordRelated format R) := by
  intro node node' draft hrelated h
  cases hrelated with
  | object members =>
    rw [RecordFormat.read, Members.fold_ofList] at h ⊢
    exact foldlM_of_forall₂ (stepWith_of_memberRelated hslots) members h
  | list slots => exact readSlots_of_slotsRelated hslots slots h

end Records

end CdsDeclarations.Json
