import CdsDeclarations.Proofs.RelatedTrees
import CdsDeclarations.Proofs.WrittenTokens

/-!
# Written trees

A complete tree that is put together from parts of other texts has a text of its own.
-/

namespace CdsDeclarations.Json

/-- Every token of a node can be written. -/
def Node.IsWritable (node : Node) : Prop :=
  ∀ token ∈ node.tokens, token.IsWritable

section Containers

variable {P : Token → Prop}

lemma Items.forall_tokens_ofList_iff (hclose : P .closeList) (hcomma : P .comma)
    {values : List Node} :
    (∀ token ∈ (ofList values).tokens, P token) ↔
      ∀ value ∈ values, ∀ token ∈ value.tokens, P token := by
  induction values with
  | nil => simpa [ofList, tokens] using hclose
  | cons value rest ih =>
    rw [List.forall_mem_cons, ← ih]
    cases rest with
    | nil => simp [ofList, tokens, or_imp, forall_and, hclose]
    | cons next rest =>
      rw [ofList, tokens_item (by simp [ofList])]
      simp [or_imp, forall_and, hcomma]

lemma Members.forall_tokens_ofList_iff (hclose : P .closeObject) (hcomma : P .comma)
    (hcolon : P .colon) {entries : List (TextLiteral × Node)} :
    (∀ token ∈ (ofList entries).tokens, P token) ↔
      ∀ entry ∈ entries, P (.text entry.1) ∧ ∀ token ∈ entry.2.tokens, P token := by
  induction entries with
  | nil => simpa [ofList, tokens] using hclose
  | cons entry rest ih =>
    rw [List.forall_mem_cons, ← ih]
    cases rest with
    | nil => simp [ofList, tokens, or_imp, forall_and, hclose, hcolon]
    | cons next rest =>
      rw [ofList, tokens_member (by simp [ofList])]
      simp [or_imp, forall_and, hcomma, hcolon, and_assoc]

end Containers

lemma isWritable_list_iff {values : List Node} :
    (Node.list (.ofList values)).IsWritable ↔ ∀ value ∈ values, value.IsWritable := by
  rw [Node.IsWritable, Node.tokens, List.forall_mem_cons, Items.forall_tokens_ofList_iff
    Token.isWritable_closeList Token.isWritable_comma]
  exact and_iff_right Token.isWritable_openList

lemma isWritable_object_iff {entries : List (TextLiteral × Node)} :
    (Node.object (.ofList entries)).IsWritable ↔
      ∀ entry ∈ entries, (Token.text entry.1).IsWritable ∧ entry.2.IsWritable := by
  rw [Node.IsWritable, Node.tokens, List.forall_mem_cons, Members.forall_tokens_ofList_iff
    Token.isWritable_closeObject Token.isWritable_comma Token.isWritable_colon]
  exact and_iff_right Token.isWritable_openObject

mutual

lemma Node.isWhole_of_mem_tokens : (node : Node) → node.IsComplete →
    ∀ token ∈ node.tokens, token.isWhole
  | .null, _ => List.forall_mem_singleton.mpr rfl
  | .boolean _, _ => List.forall_mem_singleton.mpr rfl
  | .number _, h => List.forall_mem_singleton.mpr (decide_eq_true h)
  | .text _, h => List.forall_mem_singleton.mpr (decide_eq_true h)
  | .list items, h => List.forall_mem_cons.mpr ⟨rfl, items.isWhole_of_mem_tokens h⟩
  | .object members, h => List.forall_mem_cons.mpr ⟨rfl, members.isWhole_of_mem_tokens h⟩

lemma Items.isWhole_of_mem_tokens : (items : Items) → items.IsComplete →
    ∀ token ∈ items.tokens, token.isWhole
  | .close, _ => List.forall_mem_singleton.mpr rfl
  | .item value .close, h =>
    List.forall_mem_append.mpr
      ⟨value.isWhole_of_mem_tokens h.1, List.forall_mem_singleton.mpr rfl⟩
  | .item value (.item next rest), h =>
    List.forall_mem_append.mpr ⟨value.isWhole_of_mem_tokens h.1,
      List.forall_mem_cons.mpr ⟨rfl, (Items.item next rest).isWhole_of_mem_tokens h.2⟩⟩

lemma Members.isWhole_of_mem_tokens : (members : Members) → members.IsComplete →
    ∀ token ∈ members.tokens, token.isWhole
  | .close, _ => List.forall_mem_singleton.mpr rfl
  | .member key value .close, h => by
    have hvalue := value.isWhole_of_mem_tokens h.2.1
    refine List.forall_mem_cons.mpr ⟨decide_eq_true h.1, List.forall_mem_cons.mpr ⟨rfl, ?_⟩⟩
    exact List.forall_mem_append.mpr ⟨hvalue, List.forall_mem_singleton.mpr rfl⟩
  | .member key value (.member next content rest), h => by
    have hvalue := value.isWhole_of_mem_tokens h.2.1
    have hrest := (Members.member next content rest).isWhole_of_mem_tokens h.2.2
    refine List.forall_mem_cons.mpr ⟨decide_eq_true h.1, List.forall_mem_cons.mpr ⟨rfl, ?_⟩⟩
    exact List.forall_mem_append.mpr ⟨hvalue, List.forall_mem_cons.mpr ⟨rfl, hrest⟩⟩

end

lemma IsTextOf.isWritable {text : String} {node : Node} (h : IsTextOf text node) :
    node.IsWritable := by
  intro token hmem
  have hwhole := node.isWhole_of_mem_tokens h.complete token hmem
  rw [← h.scan_eq] at hmem
  exact Token.isWritable_of_mem_scanSteps token hmem hwhole

lemma exists_text_of_isWritable {node : Node} (hcomplete : node.IsComplete)
    (h : node.IsWritable) : ∃ text, IsTextOf text node := by
  obtain ⟨text, htext⟩ := Token.exists_text_of_isWritable h
  refine ⟨String.ofList text, hcomplete, ?_⟩
  rw [String.toList_ofList]
  exact htext text.length (Nat.le_refl _)

section Writing

variable {β : Type}

/-- What is related to a node that can be written can be written too. -/
def KeepsWritable (R : Node → Node → Prop) : Prop :=
  ∀ node node', R node node' → node.IsWritable → node'.IsWritable

lemma keepsWritable_orNull {R : Node → Node → Prop} (hR : KeepsWritable R) :
    KeepsWritable (OrNull R) := by
  rintro node node' (⟨rfl, rfl⟩ | ⟨-, -, hrelated⟩) h
  · exact h
  · exact hR node node' hrelated h

lemma forall_mem_of_forall₂ {R : β → β → Prop} {P : β → Prop} (hR : ∀ a b, R a b → P a → P b)
    {sources sources' : List β} (h : List.Forall₂ R sources sources')
    (hsources : ∀ source ∈ sources, P source) : ∀ source ∈ sources', P source := by
  induction h with
  | nil => exact hsources
  | cons hsource _ ih =>
    obtain ⟨hfirst, hrest⟩ := List.forall_mem_cons.mp hsources
    exact List.forall_mem_cons.mpr ⟨hR _ _ hsource hfirst, ih hrest⟩

lemma isWritable_pairNode_iff {entry : TextLiteral × Node} :
    (pairNode entry).IsWritable ↔ (Token.text entry.1).IsWritable ∧ entry.2.IsWritable := by
  have hlist := @isWritable_list_iff [.text entry.1, entry.2]
  have htext : (Node.text entry.1).IsWritable ↔ (Token.text entry.1).IsWritable :=
    List.forall_mem_singleton
  rw [List.forall_mem_cons, List.forall_mem_singleton, htext] at hlist
  exact hlist

lemma Spells.isWritable_iff {entries : List (TextLiteral × Node)} {node : Node}
    (h : Spells entries node) :
    node.IsWritable ↔
      ∀ entry ∈ entries, (Token.text entry.1).IsWritable ∧ entry.2.IsWritable := by
  rcases h with rfl | rfl
  · exact isWritable_object_iff
  · rw [pairsOf, isWritable_list_iff, List.forall_mem_map]
    exact forall₂_congr fun entry _ => isWritable_pairNode_iff

variable {Slot : Type} {format : RecordFormat Slot} {R : Slot → Node → Node → Prop}

lemma isWritable_of_slotsRelated (hR : ∀ slot, KeepsWritable (R slot)) {slots : List Slot}
    {values values' : List Node} (h : SlotsRelated R slots values values')
    (hvalues : ∀ value ∈ values, value.IsWritable) : ∀ value ∈ values', value.IsWritable := by
  induction h with
  | nil => exact hvalues
  | cons head _ ih =>
    obtain ⟨hfirst, hrest⟩ := List.forall_mem_cons.mp hvalues
    exact List.forall_mem_cons.mpr ⟨hR _ _ _ head hfirst, ih hrest⟩

lemma keepsWritable_recordRelated (hR : ∀ slot, KeepsWritable (R slot)) :
    KeepsWritable (RecordRelated format R) := by
  intro node node' hrelated h
  cases hrelated with
  | object members =>
    rw [isWritable_object_iff] at h ⊢
    refine forall_mem_of_forall₂ ?_ members h
    intro entry entry' hentry hwritable
    cases hentry with
    | slot key slot _ _ hrelated => exact ⟨hwritable.1, hR slot _ _ hrelated hwritable.2⟩
    | unknown => exact hwritable
  | list slots =>
    rw [isWritable_list_iff] at h ⊢
    exact isWritable_of_slotsRelated hR slots h

end Writing

end CdsDeclarations.Json
