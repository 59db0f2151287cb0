import CdsDeclarations.Proofs.JsonTrees

/-!
# Texts of trees

A complete tree is written as one row of tokens, and a text with these tokens is read back as the
tree, however the text places its blanks. Nothing else is read as a complete tree.
-/

namespace CdsDeclarations.Json

mutual

/-- The tokens that a tree is written with. -/
def Node.tokens : Node → List Token
  | .missing => []
  | .unknown => [.unknown]
  | .brokenWord textEnds => [.brokenWord textEnds]
  | .null => [.null]
  | .boolean value => [.boolean value]
  | .number numeral => [.number numeral]
  | .text literal => [.text literal]
  | .list items => .openList :: items.tokens
  | .object members => .openObject :: members.tokens

def Items.tokens : Items → List Token
  | .close => [.closeList]
  | .item value .close => value.tokens ++ [.closeList]
  | .item value rest => value.tokens ++ .comma :: rest.tokens
  | .broken _ => []

def Members.tokens : Members → List Token
  | .close => [.closeObject]
  | .member key value .close => .text key :: .colon :: (value.tokens ++ [.closeObject])
  | .member key value rest => .text key :: .colon :: (value.tokens ++ .comma :: rest.tokens)
  | .noColon key _ => [.text key]
  | .broken _ => []

end

/-- A text is written with the tokens of a complete tree, and blanks anywhere between them. -/
structure IsTextOf (text : String) (node : Node) : Prop where
  complete : node.IsComplete
  scan_eq : Token.scan text.toList = node.tokens

-- The kernel takes a literal for `String.ofList` of its characters. Without this step it would
-- decode the literal's bytes to get at them.
lemma toList_append_ofList {front : String} {chars : List Char} (h : front.toList = chars)
    (back : List Char) : (front ++ String.ofList back).toList = chars ++ back := by
  rw [String.toList_append, h, String.toList_ofList]

/-- Whether a value may begin with a token. -/
def Token.opensNode : Token → Bool
  | .closeList => false
  | .closeObject => false
  | .comma => false
  | .colon => false
  | _ => true

lemma Node.exists_tokens_eq {node : Node} (h : node.IsComplete) :
    ∃ first others, node.tokens = first :: others ∧ first.opensNode := by
  cases node with
  | missing => cases h
  | _ => exact ⟨_, _, rfl, rfl⟩

lemma Items.exists_tokens_eq {value : Node} {rest : Items} (h : (item value rest).IsComplete) :
    ∃ first others, (item value rest).tokens = first :: others ∧ first.opensNode := by
  obtain ⟨first, others, hvalue, hopens⟩ := Node.exists_tokens_eq h.1
  cases rest with
  | close => exact ⟨first, others ++ [.closeList], by rw [tokens, hvalue]; rfl, hopens⟩
  | item next later =>
    refine ⟨first, others ++ .comma :: (item next later).tokens, ?_, hopens⟩
    rw [← List.cons_append, ← hvalue]
    rfl
  | broken cause => cases h.2

lemma Members.exists_tokens_eq (key : TextLiteral) (value : Node) (rest : Members) :
    ∃ others, (member key value rest).tokens = .text key :: .colon :: others := by
  cases rest with
  | _ => exact ⟨_, rfl⟩

section Steps

variable {steps : Nat} {first : Token} {later rest : List Token}

lemma readNode_openList (hfirst : first.opensNode) :
    readNode (steps + 1) (.openList :: first :: later) =
      (.list (readItem steps (first :: later)).1, (readItem steps (first :: later)).2) := by
  cases first with
  | closeList => cases hfirst
  | _ => rfl

lemma readNode_openObject (key : TextLiteral) :
    readNode (steps + 1) (.openObject :: .text key :: later) =
      (.object (readMember steps (.text key :: later)).1,
        (readMember steps (.text key :: later)).2) :=
  rfl

lemma readItem_close {tokens : List Token} {value : Node}
    (h : readNode steps tokens = (value, .closeList :: rest)) :
    readItem (steps + 1) tokens = (.item value .close, rest) := by
  rw [readItem, h]

lemma readItem_comma {tokens : List Token} {value : Node} (hfirst : first.opensNode)
    (h : readNode steps tokens = (value, .comma :: first :: later)) :
    readItem (steps + 1) tokens =
      (.item value (readItem steps (first :: later)).1, (readItem steps (first :: later)).2) := by
  rw [readItem, h]
  cases first with
  | closeList => cases hfirst
  | _ => rfl

lemma readMember_close {tokens : List Token} {key : TextLiteral} {value : Node}
    (h : readNode steps tokens = (value, .closeObject :: rest)) :
    readMember (steps + 1) (.text key :: .colon :: tokens) = (.member key value .close, rest) := by
  rw [readMember, h]

lemma readMember_comma {tokens : List Token} {key next : TextLiteral} {value : Node}
    (h : readNode steps tokens = (value, .comma :: .text next :: later)) :
    readMember (steps + 1) (.text key :: .colon :: tokens) =
      (.member key value (readMember steps (.text next :: later)).1,
        (readMember steps (.text next :: later)).2) := by
  rw [readMember, h]

end Steps

mutual

/-- The tokens of a complete tree are read as the tree, and what follows them is left. -/
lemma readNode_tokens : (node : Node) → node.IsComplete → ∀ (steps : Nat) (rest : List Token),
    2 * node.tokens.length ≤ steps → readNode steps (node.tokens ++ rest) = (node, rest)
  | node, h, 0, _, hsteps => by
    obtain ⟨first, others, htokens, -⟩ := Node.exists_tokens_eq h
    simp [htokens] at hsteps
  | .null, _, steps + 1, rest, _ => rfl
  | .boolean _, _, steps + 1, rest, _ => rfl
  | .number _, _, steps + 1, rest, _ => rfl
  | .text _, _, steps + 1, rest, _ => rfl
  | .list .close, _, steps + 1, rest, _ => rfl
  | .list (.item value others), h, steps + 1, rest, hsteps => by
    obtain ⟨first, later, htokens, hopens⟩ := Items.exists_tokens_eq h
    simp only [Node.tokens, List.length_cons] at hsteps
    have hitem := readItem_tokens value others h steps rest (by omega)
    rw [htokens, List.cons_append] at hitem
    rw [Node.tokens, List.cons_append, htokens, List.cons_append, readNode_openList hopens, hitem]
  | .object .close, _, steps + 1, rest, _ => rfl
  | .object (.member key value others), h, steps + 1, rest, hsteps => by
    obtain ⟨later, htokens⟩ := Members.exists_tokens_eq key value others
    simp only [Node.tokens, List.length_cons] at hsteps
    have hmember := readMember_tokens key value others h steps rest (by omega)
    rw [htokens, List.cons_append] at hmember
    rw [Node.tokens, List.cons_append, htokens, List.cons_append, readNode_openObject, hmember]

lemma readItem_tokens : (value : Node) → (others : Items) → (Items.item value others).IsComplete →
    ∀ (steps : Nat) (rest : List Token), 2 * (Items.item value others).tokens.length + 1 ≤ steps →
      readItem steps ((Items.item value others).tokens ++ rest) = (.item value others, rest)
  | value, .close, h, steps + 1, rest, hsteps => by
    simp only [Items.tokens, List.length_append, List.length_cons] at hsteps
    have hvalue := readNode_tokens value h.1 steps (.closeList :: rest) (by omega)
    rw [Items.tokens, List.append_assoc]
    exact readItem_close hvalue
  | value, .item next others, h, steps + 1, rest, hsteps => by
    obtain ⟨first, later, htokens, hopens⟩ := Items.exists_tokens_eq h.2
    simp only [Items.tokens, List.length_append, List.length_cons] at hsteps
    have hvalue := readNode_tokens value h.1 steps
      (.comma :: ((Items.item next others).tokens ++ rest)) (by omega)
    have hothers := readItem_tokens next others h.2 steps rest (by omega)
    rw [htokens, List.cons_append] at hvalue hothers
    rw [Items.tokens, List.append_assoc, List.cons_append, htokens, List.cons_append,
      readItem_comma hopens hvalue, hothers]
    nofun
  | value, .broken cause, h, _, _, _ => by cases h.2

lemma readMember_tokens : (key : TextLiteral) → (value : Node) → (others : Members) →
    (Members.member key value others).IsComplete → ∀ (steps : Nat) (rest : List Token),
      2 * (Members.member key value others).tokens.length + 1 ≤ steps →
      readMember steps ((Members.member key value others).tokens ++ rest) =
        (.member key value others, rest)
  | key, value, .close, h, steps + 1, rest, hsteps => by
    simp only [Members.tokens, List.length_append, List.length_cons] at hsteps
    have hvalue := readNode_tokens value h.2.1 steps (.closeObject :: rest) (by omega)
    rw [Members.tokens, List.cons_append, List.cons_append, List.append_assoc]
    exact readMember_close hvalue
  | key, value, .member next content others, h, steps + 1, rest, hsteps => by
    obtain ⟨later, htokens⟩ := Members.exists_tokens_eq next content others
    simp only [Members.tokens, List.length_append, List.length_cons] at hsteps
    have hvalue := readNode_tokens value h.2.1 steps
      (.comma :: ((Members.member next content others).tokens ++ rest)) (by omega)
    have hothers := readMember_tokens next content others h.2.2 steps rest (by omega)
    rw [htokens, List.cons_append] at hvalue hothers
    rw [Members.tokens, List.cons_append, List.cons_append, List.append_assoc, List.cons_append,
      htokens, List.cons_append, readMember_comma hvalue, hothers]
    nofun
  | key, value, .noColon _ _, h, _, _, _ => by cases h.2.2
  | key, value, .broken _, h, _, _, _ => by cases h.2.2

end

section Inversion

variable {steps : Nat} {tokens : List Token}

lemma readNode_list_cases (h : (readNode (steps + 1) (.openList :: tokens)).1.IsComplete) :
    (∃ rest, tokens = .closeList :: rest ∧
      readNode (steps + 1) (.openList :: tokens) = (.list .close, rest)) ∨
    readNode (steps + 1) (.openList :: tokens) =
      (.list (readItem steps tokens).1, (readItem steps tokens).2) := by
  cases tokens with
  | nil => cases h
  | cons first rest =>
    cases first with
    | closeList => exact .inl ⟨rest, rfl, rfl⟩
    | _ => exact .inr rfl

lemma readNode_object_cases (h : (readNode (steps + 1) (.openObject :: tokens)).1.IsComplete) :
    (∃ rest, tokens = .closeObject :: rest ∧
      readNode (steps + 1) (.openObject :: tokens) = (.object .close, rest)) ∨
    readNode (steps + 1) (.openObject :: tokens) =
      (.object (readMember steps tokens).1, (readMember steps tokens).2) := by
  cases tokens with
  | nil => cases h
  | cons first rest =>
    cases first with
    | closeObject => exact .inl ⟨rest, rfl, rfl⟩
    | _ => exact .inr rfl

/-- A complete item is closed after its value or goes on behind a comma. -/
lemma readItem_cases (h : (readItem (steps + 1) tokens).1.IsComplete) :
    ∃ value rest,
      readNode steps tokens = (value, .closeList :: rest) ∧
        readItem (steps + 1) tokens = (.item value .close, rest) ∨
      readNode steps tokens = (value, .comma :: rest) ∧
        readItem (steps + 1) tokens =
          (.item value (readItem steps rest).1, (readItem steps rest).2) := by
  rcases hvalue : readNode steps tokens with ⟨value, rest⟩
  rw [readItem, hvalue] at h ⊢
  dsimp only at h ⊢
  split at h
  · cases h.2
  · next rest => exact ⟨value, rest, .inl ⟨rfl, rfl⟩⟩
  · cases h.2
  · next rest _ => exact ⟨value, rest, .inr ⟨rfl, rfl⟩⟩
  · cases h.2

lemma exists_key_of_readMember (h : (readMember (steps + 1) tokens).1.IsComplete) :
    ∃ key after, tokens = .text key :: .colon :: after := by
  cases tokens with
  | nil => cases h
  | cons first others =>
    cases first with
    | text key =>
      cases others with
      | nil => cases h
      | cons second after =>
        cases second with
        | colon => exact ⟨key, after, rfl⟩
        | _ => cases h
    | _ => cases h

lemma readMember_cases (h : (readMember (steps + 1) tokens).1.IsComplete) :
    ∃ key after value rest, tokens = .text key :: .colon :: after ∧
      (readNode steps after = (value, .closeObject :: rest) ∧
        readMember (steps + 1) tokens = (.member key value .close, rest) ∨
      readNode steps after = (value, .comma :: rest) ∧
        readMember (steps + 1) tokens =
          (.member key value (readMember steps rest).1, (readMember steps rest).2)) := by
  obtain ⟨key, after, rfl⟩ := exists_key_of_readMember h
  rcases hvalue : readNode steps after with ⟨value, rest⟩
  rw [readMember, hvalue] at h ⊢
  dsimp only at h ⊢
  split at h
  · cases h.2.2
  · next rest => exact ⟨key, after, value, rest, rfl, .inl ⟨hvalue, rfl⟩⟩
  · cases h.2.2
  · cases h.2.2
  · next rest _ _ => exact ⟨key, after, value, rest, rfl, .inr ⟨hvalue, rfl⟩⟩
  · cases h.2.2

lemma readItem_ne_close (h : (readItem steps tokens).1.IsComplete) :
    (readItem steps tokens).1 ≠ .close := by
  cases steps with
  | zero => nofun
  | succ steps =>
    obtain ⟨value, rest, ⟨-, heq⟩ | ⟨-, heq⟩⟩ := readItem_cases h
    all_goals rw [heq]; nofun

lemma readMember_ne_close (h : (readMember steps tokens).1.IsComplete) :
    (readMember steps tokens).1 ≠ .close := by
  cases steps with
  | zero => nofun
  | succ steps =>
    obtain ⟨key, after, value, rest, -, ⟨-, heq⟩ | ⟨-, heq⟩⟩ := readMember_cases h
    all_goals rw [heq]; nofun

end Inversion

lemma Items.tokens_item {value : Node} {others : Items} (h : others ≠ .close) :
    (item value others).tokens = value.tokens ++ .comma :: others.tokens := by
  cases others with
  | close => exact absurd rfl h
  | _ => rfl

lemma Members.tokens_member {key : TextLiteral} {value : Node} {others : Members}
    (h : others ≠ .close) :
    (member key value others).tokens =
      .text key :: .colon :: (value.tokens ++ .comma :: others.tokens) := by
  cases others with
  | close => exact absurd rfl h
  | _ => rfl

mutual

/-- What is read as a complete tree are the tree's own tokens. -/
lemma tokens_of_readNode : (steps : Nat) → (tokens : List Token) →
    (readNode steps tokens).1.IsComplete →
    tokens = (readNode steps tokens).1.tokens ++ (readNode steps tokens).2
  | 0, _, h => by cases h
  | _ + 1, [], h => by cases h
  | steps + 1, .openList :: tokens, h => by
    rcases readNode_list_cases h with ⟨rest, rfl, heq⟩ | heq
    · rw [heq]
      rfl
    · rw [heq] at h ⊢
      rw [Node.tokens, List.cons_append, ← tokens_of_readItem steps tokens h]
  | steps + 1, .openObject :: tokens, h => by
    rcases readNode_object_cases h with ⟨rest, rfl, heq⟩ | heq
    · rw [heq]
      rfl
    · rw [heq] at h ⊢
      rw [Node.tokens, List.cons_append, ← tokens_of_readMember steps tokens h]
  | _ + 1, .null :: _, _ => rfl
  | _ + 1, .boolean _ :: _, _ => rfl
  | _ + 1, .number _ :: _, _ => rfl
  | _ + 1, .text _ :: _, _ => rfl

lemma tokens_of_readItem : (steps : Nat) → (tokens : List Token) →
    (readItem steps tokens).1.IsComplete →
    tokens = (readItem steps tokens).1.tokens ++ (readItem steps tokens).2
  | 0, _, h => by cases h
  | steps + 1, tokens, h => by
    have hvalue := tokens_of_readNode steps tokens
    obtain ⟨value, rest, ⟨hread, heq⟩ | ⟨hread, heq⟩⟩ := readItem_cases h
    · rw [heq] at h ⊢
      rw [hread] at hvalue
      rw [Items.tokens, List.append_assoc]
      exact hvalue h.1
    · rw [heq] at h ⊢
      rw [hread, tokens_of_readItem steps rest h.2] at hvalue
      rw [Items.tokens_item (readItem_ne_close h.2), List.append_assoc]
      exact hvalue h.1

lemma tokens_of_readMember : (steps : Nat) → (tokens : List Token) →
    (readMember steps tokens).1.IsComplete →
    tokens = (readMember steps tokens).1.tokens ++ (readMember steps tokens).2
  | 0, _, h => by cases h
  | steps + 1, tokens, h => by
    obtain ⟨key, after, value, rest, rfl, ⟨hread, heq⟩ | ⟨hread, heq⟩⟩ := readMember_cases h
    · have hvalue := tokens_of_readNode steps after
      rw [heq] at h ⊢
      rw [hread] at hvalue
      rw [hvalue h.2.1, Members.tokens, List.cons_append, List.cons_append, List.append_assoc]
      rfl
    · have hvalue := tokens_of_readNode steps after
      rw [heq] at h ⊢
      rw [hread, tokens_of_readMember steps rest h.2.2] at hvalue
      rw [hvalue h.2.1, Members.tokens_member (readMember_ne_close h.2.2), List.cons_append,
        List.cons_append, List.append_assoc]
      rfl

end

/-- A text of a tree is read as the tree, and nothing but blanks follows it. -/
theorem IsTextOf.ofString_eq {text : String} {node : Node} (h : IsTextOf text node) :
    Text.ofString text = ⟨node, false⟩ := by
  have hread := readNode_tokens node h.complete (2 * node.tokens.length + 1) [] (Nat.le_succ _)
  rw [List.append_nil] at hread
  rw [Text.ofString, h.scan_eq]
  dsimp only
  rw [hread]
  rfl

lemma IsTextOf.unique {text : String} {node node' : Node} (h : IsTextOf text node)
    (h' : IsTextOf text node') : node = node' := by
  have hroot := congrArg Text.root (h.ofString_eq.symm.trans h'.ofString_eq)
  exact hroot

/-- A text that is read as a complete tree with nothing behind it is a text of the tree. -/
theorem isTextOf_of_ofString {text : String} {node : Node} (hcomplete : node.IsComplete)
    (h : Text.ofString text = ⟨node, false⟩) : IsTextOf text node := by
  have htokens := tokens_of_readNode (2 * (Token.scan text.toList).length + 1)
    (Token.scan text.toList)
  rcases hread : readNode (2 * (Token.scan text.toList).length + 1) (Token.scan text.toList)
    with ⟨root, rest⟩
  simp only [Text.ofString, hread, Text.mk.injEq, Bool.not_eq_false', List.isEmpty_iff] at h
  obtain ⟨rfl, rfl⟩ := h
  rw [hread, List.append_nil] at htokens
  exact ⟨hcomplete, htokens hcomplete⟩

end CdsDeclarations.Json
