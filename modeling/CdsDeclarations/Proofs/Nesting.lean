import CdsDeclarations.Csn.Reader
import CdsDeclarations.Proofs.JsonTrees

/-!
# Nesting

How many containers are open at once in a tree. What is read from a node does not depend on how many
containers may be opened in it, as long as there are enough of them.
-/

namespace CdsDeclarations

namespace Json

mutual

/-- The greatest number of containers that are open at once. -/
def Node.nesting : Node → Nat
  | .list items => items.nesting + 1
  | .object members => members.nesting + 1
  | _ => 0

def Items.nesting : Items → Nat
  | .item value rest => max value.nesting rest.nesting
  | _ => 0

def Members.nesting : Members → Nat
  | .member _ value rest => max value.nesting rest.nesting
  | _ => 0

end

variable {σ : Type} {room : Nat}

lemma Items.fold_of_nesting_le {step step' : σ → Node → Except Fault σ}
    (hstep : ∀ state value next, value.nesting ≤ room →
      step state value = .ok next → step' state value = .ok next) {final : σ} :
    (items : Items) → (state : σ) → items.nesting ≤ room → items.fold step state = .ok final →
      items.fold step' state = .ok final
  | .close, _, _, h => h
  | .item value rest, state, hroom, h => by
    rw [nesting, Nat.max_le] at hroom
    rw [fold, bind_eq_ok_iff] at h ⊢
    obtain ⟨next, hnext, hrest⟩ := h
    exact ⟨next, hstep state value next hroom.1 hnext,
      fold_of_nesting_le hstep rest next hroom.2 hrest⟩

lemma Members.fold_of_nesting_le {step step' : σ → String → Node → Except Fault σ}
    (hstep : ∀ state key value next, value.nesting ≤ room →
      step state key value = .ok next → step' state key value = .ok next) {final : σ} :
    (members : Members) → (state : σ) → members.nesting ≤ room →
      members.fold anyKey step state = .ok final → members.fold anyKey step' state = .ok final
  | .close, _, _, h => h
  | .member key value rest, state, hroom, h => by
    rw [nesting, Nat.max_le] at hroom
    simp only [fold, bind_eq_ok_iff] at h ⊢
    obtain ⟨name, hname, _, hany, next, hnext, hrest⟩ := h
    exact ⟨name, hname, _, hany, next, hstep state name value next hroom.1 hnext,
      fold_of_nesting_le hstep rest next hroom.2 hrest⟩
  | .noColon key textEnds, _, _, h => by simp [fold, anyKey] at h

/-- A decoder reads a node alike wherever there is room for the containers in it. -/
def NeedsNesting {α : Type} (decode : Decoder α) : Prop :=
  ∀ depth room node value, decode depth node = .ok value → node.nesting ≤ room →
    decode room node = .ok value

lemma readAny_of_nesting_le : (depth room : Nat) → (node : Node) → (found : Found) →
    readAny depth node = .ok found → node.nesting ≤ room → readAny room node = .ok found
  | _, _, .null, _, h, _ => by rwa [readAny] at h ⊢
  | _, _, .boolean _, _, h, _ => by rwa [readAny] at h ⊢
  | _, _, .number _, _, h, _ => by rwa [readAny] at h ⊢
  | _, _, .text _, _, h, _ => by rwa [readAny] at h ⊢
  | _, _, .missing, _, h, _ => by simp [readAny] at h
  | _, _, .unknown, _, h, _ => by simp [readAny] at h
  | _, _, .brokenWord _, _, h, _ => by simp [readAny] at h
  | 0, _, .list _, _, h, _ => by cases h
  | 0, _, .object _, _, h, _ => by cases h
  | depth + 1, room + 1, .list items, _, h, hroom => by
    simp only [readAny, bind_eq_ok_iff] at h ⊢
    obtain ⟨_, hitems, hfound⟩ := h
    refine ⟨(), Items.fold_of_nesting_le ?_ items () (Nat.le_of_succ_le_succ hroom) hitems, hfound⟩
    intro _ value _ hvalue hnext
    exact bind_eq_ok_of_imp hnext fun found hread =>
      readAny_of_nesting_le depth room value found hread hvalue
  | depth + 1, room + 1, .object members, _, h, hroom => by
    simp only [readAny, bind_eq_ok_iff] at h ⊢
    obtain ⟨_, hmembers, hfound⟩ := h
    refine ⟨(), Members.fold_of_nesting_le ?_ members () (Nat.le_of_succ_le_succ hroom) hmembers,
      hfound⟩
    intro _ _ value _ hvalue hnext
    exact bind_eq_ok_of_imp hnext fun found hread =>
      readAny_of_nesting_le depth room value found hread hvalue

lemma needsNesting_readAny : NeedsNesting readAny :=
  readAny_of_nesting_le

end Json

namespace Csn

open Json

lemma needsNesting_readTypeTag : NeedsNesting readTypeTag := by
  intro depth room node tag h hroom
  exact bind_eq_ok_of_imp h fun found hfound =>
    needsNesting_readAny depth room node found hfound hroom

lemma needsNesting_readCardinality : NeedsNesting readCardinality := by
  intro depth room node cardinality h hroom
  unfold readCardinality at h
  split at h
  · next depth members =>
    cases room with
    | zero => cases hroom
    | succ room =>
      refine bind_eq_ok_of_imp h fun many hmany =>
        Members.fold_of_nesting_le ?_ members false (Nat.le_of_succ_le_succ hroom) hmany
      intro _ key value _ hvalue hnext
      exact bind_eq_ok_of_imp hnext fun found hread =>
        needsNesting_readAny depth room value found hread hvalue
  · next hnot =>
    obtain ⟨found, hfound, hcardinality⟩ := bind_eq_ok_iff.mp h
    unfold readCardinality
    split
    · next members =>
      cases depth with
      | zero => cases hfound
      | succ depth => exact (hnot depth members rfl rfl).elim
    · exact bind_eq_ok_iff.mpr
        ⟨found, needsNesting_readAny depth room node found hfound hroom, hcardinality⟩

lemma needsNesting_readKind : NeedsNesting readKind
  | _, _, .text _, _, h, _ => by rwa [readKind] at h ⊢
  | _ + 1, _ + 1, .object _, _, h, _ => h

lemma readEnumValue_object_of_nesting_le {depth room : Nat} {members : Members}
    {literal : EnumValue}
    (hvalues : ∀ value next, value.nesting ≤ room → readEnumValue depth value = .ok next →
      readEnumValue room value = .ok next)
    (h : readEnumValue (depth + 1) (.object members) = .ok literal)
    (hroom : members.nesting ≤ room) :
    readEnumValue (room + 1) (.object members) = .ok literal := by
  rw [readEnumValue] at h ⊢
  refine Members.fold_of_nesting_le ?_ members _ hroom h
  intro state key value next hvalue hnext
  split at hnext
  · next hkey =>
    rw [if_pos hkey]
    exact hvalues value next hvalue hnext
  · next hkey =>
    rw [if_neg hkey]
    exact bind_eq_ok_of_imp hnext fun found hread =>
      needsNesting_readAny depth room value found hread hvalue

lemma readEnumValue_of_not_object {depth room : Nat} {node : Node} {literal : EnumValue}
    (hnot : ∀ members, node ≠ .object members) (h : readEnumValue depth node = .ok literal)
    (hroom : node.nesting ≤ room) : readEnumValue room node = .ok literal := by
  unfold readEnumValue at h ⊢
  split at h
  · next members => exact (hnot members rfl).elim
  · split
    · next members _ => exact (hnot members rfl).elim
    · exact bind_eq_ok_of_imp h fun found hfound =>
        needsNesting_readAny depth room node found hfound hroom

lemma needsNesting_readEnumValue : NeedsNesting readEnumValue := by
  intro depth
  induction depth with
  | zero =>
    intro room node literal h hroom
    cases node with
    | object members => cases h
    | _ => exact readEnumValue_of_not_object nofun h hroom
  | succ depth ih =>
    intro room node literal h hroom
    cases node with
    | object members =>
      cases room with
      | zero => cases hroom
      | succ room =>
        exact readEnumValue_object_of_nesting_le
          (fun value next hvalue hnext => ih room value next hnext hvalue) h
          (Nat.le_of_succ_le_succ hroom)
    | _ => exact readEnumValue_of_not_object nofun h hroom

end Csn

end CdsDeclarations
