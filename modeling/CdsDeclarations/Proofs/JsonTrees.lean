import CdsDeclarations.Json.Record
import Mathlib.Tactic.Lemma

/-!
# Complete trees

A tree is complete if nothing in it breaks off. Skimming asks for this and for no more. A container
that is read to its end is closed, and reading it is a fold over the list of what it holds.
-/

namespace CdsDeclarations.Json

section Success

variable {ε α β : Type}

@[simp]
lemma bind_eq_ok_iff {first : Except ε α} {next : α → Except ε β} {result : β} :
    first >>= next = .ok result ↔ ∃ value, first = .ok value ∧ next value = .ok result := by
  cases first with
  | error fault => simp [bind, Except.bind]
  | ok value => simp [bind, Except.bind]

lemma bind_eq_ok_of_imp {first first' : Except ε α} {next : α → Except ε β} {result : β}
    (h : first >>= next = .ok result) (hfirst : ∀ value, first = .ok value → first' = .ok value) :
    first' >>= next = .ok result := by
  obtain ⟨value, hvalue, hnext⟩ := bind_eq_ok_iff.mp h
  exact bind_eq_ok_iff.mpr ⟨value, hfirst value hvalue, hnext⟩

@[simp]
lemma pure_eq_ok_iff {value result : α} :
    (pure value : Except ε α) = .ok result ↔ value = result := by
  simp [pure, Except.pure]

@[simp]
lemma map_eq_ok_iff {f : α → β} {first : Except ε α} {result : β} :
    f <$> first = .ok result ↔ ∃ value, first = .ok value ∧ f value = result := by
  cases first with
  | error fault => simp [Functor.map, Except.map]
  | ok value => simp [Functor.map, Except.map]

end Success

mutual

/-- Whether nothing in a tree is missing, unknown or broken off. -/
def Node.IsComplete : Node → Prop
  | .missing => False
  | .unknown => False
  | .brokenWord _ => False
  | .null => True
  | .boolean _ => True
  | .number numeral => numeral.ending = .complete
  | .text literal => literal.ending = .closed
  | .list items => items.IsComplete
  | .object members => members.IsComplete

def Items.IsComplete : Items → Prop
  | .close => True
  | .item value rest => value.IsComplete ∧ rest.IsComplete
  | .broken _ => False

def Members.IsComplete : Members → Prop
  | .close => True
  | .member key value rest => key.ending = .closed ∧ value.IsComplete ∧ rest.IsComplete
  | .noColon _ _ => False
  | .broken _ => False

end

namespace TextLiteral

lemma endFault?_eq_none_iff {ending : TextEnd} : endFault? ending = none ↔ ending = .closed := by
  cases ending with
  | closed => simp [endFault?]
  | _ => simp [endFault?]

lemma closed_of_readPieces {ending : TextEnd} {reversed : List Char} {pieces : List TextPiece}
    {text : String} (h : readPieces ending reversed pieces = .ok text) : ending = .closed := by
  fun_induction readPieces ending reversed pieces with
  | case1 reversed hnone => exact endFault?_eq_none_iff.mp hnone
  | _ => simp_all

lemma closed_of_read {literal : TextLiteral} {text : String} (h : literal.read = .ok text) :
    literal.ending = .closed :=
  closed_of_readPieces h

lemma skim_eq_ok_iff (literal : TextLiteral) :
    literal.skim = .ok () ↔ literal.ending = .closed := by
  rw [skim, ← endFault?_eq_none_iff]
  cases endFault? literal.ending with
  | none => simp
  | some fault => simp

/-- A text without escapes. -/
def plain (text : String) : TextLiteral :=
  ⟨text.toList.map .char, .closed⟩

lemma readPieces_map_char (reversed chars : List Char) :
    readPieces .closed reversed (chars.map .char) =
      .ok (String.ofList (reversed.reverse ++ chars)) := by
  induction chars generalizing reversed with
  | nil => simp [readPieces, endFault?]
  | cons c chars ih =>
    rw [List.map_cons, readPieces, ih, List.reverse_cons, List.append_assoc]
    rfl

lemma read_plain (text : String) : (plain text).read = .ok text := by
  rw [plain, read, readPieces_map_char, List.reverse_nil, List.nil_append, String.ofList_toList]

end TextLiteral

namespace Numeral

lemma complete_of_read {numeral : Numeral} {value : Number} (h : numeral.read = .ok value) :
    numeral.ending = .complete := by
  rw [read] at h
  split at h
  · cases h
  · cases h
  · assumption

lemma skim_eq_ok_iff (numeral : Numeral) : numeral.skim = .ok () ↔ numeral.ending = .complete := by
  rw [skim]
  cases numeral.ending with
  | complete => simp
  | _ => simp

end Numeral

mutual

/-- Skimming accepts the complete trees and no others. -/
lemma Node.skim_eq_ok_iff : (node : Node) → (node.skim = .ok () ↔ node.IsComplete)
  | .missing => by simp [Node.skim, Node.IsComplete]
  | .unknown => by simp [Node.skim, Node.IsComplete]
  | .brokenWord _ => by simp [Node.skim, Node.IsComplete]
  | .null => by simp [Node.skim, Node.IsComplete]
  | .boolean _ => by simp [Node.skim, Node.IsComplete]
  | .number numeral => numeral.skim_eq_ok_iff
  | .text literal => literal.skim_eq_ok_iff
  | .list items => items.skim_eq_ok_iff
  | .object members => members.skim_eq_ok_iff

lemma Items.skim_eq_ok_iff : (items : Items) → (items.skim = .ok () ↔ items.IsComplete)
  | .close => by simp [Items.skim, Items.IsComplete]
  | .item value rest => by
    simp [Items.skim, Items.IsComplete, value.skim_eq_ok_iff, rest.skim_eq_ok_iff]
  | .broken _ => by simp [Items.skim, Items.IsComplete]

lemma Members.skim_eq_ok_iff : (members : Members) → (members.skim = .ok () ↔ members.IsComplete)
  | .close => by simp [Members.skim, Members.IsComplete]
  | .member key value rest => by
    simp [Members.skim, Members.IsComplete, key.skim_eq_ok_iff, value.skim_eq_ok_iff,
      rest.skim_eq_ok_iff]
  | .noColon _ _ => by simp [Members.skim, Members.IsComplete]
  | .broken _ => by simp [Members.skim, Members.IsComplete]

end

/-- A list that is closed after its items. -/
def Items.ofList : List Node → Items
  | [] => .close
  | value :: rest => .item value (ofList rest)

/-- An object that is closed after its members. -/
def Members.ofList : List (TextLiteral × Node) → Members
  | [] => .close
  | entry :: rest => .member entry.1 entry.2 (ofList rest)

lemma Items.isComplete_ofList_iff {values : List Node} :
    (ofList values).IsComplete ↔ ∀ value ∈ values, value.IsComplete := by
  induction values with
  | nil => simp [ofList, IsComplete]
  | cons value rest ih => rw [ofList, IsComplete, ih, List.forall_mem_cons]

lemma Members.isComplete_ofList_iff {entries : List (TextLiteral × Node)} :
    (ofList entries).IsComplete ↔
      ∀ entry ∈ entries, entry.1.ending = .closed ∧ entry.2.IsComplete := by
  induction entries with
  | nil => simp [ofList, IsComplete]
  | cons entry rest ih => rw [ofList, IsComplete, ih, List.forall_mem_cons, and_assoc]

variable {σ : Type}

/-- What a fold over members does with one of them. -/
def Members.stepWith (checkKey : σ → String → Except Fault Unit)
    (step : σ → String → Node → Except Fault σ) (state : σ) (entry : TextLiteral × Node) :
    Except Fault σ := do
  let key ← entry.1.read
  checkKey state key
  step state key entry.2

lemma Items.fold_ofList (step : σ → Node → Except Fault σ) (state : σ) (values : List Node) :
    (ofList values).fold step state = values.foldlM step state := by
  induction values generalizing state with
  | nil => rfl
  | cons value rest ih =>
    rw [ofList, fold, List.foldlM_cons]
    simp only [ih]

lemma Members.fold_ofList (checkKey : σ → String → Except Fault Unit)
    (step : σ → String → Node → Except Fault σ) (state : σ) (entries : List (TextLiteral × Node)) :
    (ofList entries).fold checkKey step state = entries.foldlM (stepWith checkKey step) state := by
  induction entries generalizing state with
  | nil => rfl
  | cons entry rest ih =>
    rw [ofList, fold, List.foldlM_cons, stepWith]
    simp only [ih, bind_assoc]

lemma Items.exists_ofList_of_fold {step : σ → Node → Except Fault σ} {state final : σ} :
    (items : Items) → items.fold step state = .ok final → ∃ values, items = ofList values
  | .close, _ => ⟨[], rfl⟩
  | .item value rest, h => by
    rw [fold, bind_eq_ok_iff] at h
    obtain ⟨next, -, hrest⟩ := h
    obtain ⟨values, rfl⟩ := exists_ofList_of_fold rest hrest
    exact ⟨value :: values, rfl⟩
  | .broken _, h => by cases h

lemma Members.exists_ofList_of_fold {checkKey : σ → String → Except Fault Unit}
    {step : σ → String → Node → Except Fault σ} {state final : σ} :
    (members : Members) → members.fold checkKey step state = .ok final →
      ∃ entries, members = ofList entries
  | .close, _ => ⟨[], rfl⟩
  | .member key value rest, h => by
    simp only [fold, bind_eq_ok_iff] at h
    obtain ⟨_, -, _, -, next, -, hrest⟩ := h
    obtain ⟨entries, rfl⟩ := exists_ofList_of_fold rest hrest
    exact ⟨(key, value) :: entries, rfl⟩
  | .noColon _ _, h => by simp [fold] at h
  | .broken _, h => by cases h

/-- Items are read to their end exactly if they are closed and the fold over their list succeeds. -/
lemma Items.fold_eq_ok_iff {step : σ → Node → Except Fault σ} {state final : σ} {items : Items} :
    items.fold step state = .ok final ↔
      ∃ values, items = ofList values ∧ values.foldlM step state = .ok final := by
  constructor
  · intro h
    obtain ⟨values, rfl⟩ := exists_ofList_of_fold items h
    exact ⟨values, rfl, (fold_ofList step state values).symm.trans h⟩
  · rintro ⟨values, rfl, h⟩
    exact (fold_ofList step state values).trans h

lemma Members.fold_eq_ok_iff {checkKey : σ → String → Except Fault Unit}
    {step : σ → String → Node → Except Fault σ} {state final : σ} {members : Members} :
    members.fold checkKey step state = .ok final ↔
      ∃ entries, members = ofList entries ∧
        entries.foldlM (stepWith checkKey step) state = .ok final := by
  constructor
  · intro h
    obtain ⟨entries, rfl⟩ := exists_ofList_of_fold members h
    exact ⟨entries, rfl, (fold_ofList checkKey step state entries).symm.trans h⟩
  · rintro ⟨entries, rfl, h⟩
    exact (fold_ofList checkKey step state entries).trans h

section Records

variable {Slot : Type} [DecidableEq Slot] {Content : Slot → Type} {format : RecordFormat Slot}
  {read : (slot : Slot) → Node → Except Fault (Content slot)}

/-- What a record does with one of its members: the first value for a slot is taken, and a value for
no slot only has to be complete. -/
lemma RecordFormat.stepWith_eq_ok_iff {draft next : Draft Content} {entry : TextLiteral × Node} :
    Members.stepWith format.checkKey (format.step read) draft entry = .ok next ↔
      ∃ key, entry.1.read = .ok key ∧
        ((∃ slot content, format.slot? key = some slot ∧ draft slot = none ∧
          read slot entry.2 = .ok content ∧ draft.set slot content = next) ∨
        format.slot? key = none ∧ entry.2.IsComplete ∧ draft = next) := by
  simp only [Members.stepWith, bind_eq_ok_iff]
  refine exists_congr fun key => and_congr_right fun _ => ?_
  rw [checkKey, step]
  cases format.slot? key with
  | none => simp [entry.2.skim_eq_ok_iff]
  | some slot =>
    cases hdraft : draft slot with
    | none => simp [hdraft]
    | some content => simp [hdraft]

end Records

end CdsDeclarations.Json
