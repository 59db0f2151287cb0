import CdsDeclarations.Declaration.Basic
import Mathlib.Data.List.Basic
import Mathlib.Tactic.Lemma

/-!
# Lines and blocks of a text

A text is read back as lines, and as blocks of lines between the empty ones. Blocks that are written
with a blank line between one and the next come back unchanged if no line in them is empty or holds
a line feed.
-/

namespace CdsDeclarations

/-- The lines of a text. -/
def textLines (text : String) : List String :=
  (text.toList.splitOn '\n').map String.ofList

/-- The lines of a text in blocks, cut at the empty lines. -/
def textBlocks (text : String) : List (List String) :=
  (textLines text).splitOn ""

/-- A text without a line feed. -/
def OnOneLine (text : String) : Prop :=
  '\n' ∉ text.toList

instance (text : String) : Decidable (OnOneLine text) :=
  inferInstanceAs (Decidable ('\n' ∉ text.toList))

@[simp]
lemma onOneLine_append {front back : String} :
    OnOneLine (front ++ back) ↔ OnOneLine front ∧ OnOneLine back := by
  rw [OnOneLine, String.toList_append, List.mem_append, not_or]
  exact Iff.rfl

/-- At least one line, none of them empty, each without a line feed. -/
structure IsTextBlock (block : List String) : Prop where
  nonempty : block ≠ []
  lines_nonempty : ∀ line ∈ block, line ≠ ""
  lines_onOneLine : ∀ line ∈ block, OnOneLine line

lemma textLines_intercalate {lines : List String} (hlines : lines ≠ [])
    (h : ∀ line ∈ lines, OnOneLine line) : textLines ("\n".intercalate lines) = lines := by
  have hpieces : ∀ piece ∈ lines.map String.toList, '\n' ∉ piece := List.forall_mem_map.mpr h
  have hne : lines.map String.toList ≠ [] := fun hnil => hlines (List.map_eq_nil_iff.mp hnil)
  have hsplit := List.splitOn_intercalate '\n' hpieces hne
  rw [textLines, String.toList_intercalate]
  change (List.splitOn '\n' (['\n'].intercalate (lines.map String.toList))).map String.ofList = lines
  rw [hsplit, List.map_map]
  exact (List.map_congr_left fun line _ => String.ofList_toList).trans (List.map_id lines)

lemma intercalate_blank_ne_nil {blocks : List (List String)} (hblocks : blocks ≠ [])
    (h : ∀ block ∈ blocks, block ≠ []) : [""].intercalate blocks ≠ [] := by
  obtain ⟨block, rest, rfl⟩ := List.exists_cons_of_ne_nil hblocks
  cases rest with
  | nil => simpa using h block List.mem_cons_self
  | cons next others => simp [List.intercalate_cons_cons]

/-- The lines of blocks are written with an empty line between one block and the next. -/
lemma blocksText_eq_intercalate {blocks : List (List String)} (h : ∀ block ∈ blocks, block ≠ []) :
    blocksText (blocks.map "\n".intercalate) = "\n".intercalate ([""].intercalate blocks) := by
  induction blocks with
  | nil => rfl
  | cons block rest ih =>
    obtain ⟨hblock, hrest⟩ := List.forall_mem_cons.mp h
    cases rest with
    | nil => simp [blocksText]
    | cons next others =>
      have hlater := intercalate_blank_ne_nil (List.cons_ne_nil next others) hrest
      have hblank : "\n\n" = "\n" ++ "\n" := rfl
      have hwritten : blocksText ((block :: next :: others).map "\n".intercalate) =
          "\n".intercalate block ++ "\n\n" ++ blocksText ((next :: others).map "\n".intercalate) :=
        String.intercalate_cons_cons
      rw [hwritten, ih hrest, hblank, List.intercalate_cons_cons, List.append_assoc,
        String.intercalate_append_of_ne_nil hblock (by simp), List.singleton_append,
        String.intercalate_cons_of_ne_nil hlater, String.empty_append]
      simp only [String.append_assoc]

lemma mem_intercalate_blank {blocks : List (List String)} {line : String}
    (h : line ∈ [""].intercalate blocks) : line = "" ∨ ∃ block ∈ blocks, line ∈ block := by
  induction blocks with
  | nil => simp at h
  | cons block rest ih =>
    cases rest with
    | nil => exact Or.inr ⟨block, List.mem_cons_self, by simpa using h⟩
    | cons next others =>
      rw [List.intercalate_cons_cons] at h
      rcases List.mem_append.mp h with hfront | hback
      · rcases List.mem_append.mp hfront with hmem | hblank
        · exact Or.inr ⟨block, List.mem_cons_self, hmem⟩
        · exact Or.inl (List.mem_singleton.mp hblank)
      · rcases ih hback with hblank | ⟨other, hother, hmem⟩
        · exact Or.inl hblank
        · exact Or.inr ⟨other, List.mem_cons_of_mem _ hother, hmem⟩

/-- Written blocks are read back. -/
theorem textBlocks_blocksText {blocks : List (List String)} (hblocks : blocks ≠ [])
    (h : ∀ block ∈ blocks, IsTextBlock block) :
    textBlocks (blocksText (blocks.map "\n".intercalate)) = blocks := by
  have hne : ∀ block ∈ blocks, block ≠ [] := fun block hblock => (h block hblock).nonempty
  have hclean : ∀ line ∈ [""].intercalate blocks, OnOneLine line := by
    intro line hline
    rcases mem_intercalate_blank hline with rfl | ⟨block, hblock, hmem⟩
    · decide
    · exact (h block hblock).lines_onOneLine line hmem
  rw [textBlocks, blocksText_eq_intercalate hne,
    textLines_intercalate (intercalate_blank_ne_nil hblocks hne) hclean]
  refine List.splitOn_intercalate "" (fun block hblock hmem => ?_) hblocks
  exact (h block hblock).lines_nonempty "" hmem rfl

lemma getLast?_intercalate (separator : String) {last : String} {texts : List String}
    (hlast : texts.getLast? = some last) (hne : last ≠ "") :
    (separator.intercalate texts).toList.getLast? = last.toList.getLast? := by
  induction texts with
  | nil => cases hlast
  | cons text rest ih =>
    cases rest with
    | nil =>
      obtain rfl : text = last := Option.some.inj hlast
      rw [String.intercalate_singleton]
    | cons next others =>
      have hrest := ih (List.getLast?_cons_cons.symm.trans hlast)
      rw [String.intercalate_cons_cons, String.toList_append, List.getLast?_append, hrest,
        Option.or_of_isSome]
      exact List.getLast?_isSome.mpr fun hnil => hne (String.toList_eq_nil_iff.mp hnil)

/-- A text of blocks does not end in a line feed. -/
lemma getLast?_blocksText_ne {blocks : List (List String)}
    (h : ∀ block ∈ blocks, IsTextBlock block) :
    (blocksText (blocks.map "\n".intercalate)).toList.getLast? ≠ some '\n' := by
  cases hblocks : blocks.getLast? with
  | none =>
    rw [List.getLast?_eq_none_iff.mp hblocks]
    decide
  | some block =>
    have hblock := h block (List.mem_of_getLast? hblocks)
    obtain ⟨line, hlast⟩ := Option.isSome_iff_exists.mp (List.getLast?_isSome.mpr hblock.nonempty)
    have hline := List.mem_of_getLast? hlast
    have hend := getLast?_intercalate "\n" hlast (hblock.lines_nonempty line hline)
    have htext : "\n".intercalate block ≠ "" := by
      intro hempty
      rw [hempty] at hend
      have hnil := List.getLast?_eq_none_iff.mp hend.symm
      exact hblock.lines_nonempty line hline (String.toList_eq_nil_iff.mp hnil)
    have hblockLast : (blocks.map "\n".intercalate).getLast? = some ("\n".intercalate block) := by
      rw [List.getLast?_map, hblocks, Option.map_some]
    rw [blocksText, getLast?_intercalate "\n\n" hblockLast htext, hend]
    exact fun hfeed => hblock.lines_onOneLine line hline (List.mem_of_getLast? hfeed)

end CdsDeclarations
