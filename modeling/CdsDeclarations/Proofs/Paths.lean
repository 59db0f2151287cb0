import CdsDeclarations.Files.Path
import Mathlib.Data.List.Basic
import Mathlib.Tactic.Lemma

/-!
# Names on paths

The names on a path are cut at its slashes. Joining puts a name behind those of a directory, and the
parent of a path has all of them but the last.
-/

namespace CdsDeclarations.Path

/-- A name that leads one step down from wherever it is used. -/
structure IsComponent (name : String) : Prop where
  nonempty : name ≠ ""
  noSlash : '/' ∉ name.toList
  notDot : name ≠ "."
  notParent : name ≠ parentName

lemma pieces_eq_splitOn (chars : List Char) : pieces chars = chars.splitOn '/' := by
  induction chars with
  | nil => rfl
  | cons c rest ih =>
    rw [pieces, List.splitOn_cons_eq_if_modifyHead, ← ih]
    by_cases hc : c = '/'
    · simp [hc]
    · have hpieces : pieces rest ≠ [] := ih ▸ List.splitOn_ne_nil '/' rest
      obtain ⟨piece, others, hcons⟩ := List.exists_cons_of_ne_nil hpieces
      rw [if_neg hc, if_neg (by simpa using hc), hcons, List.modifyHead_cons]

lemma pieces_append_slash (front back : List Char) :
    pieces (front ++ '/' :: back) = pieces front ++ pieces back := by
  rw [pieces_eq_splitOn, pieces_eq_splitOn, pieces_eq_splitOn, List.splitOn_append_cons_self]

lemma slash_not_mem_of_mem_pieces {chars piece : List Char} (h : piece ∈ pieces chars) :
    '/' ∉ piece := by
  induction chars generalizing piece with
  | nil =>
    rw [List.mem_singleton.mp h]
    exact List.not_mem_nil
  | cons c rest ih =>
    rw [pieces] at h
    by_cases hc : c = '/'
    · rw [if_pos hc] at h
      rcases List.mem_cons.mp h with rfl | h
      · exact List.not_mem_nil
      · exact ih h
    · rw [if_neg hc] at h
      cases hpieces : pieces rest with
      | nil =>
        rw [hpieces] at h
        rw [List.mem_singleton.mp h, List.mem_singleton]
        exact fun heq => hc heq.symm
      | cons first others =>
        rw [hpieces] at h ih
        rcases List.mem_cons.mp h with rfl | h
        · rw [List.mem_cons, not_or]
          exact ⟨fun heq => hc heq.symm, ih List.mem_cons_self⟩
        · exact ih (List.mem_cons_of_mem first h)

/-- What stands between two slashes and is a name. -/
structure IsName (name : String) : Prop where
  nonempty : name ≠ ""
  noSlash : '/' ∉ name.toList
  notDot : name ≠ "."

lemma IsComponent.isName {name : String} (h : IsComponent name) : IsName name :=
  ⟨h.nonempty, h.noSlash, h.notDot⟩

lemma isName_of_mem_names {path name : String} (h : name ∈ names path) : IsName name := by
  obtain ⟨piece, hpiece, rfl⟩ := List.mem_map.mp h
  obtain ⟨hmem, hkept⟩ := List.mem_filter.mp hpiece
  simp only [ne_eq, Bool.and_eq_true, decide_eq_true_eq] at hkept
  have hdot : "." = String.ofList ['.'] := rfl
  refine ⟨fun hempty => hkept.1 ?_, ?_, fun hsame => hkept.2 ?_⟩
  · simpa using hempty
  · rw [String.toList_ofList]
    exact slash_not_mem_of_mem_pieces hmem
  · rw [hdot] at hsame
    exact String.ofList_injective hsame

lemma names_empty : names "" = [] := rfl

lemma names_append_slash (front back : String) :
    names (front ++ "/" ++ back) = names front ++ names back := by
  have hchars : (front ++ "/" ++ back).toList = front.toList ++ '/' :: back.toList := by
    rw [String.toList_append, String.toList_append, List.append_assoc]
    rfl
  rw [names, hchars, pieces_append_slash, List.filter_append, List.map_append]
  rfl

/-- The names that a path is written with come back. -/
lemma names_intercalate {path : List String} (h : ∀ name ∈ path, IsName name) :
    names ("/".intercalate path) = path := by
  cases path with
  | nil => rfl
  | cons first rest =>
    have hpieces : pieces ("/".intercalate (first :: rest)).toList =
        (first :: rest).map String.toList := by
      rw [pieces_eq_splitOn, String.toList_intercalate]
      refine List.splitOn_intercalate '/' (List.forall_mem_map.mpr fun name hname => ?_) (by simp)
      exact (h name hname).noSlash
    have hkept : ((first :: rest).map String.toList).filter
        (fun piece => piece ≠ [] && piece ≠ ['.']) = (first :: rest).map String.toList := by
      refine List.filter_eq_self.mpr (List.forall_mem_map.mpr fun name hname => ?_)
      have hnonempty : name.toList ≠ [] := by simpa using (h name hname).nonempty
      have hdot : name.toList ≠ ['.'] :=
        fun heq => (h name hname).notDot (String.toList_injective heq)
      simp [hnonempty, hdot]
    rw [names, hpieces, hkept, List.map_map]
    exact (List.map_congr_left fun name _ => String.ofList_toList).trans (List.map_id _)

lemma names_of_isName {name : String} (h : IsName name) : names name = [name] := by
  have hall : ∀ other ∈ [name], IsName other := by simpa using h
  have hsingle := names_intercalate hall
  rwa [String.intercalate_singleton] at hsingle

/-- Joining puts a component behind the names of the directory. -/
theorem names_join (directory : String) {name : String} (h : IsComponent name) :
    names (join directory name) = names directory ++ [name] := by
  have hrelative : isAbsolute name = false := by
    rw [isAbsolute]
    cases hchars : name.toList with
    | nil => rfl
    | cons c rest =>
      have hc : c ≠ '/' := fun heq => h.noSlash (by rw [hchars, heq]; exact List.mem_cons_self)
      simpa [List.isPrefixOf] using Ne.symm hc
  have hname := names_of_isName h.isName
  rw [join, hrelative, Bool.false_or]
  by_cases hempty : directory = ""
  · simp [hempty, hname, names_empty]
  · rw [if_neg (by simpa using hempty)]
    by_cases hslash : ['/'].isSuffixOf directory.toList
    · rw [if_pos hslash]
      obtain ⟨front, hfront⟩ := List.isSuffixOf_iff_suffix.mp hslash
      have hdirectory : directory = String.ofList front ++ "/" ++ "" := by
        rw [String.append_empty]
        apply String.toList_injective
        rw [← hfront, String.toList_append, String.toList_ofList]
        rfl
      rw [hdirectory, names_append_slash, String.append_empty, names_append_slash, hname,
        names_empty, List.append_nil]
    · rw [if_neg hslash, names_append_slash, hname]

theorem names_parent (path : String) : names (parent path) = (names path).dropLast := by
  have hnames : names ("/".intercalate (names path).dropLast) = (names path).dropLast :=
    names_intercalate fun name hname => isName_of_mem_names ((List.dropLast_sublist _).subset hname)
  rw [parent]
  by_cases habsolute : isAbsolute path = true
  · have hroot := names_append_slash "" ("/".intercalate (names path).dropLast)
    rw [String.empty_append, names_empty, List.nil_append] at hroot
    rw [if_pos habsolute, hroot, hnames]
  · rw [if_neg habsolute, String.empty_append, hnames]

end CdsDeclarations.Path
