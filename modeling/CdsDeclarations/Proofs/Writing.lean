import CdsDeclarations.Generation.Output
import Mathlib.Data.List.Nodup
import Mathlib.Tactic.Lemma

/-!
# Writing documents

Documents are refused for a path that is a directory exactly if two of them have the same file name
in lower case. Once they are not refused, only the file system can stop their writing.
-/

namespace CdsDeclarations

/-- The key by which the writer compares the file names of documents. -/
def Document.fileKey (document : Document) : String :=
  lowercase document.fileName

lemma duplicate?_eq_none_iff (seen : List String) (documents : List Document) :
    duplicate? seen documents = none ↔
      (documents.map Document.fileKey).Nodup ∧ ∀ document ∈ documents, document.fileKey ∉ seen := by
  induction documents generalizing seen with
  | nil => simp [duplicate?]
  | cons document rest ih =>
    rw [List.map_cons, List.nodup_cons]
    change (if seen.contains document.fileKey then some document
      else duplicate? (document.fileKey :: seen) rest) = none ↔ _
    by_cases hseen : document.fileKey ∈ seen
    · rw [if_pos (List.contains_iff_mem.mpr hseen)]
      constructor
      · exact fun h => absurd h (by simp)
      · exact fun h => absurd hseen (h.2 document List.mem_cons_self)
    · rw [if_neg (fun h => hseen (List.contains_iff_mem.mp h)), ih]
      constructor
      · rintro ⟨hnodup, hfresh⟩
        refine ⟨⟨?_, hnodup⟩, ?_⟩
        · intro hmem
          obtain ⟨other, hother, hkey⟩ := List.mem_map.mp hmem
          exact hfresh other hother (hkey ▸ List.mem_cons_self)
        · intro other hother
          rcases List.mem_cons.mp hother with rfl | hother
          · exact hseen
          · exact fun hmem => hfresh other hother (List.mem_cons_of_mem _ hmem)
      · rintro ⟨⟨hfirst, hnodup⟩, hfresh⟩
        refine ⟨hnodup, fun other hother hmem => ?_⟩
        rcases List.mem_cons.mp hmem with hkey | hmem
        · exact hfirst (List.mem_map.mpr ⟨other, hother, hkey⟩)
        · exact hfresh other (List.mem_cons_of_mem _ hother) hmem

/-- A report that documents do not fit where they should go. -/
def WriteReport.Refuses (report : WriteReport) : Prop :=
  ∃ path problem, report.result = .error (.output path problem)

lemma WriteReport.refuses_wrote (path content : String) (report : WriteReport) :
    (WriteReport.wrote path content report).Refuses ↔ report.Refuses := by
  unfold Refuses WriteReport.wrote
  cases report.result <;> simp [Except.map]

section Runs

variable {tree next made : FileTree} {path content : String} {fault : FileFault}

lemma writeFiles_cons_error (h : tree.writeText path content = .error fault)
    (rest : List (String × String)) :
    FileTree.system.writeFiles ((path, content) :: rest) tree = (.failed (.file fault), tree) := by
  have hstep : FileTree.system.writeText path content tree = (.error fault, tree) := by
    simp [FileTree.system, h]
  simp only [FileSystem.writeFiles, bind, StateT.bind, hstep]
  rfl

lemma writeFiles_cons_ok (h : tree.writeText path content = .ok next)
    (rest : List (String × String)) :
    FileTree.system.writeFiles ((path, content) :: rest) tree =
      (.wrote path content (FileTree.system.writeFiles rest next).1,
        (FileTree.system.writeFiles rest next).2) := by
  have hstep : FileTree.system.writeText path content tree = (.ok (), next) := by
    simp [FileTree.system, h]
  simp only [FileSystem.writeFiles, bind, StateT.bind, hstep]
  rfl

lemma execute_error {plan : OutputPlan}
    (h : tree.makeDirectories plan.directory = (made, .error fault)) :
    FileTree.system.execute plan tree = (.failed (.file fault), made) := by
  have hstep : FileTree.system.makeDirectories plan.directory tree = (.error fault, made) := by
    simp [FileTree.system, h]
  simp only [FileSystem.execute, bind, StateT.bind, hstep]
  rfl

lemma execute_ok {plan : OutputPlan} (h : tree.makeDirectories plan.directory = (made, .ok ())) :
    FileTree.system.execute plan tree = FileTree.system.writeFiles plan.files made := by
  have hstep : FileTree.system.makeDirectories plan.directory tree = (.ok (), made) := by
    simp [FileTree.system, h]
  simp only [FileSystem.execute, bind, StateT.bind, hstep]

lemma writeDocuments_error {documents : List Document} {failure : Failure}
    (h : OutputPlan.ofDocuments documents path = .error failure) (tree : FileTree) :
    FileTree.system.writeDocuments documents path tree = (.failed failure, tree) := by
  rw [FileSystem.writeDocuments, h]
  rfl

lemma writeDocuments_ok {documents : List Document} {plan : OutputPlan}
    (h : OutputPlan.ofDocuments documents path = .ok plan) (tree : FileTree) :
    FileTree.system.writeDocuments documents path tree = FileTree.system.execute plan tree := by
  rw [FileSystem.writeDocuments, h]

end Runs

lemma not_refuses_file (fault : FileFault) : ¬(WriteReport.failed (.file fault)).Refuses := by
  rintro ⟨path, problem, h⟩
  cases h

lemma writeFiles_not_refuses (files : List (String × String)) (tree : FileTree) :
    ¬(FileTree.system.writeFiles files tree).1.Refuses := by
  induction files generalizing tree with
  | nil => rintro ⟨path, problem, h⟩; cases h
  | cons file rest ih =>
    obtain ⟨path, content⟩ := file
    cases hwrite : tree.writeText path content with
    | error fault =>
      rw [writeFiles_cons_error hwrite]
      exact not_refuses_file fault
    | ok next =>
      rw [writeFiles_cons_ok hwrite, WriteReport.refuses_wrote]
      exact ih next

lemma execute_not_refuses (plan : OutputPlan) (tree : FileTree) :
    ¬(FileTree.system.execute plan tree).1.Refuses := by
  cases hmade : tree.makeDirectories plan.directory with
  | mk made result =>
    cases result with
    | error fault =>
      rw [execute_error hmade]
      exact not_refuses_file fault
    | ok done =>
      rw [execute_ok hmade]
      exact writeFiles_not_refuses plan.files made

/-- Documents are refused for a directory exactly if their file names in lower case are not
distinct, whatever the file system holds. -/
theorem writeDocuments_refuses_iff (documents : List Document) {path : String}
    (hpath : Path.isSourceFile path = false) (tree : FileTree) :
    (FileTree.system.writeDocuments documents path tree).1.Refuses ↔
      ¬(documents.map Document.fileKey).Nodup := by
  have hplan : OutputPlan.ofDocuments documents path = OutputPlan.ofDirectory documents path := by
    rw [OutputPlan.ofDocuments, hpath, if_neg Bool.false_ne_true]
  have hiff := duplicate?_eq_none_iff [] documents
  unfold FileSystem.writeDocuments
  rw [hplan, OutputPlan.ofDirectory]
  cases hduplicate : duplicate? [] documents with
  | none =>
    have hnodup := (hiff.mp hduplicate).1
    exact ⟨fun h => absurd h (execute_not_refuses _ tree), fun h => absurd hnodup h⟩
  | some document =>
    refine ⟨fun _ hnodup => ?_, fun _ => ⟨_, _, rfl⟩⟩
    rw [hiff.mpr ⟨hnodup, fun _ _ => List.not_mem_nil⟩] at hduplicate
    cases hduplicate

end CdsDeclarations
