import CdsDeclarations.Proofs.FileTrees
import CdsDeclarations.Proofs.Imports
import CdsDeclarations.Proofs.Paths

/-!
# Written files

Documents that are refused leave the file tree as it is. When all of them are written, every one is
read back from its own path, and nothing else has changed but that the directories on the way there
have been made.
-/

namespace CdsDeclarations

open Identifier

/-- The paths that documents are written to. -/
def targetPaths (documents : List Document) (path : String) : List String :=
  if Path.isSourceFile path then [path]
  else documents.map fun document => Path.join path document.fileName

/-- The names of the directory that documents are written to. -/
def directoryNames (path : String) : List String :=
  if Path.isSourceFile path then (Path.names path).dropLast else Path.names path

/-- A run that wrote files: no directory is gone, other places are as they were, and files in places
of their own are read back. -/
structure FilesWritten (files : List (String × String)) (tree after : FileTree) : Prop where
  keeps : tree.KeepsDirectories after
  others : ∀ place, place ∉ files.map (fun file => Place.ofPath file.1) →
    after.get? place = tree.get? place
  readBack : (files.map fun file => Place.ofPath file.1).Nodup →
    ∀ file ∈ files, after.readText file.1 = .ok file.2

lemma FilesWritten.cons {path content : String} {rest : List (String × String)}
    {tree next after : FileTree} (hwrite : tree.writeText path content = .ok next)
    (h : FilesWritten rest next after) : FilesWritten ((path, content) :: rest) tree after where
  keeps := (FileTree.keepsDirectories_of_writeText hwrite).trans h.keeps
  others place hplace := by
    rw [List.map_cons, List.mem_cons, not_or] at hplace
    rw [h.others place hplace.2, FileTree.get?_of_writeText hwrite, if_neg hplace.1]
  readBack hnodup file hfile := by
    rw [List.map_cons, List.nodup_cons] at hnodup
    rcases List.mem_cons.mp hfile with rfl | hrest
    · have hsame := h.others (.ofPath path) hnodup.1
      exact FileTree.readText_of_keepsDirectories h.keeps hsame
        (FileTree.readText_of_writeText hwrite)
    · exact h.readBack hnodup.2 file hrest

/-- When all files are written, their paths are listed in order. -/
lemma filesWritten_writeFiles {files : List (String × String)} {tree : FileTree}
    {written : List String}
    (h : (FileTree.system.writeFiles files tree).1.result = .ok written) :
    written = files.map Prod.fst ∧
      FilesWritten files tree (FileTree.system.writeFiles files tree).2 := by
  induction files generalizing tree written with
  | nil =>
    obtain rfl := Except.ok.inj h
    exact ⟨rfl, fun _ hplace => hplace, fun _ _ => rfl,
      fun _ _ hfile => absurd hfile List.not_mem_nil⟩
  | cons file rest ih =>
    obtain ⟨path, content⟩ := file
    cases hwrite : tree.writeText path content with
    | error fault =>
      rw [writeFiles_cons_error hwrite] at h
      cases h
    | ok next =>
      rw [writeFiles_cons_ok hwrite] at h ⊢
      cases hrest : (FileTree.system.writeFiles rest next).1.result with
      | error failure =>
        rw [WriteReport.wrote, hrest] at h
        cases h
      | ok others =>
        rw [WriteReport.wrote, hrest] at h
        obtain rfl := Except.ok.inj h
        obtain ⟨rfl, hfiles⟩ := ih hrest
        exact ⟨rfl, hfiles.cons hwrite⟩

section Places

lemma Place.ofPath_join (directory : String) {name : String} (h : Path.IsComponent name) :
    Place.ofPath (Path.join directory name) = Place.ofPath directory ++ [name] := by
  rw [Place.ofPath, Path.names_join directory h, Place.ofNames, List.foldl_append]
  exact if_neg h.notParent

lemma places_nodup {documents : List Document} (directory : String)
    (hcomponents : ∀ document ∈ documents, Path.IsComponent document.fileName)
    (hkeys : (documents.map Document.fileKey).Nodup) :
    (documents.map fun document => Place.ofPath (Path.join directory document.fileName)).Nodup := by
  have hinj := List.inj_on_of_nodup_map hkeys
  refine (List.nodup_map_iff_inj_on hkeys.of_map).mpr ?_
  intro document hdocument other hother hplace
  rw [Place.ofPath_join directory (hcomponents document hdocument),
    Place.ofPath_join directory (hcomponents other hother)] at hplace
  have hname : document.fileName = other.fileName := by
    simpa using List.append_cancel_left hplace
  exact hinj hdocument hother (congrArg lowercase hname)

end Places

/-- A plan that takes the documents to a path in their order. -/
structure OutputPlan.Carries (plan : OutputPlan) (documents : List Document) (path : String) :
    Prop where
  paths : plan.files.map Prod.fst = targetPaths documents path
  contents : plan.files.map Prod.snd = documents.map Document.content
  directory : Path.names plan.directory = directoryNames path
  alone : Path.isSourceFile path = true → documents.length = 1
  apart : (∀ document ∈ documents, Path.IsComponent document.fileName) →
    (plan.files.map fun file => Place.ofPath file.1).Nodup

lemma carries_of_ofDocuments {documents : List Document} {path : String} {plan : OutputPlan}
    (h : OutputPlan.ofDocuments documents path = .ok plan) : plan.Carries documents path := by
  rw [OutputPlan.ofDocuments] at h
  by_cases hpath : Path.isSourceFile path = true
  · rw [if_pos hpath] at h
    unfold OutputPlan.ofSourceFile at h
    split at h
    · next document =>
      obtain rfl := Except.ok.inj h
      refine ⟨?_, rfl, ?_, fun _ => rfl, fun _ => List.nodup_singleton _⟩
      · rw [targetPaths, if_pos hpath]
        rfl
      · rw [directoryNames, if_pos hpath, ← Path.names_parent]
    · cases h
  · rw [if_neg hpath] at h
    unfold OutputPlan.ofDirectory at h
    split at h
    · cases h
    · next hduplicate =>
      have hkeys := ((duplicate?_eq_none_iff [] documents).mp hduplicate).1
      obtain rfl := Except.ok.inj h
      refine ⟨?_, ?_, ?_, fun hfile => absurd hfile hpath, fun hcomponents => ?_⟩
      · rw [targetPaths, if_neg hpath, List.map_map]
        rfl
      · rw [List.map_map]
        rfl
      · rw [directoryNames, if_neg hpath]
      · simpa only [List.map_map, Function.comp_def] using places_nodup path hcomponents hkeys

lemma execute_eq_ok {plan : OutputPlan} {tree : FileTree} {written : List String}
    (h : (FileTree.system.execute plan tree).1.result = .ok written) :
    written = plan.files.map Prod.fst ∧
      ∃ made, tree.MakesWay (Path.names plan.directory) made ∧
        FilesWritten plan.files made (FileTree.system.execute plan tree).2 := by
  have hway := tree.makesWay_makeDirectories plan.directory
  cases hmade : tree.makeDirectories plan.directory with
  | mk made result =>
    rw [hmade] at hway
    cases result with
    | error fault =>
      rw [execute_error hmade] at h
      cases h
    | ok done =>
      rw [execute_ok hmade] at h ⊢
      obtain ⟨hwritten, hfiles⟩ := filesWritten_writeFiles h
      exact ⟨hwritten, made, hway, hfiles⟩

lemma forall₂_readText {files : List (String × String)} {documents : List Document}
    {tree : FileTree} (hcontents : files.map Prod.snd = documents.map Document.content)
    (hread : ∀ file ∈ files, tree.readText file.1 = .ok file.2) :
    List.Forall₂ (fun file document => tree.readText file = .ok document.content)
      (files.map Prod.fst) documents := by
  induction files generalizing documents with
  | nil =>
    rw [List.map_eq_nil_iff.mp hcontents.symm]
    exact .nil
  | cons file rest ih =>
    cases documents with
    | nil => cases hcontents
    | cons document others =>
      obtain ⟨hcontent, hrest⟩ := List.cons.inj hcontents
      have hfile := hread file List.mem_cons_self
      exact .cons (hcontent ▸ hfile)
        (ih hrest fun other hother => hread other (List.mem_cons_of_mem file hother))

lemma isComponent_fileName (stem : String) (h : '/' ∉ stem.toList) :
    Path.IsComponent (stem ++ fileSuffix) := by
  have hlength : (stem ++ fileSuffix).toList.length = stem.toList.length + 3 := by
    rw [String.toList_append, List.length_append]
    rfl
  have hne : ∀ name : String, name.toList.length < 3 → stem ++ fileSuffix ≠ name := by
    rintro name hname rfl
    omega
  refine ⟨hne "" (by decide), ?_, hne "." (by decide), hne Path.parentName (by decide)⟩
  rw [String.toList_append, List.mem_append, not_or]
  exact ⟨h, by decide⟩

lemma Schema.isComponent_of_mem_documents {schema : Schema} {config : Config}
    (hprefixed : '/' ∉ config.interfacePrefix.toList) :
    ∀ document ∈ schema.documents config, Path.IsComponent document.fileName := by
  rw [documents, List.forall_mem_map, sourceFiles]
  cases config.mode with
  | single =>
    rw [List.forall_mem_singleton]
    exact isComponent_fileName "index" (by decide)
  | perDefinition =>
    rw [List.forall_mem_map]
    intro placed hplaced
    have hslash : isAllowed '/' = false := isAllowed_eq_false (by decide) (by decide) (by decide)
    exact isComponent_fileName placed.stem (not_mem_stem hplaced hslash hprefixed)

section Runs

variable {documents : List Document} {path : String} {tree : FileTree}

lemma tree_of_refuses (h : (FileTree.system.writeDocuments documents path tree).1.Refuses) :
    (FileTree.system.writeDocuments documents path tree).2 = tree := by
  cases hplan : OutputPlan.ofDocuments documents path with
  | error failure => rw [writeDocuments_error hplan]
  | ok plan =>
    rw [writeDocuments_ok hplan] at h
    exact absurd h (execute_not_refuses plan tree)

lemma exists_plan_of_writeDocuments {written : List String}
    (h : (FileTree.system.writeDocuments documents path tree).1.result = .ok written) :
    ∃ (plan : OutputPlan) (made : FileTree),
      plan.Carries documents path ∧ written = plan.files.map Prod.fst ∧
      tree.MakesWay (Path.names plan.directory) made ∧
      FilesWritten plan.files made (FileTree.system.writeDocuments documents path tree).2 := by
  cases hplan : OutputPlan.ofDocuments documents path with
  | error failure =>
    rw [writeDocuments_error hplan] at h
    cases h
  | ok plan =>
    rw [writeDocuments_ok hplan] at h ⊢
    obtain ⟨hwritten, made, hway, hfiles⟩ := execute_eq_ok h
    exact ⟨plan, made, carries_of_ofDocuments hplan, hwritten, hway, hfiles⟩

end Runs

/-- Refused documents leave the tree as it is. Otherwise, if no fault stops the writing, the paths
are listed in the order of the documents, every document is read back from its path, and every other
place is as it was, or a missing directory on the way that has been made. The file names that are
required for this are those of all generated documents if the prefix has no slash. A tree has no
links, so that two places are always two files. -/
theorem documents_all_written_or_none (documents : List Document) (path : String)
    (tree : FileTree) :
    let run := FileTree.system.writeDocuments documents path tree
    (run.1.Refuses → run.2 = tree) ∧
    (∀ written, run.1.result = .ok written →
      (∀ document ∈ documents, Path.IsComponent document.fileName) →
      (Path.isSourceFile path = true → documents.length = 1) ∧
      written = targetPaths documents path ∧
      List.Forall₂ (fun file document => run.2.readText file = .ok document.content)
        written documents ∧
      ∀ place, place ∉ written.map Place.ofPath →
        run.2.get? place = tree.get? place ∨
          tree.get? place = none ∧ run.2.get? place = some .directory ∧
            ∃ front, front <+: directoryNames path ∧ place = .ofNames front) ∧
    ∀ schema config, documents = Schema.documents schema config →
      '/' ∉ config.interfacePrefix.toList →
        ∀ document ∈ documents, Path.IsComponent document.fileName := by
  intro run
  refine ⟨tree_of_refuses, ?_, ?_⟩
  · intro written hwritten hcomponents
    obtain ⟨plan, made, hcarries, rfl, hway, hfiles⟩ := exists_plan_of_writeDocuments hwritten
    have hread := hfiles.readBack (hcarries.apart hcomponents)
    refine ⟨hcarries.alone, hcarries.paths, forall₂_readText hcarries.contents hread, ?_⟩
    intro place hplace
    rw [List.map_map] at hplace
    rw [hfiles.others place hplace, ← hcarries.directory]
    exact hway place
  · rintro schema config rfl hprefixed
    exact Schema.isComponent_of_mem_documents hprefixed

/-- Two documents of one name in lower case are refused, and two others go to a new directory. -/
theorem books_and_authors_written :
    let twins : List Document := [⟨"Books.ts", "a"⟩, ⟨"books.ts", "b"⟩]
    let documents : List Document := [⟨"Books.ts", "a"⟩, ⟨"Authors.ts", "b"⟩]
    let refused := FileTree.system.writeDocuments twins "out/types" .empty
    let run := FileTree.system.writeDocuments documents "out/types" .empty
    (refused.1.Refuses ∧ refused.2 = .empty) ∧
    run.1.result = .ok ["out/types/Books.ts", "out/types/Authors.ts"] ∧
    (∀ document ∈ documents, Path.IsComponent document.fileName) ∧
    List.Forall₂ (fun file document => run.2.readText file = .ok document.content)
      ["out/types/Books.ts", "out/types/Authors.ts"] documents := by
  intro twins documents
  obtain ⟨hunchanged, -⟩ := documents_all_written_or_none twins "out/types" .empty
  obtain ⟨-, hlisted, -⟩ := documents_all_written_or_none documents "out/types" .empty
  have hrefused : (FileTree.system.writeDocuments twins "out/types" .empty).1.Refuses :=
    ⟨"out/types/books.ts", "more than one document has this file name", by decide +kernel⟩
  have hresult : (FileTree.system.writeDocuments documents "out/types" .empty).1.result =
      .ok ["out/types/Books.ts", "out/types/Authors.ts"] := by
    decide +kernel
  have hcomponents : ∀ document ∈ documents, Path.IsComponent document.fileName := by
    rw [List.forall_mem_cons, List.forall_mem_singleton]
    exact ⟨⟨by decide, by decide, by decide, by decide⟩,
      ⟨by decide, by decide, by decide, by decide⟩⟩
  obtain ⟨-, -, hread, -⟩ := hlisted _ hresult hcomponents
  exact ⟨⟨hrefused, hunchanged hrefused⟩, hresult, hcomponents, hread⟩

end CdsDeclarations
