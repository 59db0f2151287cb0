import CdsDeclarations.Proofs.WrittenFiles

/-!
# Confinement

Whatever names a model holds, each of its files is named by a single name that ends in the suffix of
source files. Written to a directory, the files lie right in it, even if a fault stops the writing
halfway.
-/

namespace CdsDeclarations

open Identifier

/-- The name of a source file that leads one step down and nowhere else. -/
structure Path.IsSourceName (name : String) : Prop extends IsComponent name where
  noNul : '\x00' ∉ name.toList
  suffixed : fileSuffix.toList <:+ name.toList

section FileNames

variable {schema : Schema} {config : Config} {document : Document}

/-- What no identifier holds gets into the stem of a file with the prefix alone. -/
lemma Schema.exists_stem_of_mem_documents (hdocument : document ∈ schema.documents config) :
    ∃ stem, document.fileName = stem ++ fileSuffix ∧
      ∀ c, isAllowed c = false → c ∉ config.interfacePrefix.toList → c ∉ stem.toList := by
  rw [documents, sourceFiles] at hdocument
  obtain ⟨file, hfile, rfl⟩ := List.mem_map.mp hdocument
  cases hmode : config.mode with
  | single =>
    rw [hmode] at hfile
    obtain rfl := List.mem_singleton.mp hfile
    have hletters : IsIdentifier "index".toList := by
      refine isIdentifier_of_letters fun c hc => ?_
      have hall : "index".toList.all Char.isAlpha := by decide
      exact List.all_eq_true.mp hall c hc
    refine ⟨"index", rfl, fun c hc _ hmem => ?_⟩
    exact Bool.false_ne_true (hc.symm.trans (hletters.allowed c hmem))
  | perDefinition =>
    rw [hmode] at hfile
    obtain ⟨placed, hplaced, rfl⟩ := List.mem_map.mp hfile
    exact ⟨placed.stem, rfl, fun c hc hprefixed => not_mem_stem hplaced hc hprefixed⟩

lemma Schema.isSourceName_of_mem_documents (hslash : '/' ∉ config.interfacePrefix.toList)
    (hnul : '\x00' ∉ config.interfacePrefix.toList)
    (hdocument : document ∈ schema.documents config) :
    Path.IsSourceName document.fileName := by
  obtain ⟨stem, hname, hstem⟩ := exists_stem_of_mem_documents hdocument
  have hnoSlash : '/' ∉ stem.toList :=
    hstem '/' (isAllowed_eq_false (by decide) (by decide) (by decide)) hslash
  have hnoNul : '\x00' ∉ stem.toList :=
    hstem '\x00' (isAllowed_eq_false (by decide) (by decide) (by decide)) hnul
  rw [hname]
  refine ⟨isComponent_fileName stem hnoSlash, ?_, ?_⟩
  · rw [String.toList_append, List.mem_append, not_or]
    exact ⟨hnoNul, by decide⟩
  · rw [String.toList_append]
    exact List.suffix_append _ _

end FileNames

namespace FileTree

/-- A change that at most writes files of a list. -/
def WritesAmong (files : List (String × String)) (tree after : FileTree) : Prop :=
  ∀ place, after.get? place = tree.get? place ∨
    ∃ file ∈ files, place = .ofPath file.1 ∧ after.get? place = some (.file (.text file.2))

/-- A change that at most makes directories on the way to a directory and puts documents right in
it. -/
def StaysWithin (directory : String) (documents : List Document) (tree after : FileTree) : Prop :=
  ∀ place, after.get? place = tree.get? place ∨
    (tree.get? place = none ∧ after.get? place = some .directory ∧
      ∃ front, front <+: Path.names directory ∧ place = .ofNames front) ∨
    ∃ document ∈ documents, place = Place.ofPath directory ++ [document.fileName] ∧
      after.get? place = some (.file (.text document.content))

lemma WritesAmong.refl (files : List (String × String)) (tree : FileTree) :
    tree.WritesAmong files tree :=
  fun _ => Or.inl rfl

lemma WritesAmong.cons {path content : String} {rest : List (String × String)}
    {tree next after : FileTree} (hwrite : tree.writeText path content = .ok next)
    (h : next.WritesAmong rest after) : tree.WritesAmong ((path, content) :: rest) after := by
  intro place
  rcases h place with hsame | ⟨file, hfile, hplace, hwritten⟩
  · rw [hsame, get?_of_writeText hwrite]
    by_cases hplace : place = .ofPath path
    · exact Or.inr ⟨(path, content), List.mem_cons_self, hplace, if_pos hplace⟩
    · exact Or.inl (if_neg hplace)
  · exact Or.inr ⟨file, List.mem_cons_of_mem _ hfile, hplace, hwritten⟩

/-- However far the writing gets, nothing but the listed files has changed. -/
lemma writesAmong_writeFiles (files : List (String × String)) (tree : FileTree) :
    tree.WritesAmong files (FileTree.system.writeFiles files tree).2 := by
  induction files generalizing tree with
  | nil => exact .refl [] tree
  | cons file rest ih =>
    obtain ⟨path, content⟩ := file
    cases hwrite : tree.writeText path content with
    | error fault =>
      rw [writeFiles_cons_error hwrite]
      exact .refl _ tree
    | ok next =>
      rw [writeFiles_cons_ok hwrite]
      exact (ih next).cons hwrite

lemma exists_made_of_execute (plan : OutputPlan) (tree : FileTree) :
    ∃ made, tree.MakesWay (Path.names plan.directory) made ∧
      made.WritesAmong plan.files (FileTree.system.execute plan tree).2 := by
  have hway := tree.makesWay_makeDirectories plan.directory
  cases hmade : tree.makeDirectories plan.directory with
  | mk made result =>
    rw [hmade] at hway
    cases result with
    | error fault =>
      rw [execute_error hmade]
      exact ⟨made, hway, .refl _ made⟩
    | ok done =>
      rw [execute_ok hmade]
      exact ⟨made, hway, writesAmong_writeFiles plan.files made⟩

end FileTree

lemma ofDocuments_of_directory {documents : List Document} {directory : String} {plan : OutputPlan}
    (hdirectory : Path.isSourceFile directory = false)
    (h : OutputPlan.ofDocuments documents directory = .ok plan) :
    plan = ⟨directory, documents.map fun document =>
      (Path.join directory document.fileName, document.content)⟩ := by
  rw [OutputPlan.ofDocuments, hdirectory, if_neg Bool.false_ne_true] at h
  unfold OutputPlan.ofDirectory at h
  split at h
  · cases h
  · exact (Except.ok.inj h).symm

/-- Documents that are named by components change nothing outside the directory they are written to,
whatever comes of the writing. -/
theorem staysWithin_writeDocuments {documents : List Document} {directory : String}
    (hcomponents : ∀ document ∈ documents, Path.IsComponent document.fileName)
    (hdirectory : Path.isSourceFile directory = false) (tree : FileTree) :
    tree.StaysWithin directory documents
      (FileTree.system.writeDocuments documents directory tree).2 := by
  intro place
  cases hplan : OutputPlan.ofDocuments documents directory with
  | error failure =>
    rw [writeDocuments_error hplan]
    exact Or.inl rfl
  | ok plan =>
    rw [writeDocuments_ok hplan]
    obtain ⟨made, hway, hwritten⟩ := FileTree.exists_made_of_execute plan tree
    obtain rfl := ofDocuments_of_directory hdirectory hplan
    rcases hwritten place with hsame | ⟨file, hfile, hplace, hread⟩
    · rw [hsame]
      exact (hway place).imp_right Or.inl
    · obtain ⟨document, hdocument, rfl⟩ := List.mem_map.mp hfile
      have hjoined := Place.ofPath_join directory (hcomponents document hdocument)
      exact Or.inr (Or.inr ⟨document, hdocument, hplace.trans hjoined, hread⟩)

/-- If the prefix has neither a slash nor a NUL, the names of a model's files have none either, end
in their suffix and are no dots. So every file that is written to a directory lies right in it. -/
theorem files_lie_in_directory (schema : Schema) (config : Config)
    (hslash : '/' ∉ config.interfacePrefix.toList)
    (hnul : '\x00' ∉ config.interfacePrefix.toList) :
    (∀ document ∈ schema.documents config, Path.IsSourceName document.fileName) ∧
    ∀ directory, Path.isSourceFile directory = false →
      (∀ document ∈ schema.documents config,
        Path.names (Path.join directory document.fileName) =
          Path.names directory ++ [document.fileName]) ∧
      ∀ tree : FileTree, tree.StaysWithin directory (schema.documents config)
        (FileTree.system.writeDocuments (schema.documents config) directory tree).2 := by
  have hnames : ∀ document ∈ schema.documents config, Path.IsSourceName document.fileName :=
    fun document hdocument => Schema.isSourceName_of_mem_documents hslash hnul hdocument
  refine ⟨hnames, fun directory hdirectory => ⟨?_, fun tree => ?_⟩⟩
  · intro document hdocument
    exact Path.names_join directory (hnames document hdocument).toIsComponent
  · have hcomponents : ∀ document ∈ schema.documents config, Path.IsComponent document.fileName :=
      fun document hdocument => (hnames document hdocument).toIsComponent
    exact staysWithin_writeDocuments hcomponents hdirectory tree

/-- Names that climb out of a directory or hold a NUL are written into it all the same. -/
theorem files_of_climbing_names_lie_in_directory :
    let schema := Schema.ofEntityNames ["../../etc/passwd", "..", "a\x00/b"]
    let config : Config := { interfacePrefix := "I", mode := .perDefinition, entityIndex := true }
    '/' ∉ config.interfacePrefix.toList ∧ '\x00' ∉ config.interfacePrefix.toList ∧
      Path.isSourceFile "out" = false ∧
      (schema.documents config).map (·.fileName) =
        ["I_etc_passwd.ts", "I.ts", "Ia__b.ts", "Entity.ts"] ∧
      (∀ document ∈ schema.documents config, Path.IsSourceName document.fileName) ∧
      ∀ tree : FileTree, tree.StaysWithin "out" (schema.documents config)
        (FileTree.system.writeDocuments (schema.documents config) "out" tree).2 := by
  intro schema config
  have hslash : '/' ∉ config.interfacePrefix.toList := by decide
  have hnul : '\x00' ∉ config.interfacePrefix.toList := by decide
  have hdirectory : Path.isSourceFile "out" = false := by decide
  obtain ⟨hnames, hwithin⟩ := files_lie_in_directory schema config hslash hnul
  refine ⟨hslash, hnul, hdirectory, ?_, hnames, (hwithin "out" hdirectory).2⟩
  decide +kernel

end CdsDeclarations
