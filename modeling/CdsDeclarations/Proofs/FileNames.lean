import CdsDeclarations.Proofs.FinalSigma
import CdsDeclarations.Proofs.FreeNames
import CdsDeclarations.Proofs.Writing

/-!
# File names of units

Stems are told apart by their lower case and files by the lower case of the stem with its suffix.
Numbers put behind a stem do not change its lower case. The suffix may do so, since the sigma of a
stem that ends in one is no longer final. So files may share a name although their stems do not, and
this file says exactly when.
-/

namespace CdsDeclarations

lemma lowerRuns_first_ge : ∀ run ∈ lowerRuns, 0x41 ≤ run.first := by decide +kernel

lemma lowerMapping_apply_of_lt {c : Char} (hc : c.toNat < 0x41) : lowerMapping.apply c = [c] := by
  rcases lowerMapping.apply_cases c with
    ⟨expansion, hentry, -⟩ | ⟨-, ⟨run, hrun, hcovers, -⟩ | happly⟩
  · obtain rfl : c = 'İ' := congrArg Prod.fst (List.mem_singleton.mp hentry)
    exact absurd hc (by decide)
  · have hfirst := lowerRuns_first_ge run hrun
    simp only [CaseRun.covers, Bool.and_eq_true, decide_eq_true_eq] at hcovers
    omega
  · exact happly

lemma lowercaseAfter_of_lt (reversedBefore : List Char) {chars : List Char}
    (h : ∀ c ∈ chars, c.toNat < 0x41) : lowercaseAfter reversedBefore chars = chars := by
  have hsigma : 'Σ' ∉ chars := fun hmem => absurd (h 'Σ' hmem) (by decide)
  rw [lowercaseAfter_of_no_sigma _ hsigma]
  induction chars with
  | nil => rfl
  | cons c rest ih =>
    rw [List.flatMap_cons, lowerMapping_apply_of_lt (h c List.mem_cons_self),
      ih (fun d hd => h d (List.mem_cons_of_mem c hd)) fun hmem => hsigma (List.mem_cons_of_mem c hmem)]
    rfl

lemma digit_lt {c : Char} {number : Nat} (hc : c ∈ Nat.toDigits 10 number) : c.toNat < 0x41 := by
  have hdigit := Nat.isDigit_of_mem_toDigits (by omega) (by omega) hc
  simp only [Char.isDigit, Bool.and_eq_true, decide_eq_true_eq, UInt32.le_iff_toNat_le] at hdigit
  have hle : c.toNat ≤ 57 := hdigit.2
  omega

lemma lowercase_numbered (name : String) (number : Nat) :
    lowercase (numbered name number) = numbered (lowercase name) number := by
  have hends : nearestIsCased ('_' :: Nat.toDigits 10 number) = nearestIsCased [] := by
    rw [nearestIsCased_cons_of_not_ignorable (by decide +kernel)]
    decide +kernel
  have hunderscore : ∀ before, lowercaseAfter before ('_' :: Nat.toDigits 10 number) =
      '_' :: Nat.toDigits 10 number := by
    intro before
    rw [lowercaseAfter, if_neg (by decide), lowercaseAfter_of_lt _ fun c hc => digit_lt hc]
    have happly : lowerMapping.apply '_' = ['_'] := by decide +kernel
    rw [happly]
    rfl
  apply String.toList_injective
  rw [toList_numbered, lowercase, String.toList_ofList, toList_numbered, lowercaseAfter_append,
    lowercaseWithin_congr _ _ hends, lowercaseWithin_nil, hunderscore, lowercase,
    String.toList_ofList]

lemma tellsNumbers_lowercase (name : String) : TellsNumbers lowercase name where
  injective number other h := by
    simp only [lowercase_numbered] at h
    exact numbered_injective (lowercase name) h
  fresh number h := by
    rw [lowercase_numbered] at h
    exact numbered_ne (lowercase name) number h

lemma lowercase_fileName (stem : String) :
    lowercase (stem ++ fileSuffix) = innerLowercase stem ++ fileSuffix := by
  have hsuffix : nearestIsCased fileSuffix.toList = nearestIsCased ['a'] := by decide +kernel
  have hlower : ∀ before, lowercaseAfter before fileSuffix.toList = fileSuffix.toList := by
    intro before
    rw [lowercaseAfter_of_no_sigma _ (by decide)]
    decide +kernel
  apply String.toList_injective
  rw [lowercase, String.toList_ofList, String.toList_append, lowercaseAfter_append,
    lowercaseWithin_congr _ _ hsuffix, hlower, String.toList_append, innerLowercase,
    String.toList_ofList]

lemma lowercase_fileName_inj {stem other : String} :
    lowercase (stem ++ fileSuffix) = lowercase (other ++ fileSuffix) ↔
      innerLowercase stem = innerLowercase other := by
  rw [lowercase_fileName, lowercase_fileName, String.append_left_inj]

lemma map_unit_placeUnits (taken : List String) (units : List DeclarationUnit) :
    (placeUnits taken units).map (·.unit) = units := by
  induction units generalizing taken with
  | nil => rfl
  | cons unit rest ih => rw [placeUnits, List.map_cons, ih]

lemma placeUnits_stems_distinct (taken : List String) (units : List DeclarationUnit) :
    ((placeUnits taken units).map fun placed => lowercase placed.stem).Nodup ∧
      ∀ placed ∈ placeUnits taken units, lowercase placed.stem ∉ taken := by
  induction units generalizing taken with
  | nil => exact ⟨List.nodup_nil, by simp [placeUnits]⟩
  | cons unit rest ih =>
    rw [placeUnits]
    obtain ⟨hnodup, hfresh⟩ := ih (lowercase (freeName lowercase taken unit.name) :: taken)
    refine ⟨List.nodup_cons.mpr ⟨?_, hnodup⟩, ?_⟩
    · intro hmem
      obtain ⟨placed, hplaced, hkey⟩ := List.mem_map.mp hmem
      exact hfresh placed hplaced (hkey ▸ List.mem_cons_self)
    · intro placed hplaced
      rcases List.mem_cons.mp hplaced with rfl | hplaced
      · exact freeName_not_taken (tellsNumbers_lowercase unit.name)
      · exact fun hmem => hfresh placed hplaced (List.mem_cons_of_mem _ hmem)

/-- A stem is the name of its unit, or a numbered form of it. -/
lemma stem_cases_of_mem_placeUnits {taken : List String} {units : List DeclarationUnit}
    {placed : PlacedUnit} (hplaced : placed ∈ placeUnits taken units) :
    placed.stem = placed.unit.name ∨ ∃ number, placed.stem = numbered placed.unit.name number := by
  induction units generalizing taken with
  | nil => cases hplaced
  | cons unit rest ih =>
    rw [placeUnits] at hplaced
    rcases List.mem_cons.mp hplaced with rfl | hrest
    · rcases freeName_cases (tellsNumbers_lowercase unit.name) with
        ⟨-, hfree⟩ | ⟨-, number, -, -, hfree, -⟩
      · exact Or.inl hfree
      · exact Or.inr ⟨number, hfree⟩
    · exact ih hrest

/-- The model of entities without fields. -/
def Schema.ofEntityNames (names : List String) : Schema :=
  .ofDefinitions (.ofList (names.map fun name => (name, .entity .empty)))

/-- The stems of the files of a model, one for each unit. -/
def Schema.stems (schema : Schema) (config : Config) : List String :=
  (schema.placedUnits config).map (·.stem)

lemma lowercase_stems_nodup (schema : Schema) (config : Config) :
    ((schema.stems config).map lowercase).Nodup := by
  rw [Schema.stems, List.map_map]
  exact (placeUnits_stems_distinct [] (schema.units config)).1

lemma map_fileKey_documents (schema : Schema) {config : Config}
    (hmode : config.mode = .perDefinition) :
    (schema.documents config).map Document.fileKey =
      (schema.stems config).map fun stem => lowercase (stem ++ fileSuffix) := by
  rw [Schema.documents, Schema.sourceFiles, hmode, Schema.stems, List.map_map, List.map_map,
    List.map_map]
  rfl

lemma fileNames_nodup_iff {stems : List String} (hstems : (stems.map lowercase).Nodup) :
    (stems.map fun stem => lowercase (stem ++ fileSuffix)).Nodup ↔
      ∀ stem ∈ stems, ∀ other ∈ stems, ¬SigmaTwins stem other := by
  have hinj := List.inj_on_of_nodup_map hstems
  rw [List.nodup_map_iff_inj_on (List.Nodup.of_map lowercase hstems)]
  constructor
  · intro hfiles stem hstem other hother htwins
    have hne : lowercase stem ≠ lowercase other := by
      intro hlower
      have hsame := hinj hstem hother hlower
      rw [hsame] at htwins
      exact htwins.not_ends htwins.ends
    have hinner := (innerLowercase_eq_iff hne).mpr (Or.inl htwins)
    have hsame := hfiles stem hstem other hother (lowercase_fileName_inj.mpr hinner)
    exact hne (congrArg lowercase hsame)
  · intro hnone stem hstem other hother hfile
    by_contra hne
    have hlower : lowercase stem ≠ lowercase other := fun h => hne (hinj hstem hother h)
    rcases (innerLowercase_eq_iff hlower).mp (lowercase_fileName_inj.mp hfile) with h | h
    · exact hnone stem hstem other hother h
    · exact hnone other hother stem hstem h

lemma sigma_mem_of_endsInSigma {reversedBefore chars : List Char}
    (h : EndsInSigma reversedBefore chars) : 'Σ' ∈ chars := by
  obtain ⟨front, back, rfl, -, -⟩ := h
  simp

/-- The files of a model have distinct names in lower case, and are accepted for every directory,
exactly if no two of their stems differ in a final sigma alone. -/
theorem split_files_distinct_iff (schema : Schema) (config : Config) (path : String)
    (hmode : config.mode = .perDefinition) (hpath : Path.isSourceFile path = false)
    (tree : FileTree) :
    (((schema.documents config).map Document.fileKey).Nodup ↔
      ∀ stem ∈ schema.stems config, ∀ other ∈ schema.stems config, ¬SigmaTwins stem other) ∧
    (¬(FileTree.system.writeDocuments (schema.documents config) path tree).1.Refuses ↔
      ∀ stem ∈ schema.stems config, ∀ other ∈ schema.stems config, ¬SigmaTwins stem other) := by
  have hnames : ((schema.documents config).map Document.fileKey).Nodup ↔
      ∀ stem ∈ schema.stems config, ∀ other ∈ schema.stems config, ¬SigmaTwins stem other := by
    rw [map_fileKey_documents schema hmode, fileNames_nodup_iff (lowercase_stems_nodup schema config)]
  refine ⟨hnames, ?_⟩
  rw [writeDocuments_refuses_iff _ hpath, not_not]
  exact hnames

/-- Names without a capital sigma never clash, here two that differ in case alone. -/
theorem split_files_of_books_distinct :
    ({ mode := .perDefinition } : Config).mode = .perDefinition ∧
    Path.isSourceFile "out" = false ∧
    (((Schema.ofEntityNames ["a.Books", "b.books"]).documents
      { mode := .perDefinition }).map Document.fileKey).Nodup ∧
    ¬(FileTree.system.writeDocuments ((Schema.ofEntityNames ["a.Books", "b.books"]).documents
      { mode := .perDefinition }) "out" .empty).1.Refuses := by
  have hpath : Path.isSourceFile "out" = false := by decide +kernel
  have hnone : ∀ stem ∈ (Schema.ofEntityNames ["a.Books", "b.books"]).stems
      { mode := .perDefinition }, 'Σ' ∉ stem.toList := by
    decide +kernel
  have hiff := split_files_distinct_iff (Schema.ofEntityNames ["a.Books", "b.books"])
    { mode := .perDefinition } "out" rfl hpath .empty
  have htwins : ∀ stem ∈ (Schema.ofEntityNames ["a.Books", "b.books"]).stems
      { mode := .perDefinition }, ∀ other ∈ (Schema.ofEntityNames ["a.Books", "b.books"]).stems
      { mode := .perDefinition }, ¬SigmaTwins stem other :=
    fun stem hstem _ _ h => hnone stem hstem (sigma_mem_of_endsInSigma h.ends)
  exact ⟨rfl, hpath, hiff.1.mpr htwins, hiff.2.mpr htwins⟩

/-- A name that ends in a capital sigma clashes with the same name in which the sigma is small. -/
theorem split_files_of_twins_clash :
    ¬(((Schema.ofEntityNames ["AΣ", "Aσ"]).documents
      { mode := .perDefinition }).map Document.fileKey).Nodup ∧
    (FileTree.system.writeDocuments ((Schema.ofEntityNames ["AΣ", "Aσ"]).documents
      { mode := .perDefinition }) "out" .empty).1.Refuses := by
  refine ⟨by decide +kernel, "out/Aσ.ts", "more than one document has this file name", ?_⟩
  decide +kernel

end CdsDeclarations
