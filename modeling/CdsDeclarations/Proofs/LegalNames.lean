import CdsDeclarations.Proofs.NameOrigins
import CdsDeclarations.Proofs.ReferenceNames

/-!
# Legal names

A declared name is legal if it is an identifier of the target language and none of the words that
the language keeps for itself. Sanitizing lets every letter through and looks at no whole words, so
that a name is legal exactly if the letters it is made from are fit for identifiers and make no such
word.
-/

namespace CdsDeclarations

open Identifier

/-- The characters that may begin an identifier and those that may go on with one, as Unicode lists
them. -/
structure IdentifierClasses where
  isStart : Char → Bool
  isContinue : Char → Bool
  isContinue_of_isStart : ∀ c, isStart c → isContinue c
  isStart_of_isAlpha : ∀ c, c.isAlpha → isStart c
  isContinue_of_isDigit : ∀ c, isDigit c → isContinue c

/-- The words that programs cannot use as identifiers, those of strict code among them. -/
def reservedWords : List String :=
  [
    "await", "break", "case", "catch", "class", "const", "continue", "debugger", "default",
    "delete", "do", "else", "enum", "export", "extends", "false", "finally", "for", "function",
    "if", "implements", "import", "in", "instanceof", "interface", "let", "new", "null", "package",
    "private", "protected", "public", "return", "static", "super", "switch", "this", "throw",
    "true", "try", "typeof", "var", "void", "while", "with", "yield"
  ]

/-- The names of types that no declaration can take. -/
def typeKeywords : List String :=
  [
    "any", "bigint", "boolean", "never", "null", "number", "object", "string", "symbol",
    "undefined", "unknown", "void"
  ]

namespace IdentifierClasses

def begins (classes : IdentifierClasses) (c : Char) : Bool :=
  classes.isStart c || c = '$' || c = '_'

def continues (classes : IdentifierClasses) (c : Char) : Bool :=
  classes.isContinue c || c = '$' || c = '_'

def isName (classes : IdentifierClasses) : List Char → Bool
  | [] => false
  | first :: rest => classes.begins first && rest.all classes.continues

/-- A name that a declaration can have. -/
structure IsLegal (classes : IdentifierClasses) (name : String) : Prop where
  isName : classes.isName name.toList
  notReserved : name ∉ reservedWords
  notKeyword : name ∉ typeKeywords

/-- A letter in front may begin an identifier. -/
def LettersBegin (classes : IdentifierClasses) (text : String) : Prop :=
  ∀ c ∈ text.toList.head?, isAlphabetic c → classes.isStart c

/-- All letters may go on with an identifier. -/
def LettersContinue (classes : IdentifierClasses) (text : String) : Prop :=
  ∀ c ∈ text.toList, isAlphabetic c → classes.isContinue c

-- The instances are named here: the search may find one that goes through all characters.
instance (classes : IdentifierClasses) (text : String) : Decidable (classes.LettersBegin text) :=
  Option.decidableForallMem (p := fun c => isAlphabetic c → classes.isStart c) text.toList.head?

instance (classes : IdentifierClasses) (text : String) : Decidable (classes.LettersContinue text) :=
  List.decidableBAll (fun c => isAlphabetic c → classes.isContinue c) text.toList

end IdentifierClasses

namespace NameOrigin

/-- The letters of a name are fit for an identifier, and the name of a definition is no word of the
language. -/
def Fits (classes : IdentifierClasses) (config : Config) : NameOrigin → Prop
  | definition name shape =>
    let front := if shape = .interface then config.interfacePrefix else ""
    (front = "" → classes.LettersBegin (localPart name)) ∧
      classes.LettersContinue (localPart name) ∧
      front ++ localPart name ∉ reservedWords ++ typeKeywords
  | fieldEnum owner field =>
    classes.LettersBegin (localPart owner) ∧ classes.LettersContinue (localPart owner) ∧
      classes.LettersContinue (capitalize (sanitize field))
  | index => True

instance (classes : IdentifierClasses) (config : Config) :
    (origin : NameOrigin) → Decidable (origin.Fits classes config)
  | definition _ _ => inferInstanceAs (Decidable (_ ∧ _ ∧ _))
  | fieldEnum _ _ => inferInstanceAs (Decidable (_ ∧ _ ∧ _))
  | index => inferInstanceAs (Decidable True)

end NameOrigin

namespace IdentifierClasses

variable {classes : IdentifierClasses}

lemma continues_of_begins {c : Char} (h : classes.begins c) : classes.continues c := by
  rw [begins, Bool.or_eq_true, Bool.or_eq_true] at h
  rw [continues, Bool.or_eq_true, Bool.or_eq_true]
  exact h.imp_left (Or.imp_left (classes.isContinue_of_isStart c))

lemma begins_underscore : classes.begins '_' := by simp [begins]

lemma continues_underscore : classes.continues '_' := by simp [continues]

lemma isName_iff {chars : List Char} :
    classes.isName chars ↔
      (∃ c, chars.head? = some c ∧ classes.begins c) ∧ ∀ c ∈ chars, classes.continues c := by
  cases chars with
  | nil => simp [isName]
  | cons first rest =>
    rw [isName, Bool.and_eq_true, List.all_eq_true, List.forall_mem_cons]
    constructor
    · rintro ⟨hfirst, hrest⟩
      exact ⟨⟨first, rfl, hfirst⟩, continues_of_begins hfirst, hrest⟩
    · rintro ⟨⟨c, hc, hbegins⟩, -, hrest⟩
      obtain rfl : first = c := Option.some.inj hc
      exact ⟨hbegins, hrest⟩

lemma isName_append_iff {front back : List Char} (hfront : front ≠ []) :
    classes.isName (front ++ back) ↔ classes.isName front ∧ ∀ c ∈ back, classes.continues c := by
  rw [isName_iff, isName_iff, List.head?_append_of_ne_nil _ hfront, List.forall_mem_append,
    and_assoc]

lemma not_separator_of_isAlphabetic {c : Char} (h : isAlphabetic c) : c ≠ '$' ∧ c ≠ '_' := by
  constructor
  · rintro rfl
    exact absurd (isAlpha_of_isAlphabetic (by decide) h) (by decide)
  · rintro rfl
    exact absurd (isAlpha_of_isAlphabetic (by decide) h) (by decide)

/-- A character that is kept or replaced goes on with an identifier unless it is an unfit letter. -/
lemma continues_replaceForbidden_iff {c : Char} :
    classes.continues (replaceForbidden c) ↔ (isAlphabetic c → classes.isContinue c) := by
  rw [replaceForbidden]
  by_cases hletter : isAlphabetic c = true
  · obtain ⟨hdollar, hunderscore⟩ := not_separator_of_isAlphabetic hletter
    rw [if_pos (isAllowed_of_isAlphabetic hletter), continues]
    simp [hdollar, hunderscore, hletter]
  · have hnone : isAlphabetic c = false := Bool.eq_false_iff.mpr hletter
    have hkept : classes.continues (if isAllowed c then c else '_') := by
      split
      · next hallowed =>
        rw [isAllowed, hnone, Bool.or_false, Bool.or_eq_true, Bool.or_eq_true] at hallowed
        rcases hallowed with (hdigit | hunderscore) | hdollar
        · rw [continues, classes.isContinue_of_isDigit c hdigit, Bool.true_or, Bool.true_or]
        · rw [continues, hunderscore, Bool.or_true]
        · rw [continues, hdollar, Bool.or_true, Bool.true_or]
      · exact continues_underscore
    exact iff_of_true hkept fun h => absurd h hletter

lemma begins_kept_iff {c : Char} :
    classes.begins (if isAllowed c && !isDigit c then c else '_') ↔
      (isAlphabetic c → classes.isStart c) := by
  by_cases hletter : isAlphabetic c = true
  · obtain ⟨hdollar, hunderscore⟩ := not_separator_of_isAlphabetic hletter
    rw [isAllowed_of_isAlphabetic hletter, isDigit_of_isAlphabetic hletter, Bool.not_false,
      Bool.and_true, if_pos rfl, begins]
    simp [hdollar, hunderscore, hletter]
  · have hnone : isAlphabetic c = false := Bool.eq_false_iff.mpr hletter
    have hkept : classes.begins (if isAllowed c && !isDigit c then c else '_') := by
      split
      · next hallowed =>
        obtain ⟨hallowed, hdigit⟩ := Bool.and_eq_true_iff.mp hallowed
        rw [Bool.not_eq_true'] at hdigit
        rw [isAllowed, hnone, hdigit, Bool.or_false, Bool.false_or, Bool.or_eq_true] at hallowed
        rcases hallowed with hunderscore | hdollar
        · rw [begins, hunderscore, Bool.or_true]
        · rw [begins, hdollar, Bool.or_true, Bool.true_or]
      · exact begins_underscore
    exact iff_of_true hkept fun h => absurd h hletter

lemma continues_map_replaceForbidden_iff {chars : List Char} :
    (∀ c ∈ chars.map replaceForbidden, classes.continues c) ↔
      ∀ c ∈ chars, isAlphabetic c → classes.isContinue c := by
  rw [List.forall_mem_map]
  exact forall₂_congr fun c _ => continues_replaceForbidden_iff

lemma continues_sanitizeChars_iff {chars : List Char} :
    (∀ c ∈ sanitizeChars chars, classes.continues c) ↔
      ∀ c ∈ chars, isAlphabetic c → classes.isContinue c := by
  rw [← continues_map_replaceForbidden_iff, sanitizeChars]
  cases chars.map replaceForbidden with
  | nil => rfl
  | cons c rest =>
    rw [protectDigit]
    split
    · rw [List.forall_mem_cons]
      exact and_iff_right continues_underscore
    · rfl

lemma isName_sanitizeChars_iff {chars : List Char} (h : chars ≠ []) :
    classes.isName (sanitizeChars chars) ↔
      (∀ c, chars.head? = some c → isAlphabetic c → classes.isStart c) ∧
        ∀ c ∈ chars, isAlphabetic c → classes.isContinue c := by
  rw [isName_iff, continues_sanitizeChars_iff, head?_sanitizeChars]
  refine and_congr_left fun _ => ?_
  obtain ⟨first, rest, rfl⟩ := List.exists_cons_of_ne_nil h
  simp only [List.head?_cons, Option.map_some, Option.some.injEq, exists_eq_left', forall_eq']
  exact begins_kept_iff

lemma words_plain : ∀ word ∈ reservedWords ++ typeKeywords, isPlainWord word.toList := by
  decide +kernel

lemma isLegal_iff {name : String} :
    classes.IsLegal name ↔
      classes.isName name.toList ∧ name ∉ reservedWords ++ typeKeywords := by
  rw [List.mem_append, not_or]
  exact ⟨fun h => ⟨h.isName, h.notReserved, h.notKeyword⟩, fun h => ⟨h.1, h.2.1, h.2.2⟩⟩

lemma not_mem_words {name : String} {P : String → Prop}
    (h : ∀ word, isPlainWord word.toList → (name = word ↔ P word)) :
    name ∉ reservedWords ++ typeKeywords ↔ ∀ word ∈ reservedWords ++ typeKeywords, ¬P word := by
  constructor
  · intro hnot word hword hP
    exact hnot ((h word (words_plain word hword)).mpr hP ▸ hword)
  · intro hall hmem
    exact hall name hmem ((h name (words_plain name hmem)).mp rfl)

lemma isLegal_append_ofQualified_iff {front name : String}
    (hfront : front = "" ∨ classes.isName front.toList) (hname : localPart name ≠ "") :
    classes.IsLegal (front ++ ofQualified name) ↔
      (front = "" → classes.LettersBegin (localPart name)) ∧
        classes.LettersContinue (localPart name) ∧
        front ++ localPart name ∉ reservedWords ++ typeKeywords := by
  have hnonempty : (localPart name).toList ≠ [] := fun h => hname (String.toList_eq_nil_iff.mp h)
  have hwords : front ++ ofQualified name ∉ reservedWords ++ typeKeywords ↔
      front ++ localPart name ∉ reservedWords ++ typeKeywords :=
    (not_mem_words fun word hword => append_ofQualified_eq_iff hword front name).trans
      (not_mem_words fun _ _ => Iff.rfl).symm
  rw [isLegal_iff, hwords, ← and_assoc]
  refine and_congr_left fun _ => ?_
  rw [String.toList_append, toList_ofQualified]
  by_cases hempty : front = ""
  · rw [hempty, String.toList_empty, List.nil_append, isName_sanitizeChars_iff hnonempty]
    exact and_congr_left fun _ => ⟨fun h _ => h, fun h => h rfl⟩
  · have hprefixed : classes.isName front.toList := hfront.resolve_left hempty
    have hsome : front.toList ≠ [] := fun h => hempty (String.toList_eq_nil_iff.mp h)
    rw [isName_append_iff hsome, continues_sanitizeChars_iff]
    exact and_congr_left fun _ => iff_of_true hprefixed fun h => absurd h hempty

lemma isLegal_fieldEnum_iff {owner field : String} (howner : localPart owner ≠ "")
    (hfield : field ≠ "") :
    classes.IsLegal (ofQualified (ResolvedType.inlineEnumName owner field)) ↔
      classes.LettersBegin (localPart owner) ∧ classes.LettersContinue (localPart owner) ∧
        classes.LettersContinue (capitalize (sanitize field)) := by
  have hnonempty : (localPart owner).toList ≠ [] := fun h => howner (String.toList_eq_nil_iff.mp h)
  have hwords : ofQualified (ResolvedType.inlineEnumName owner field) ∉
      reservedWords ++ typeKeywords := by
    have hiff := fun (word : String) (hword : isPlainWord word.toList) =>
      ofQualified_inlineEnumName_eq_iff hword owner field
    refine (not_mem_words hiff).mpr ?_
    rintro word - (⟨hnone, -⟩ | ⟨hnone, -⟩)
    · exact howner hnone
    · exact hfield hnone
  rw [isLegal_iff, and_iff_left hwords, toList_ofQualified_inlineEnumName, toList_ofQualified,
    isName_append_iff fun h => hnonempty (sanitizeChars_eq_nil_iff.mp h),
    isName_sanitizeChars_iff hnonempty, continues_map_replaceForbidden_iff, and_assoc]
  rfl

lemma isLegal_indexName (schema : Schema) (config : Config) :
    classes.IsLegal (schema.indexName config) := by
  have hbase : classes.isName entityIndexName.toList := by
    refine isName_iff.mpr ⟨⟨'E', rfl, ?_⟩, fun c hc => continues_of_begins ?_⟩
    · rw [begins, classes.isStart_of_isAlpha 'E' (by decide), Bool.true_or, Bool.true_or]
    · have hletter := Schema.isAlpha_of_mem_entityIndexName hc
      rw [begins, classes.isStart_of_isAlpha c hletter, Bool.true_or, Bool.true_or]
  refine isLegal_iff.mpr ⟨?_, fun hmem => ?_⟩
  · rw [Schema.indexName]
    rcases freeName_cases (tellsNumbers_id entityIndexName) with ⟨-, hfree⟩ | ⟨-, k, -, -, hfree, -⟩
    · rw [hfree]
      exact hbase
    · rw [hfree, toList_numbered, isName_append_iff (by decide), List.forall_mem_cons]
      refine ⟨hbase, continues_underscore, fun c hc => ?_⟩
      have hdigit : isDigit c := Nat.isDigit_of_mem_toDigits (by decide) (by decide) hc
      rw [continues, classes.isContinue_of_isDigit c hdigit, Bool.true_or, Bool.true_or]
  · refine schema.indexName_ne_of_plainWord (words_plain _ hmem) ?_ config rfl
    rintro hindex
    rw [hindex] at hmem
    exact absurd hmem (by decide)

end IdentifierClasses

/-- The names of all declarations, in their order, are made from the origins of the model, and each
of them is legal exactly if its origin fits. -/
theorem declared_names_legal_iff (classes : IdentifierClasses) (schema : Schema) (config : Config)
    (hprefixed : config.interfacePrefix = "" ∨ classes.isName config.interfacePrefix.toList)
    (hnames : ∀ entry ∈ schema.definitions.entries, localPart entry.1 ≠ "")
    (hfields : ∀ entry ∈ schema.definitions.entries, ∀ field ∈ entry.2.fields, field.1 ≠ "") :
    (schema.sourceFiles config).flatMap (fun file => file.declarations.map Declaration.name) =
      (schema.nameOrigins config).map (NameOrigin.declaredName schema config) ∧
    ∀ origin ∈ schema.nameOrigins config,
      classes.IsLegal (origin.declaredName schema config) ↔ origin.Fits classes config := by
  refine ⟨schema.map_name_sourceFiles config, fun origin horigin => ?_⟩
  rw [Schema.nameOrigins, List.mem_append] at horigin
  rcases horigin with hdefined | hindex
  · obtain ⟨entry, hentry, hmem⟩ := List.mem_flatMap.mp hdefined
    rcases List.mem_append.mp hmem with hfield | hshape
    · rw [Schema.fieldEnumOrigins] at hfield
      split at hfield
      · obtain ⟨field, hkept, rfl⟩ := List.mem_map.mp hfield
        have hnonempty := hfields entry hentry field (List.mem_filter.mp hkept).1
        exact IdentifierClasses.isLegal_fieldEnum_iff (hnames entry hentry) hnonempty
      · cases hfield
    · obtain ⟨shape, -, rfl⟩ := List.mem_map.mp hshape
      have hfront : (if shape = .interface then config.interfacePrefix else "") = "" ∨
          classes.isName (if shape = .interface then config.interfacePrefix else "").toList := by
        split
        · exact hprefixed
        · exact Or.inl rfl
      rw [NameOrigin.declaredName, Context.declarationName_eq]
      exact IdentifierClasses.isLegal_append_ofQualified_iff hfront (hnames entry hentry)
  · split at hindex
    · rw [List.mem_singleton.mp hindex]
      exact iff_of_true (IdentifierClasses.isLegal_indexName schema config) trivial
    · cases hindex

/-- The classes as they are for ASCII characters. No other character is in them. -/
def IdentifierClasses.ascii : IdentifierClasses where
  isStart := Char.isAlpha
  isContinue c := c.isAlpha || isDigit c || c = '_'
  isContinue_of_isStart c h := by rw [h, Bool.true_or, Bool.true_or]
  isStart_of_isAlpha _ h := h
  isContinue_of_isDigit c h := by rw [h, Bool.or_true, Bool.true_or]

theorem names_of_books_legal :
    let status := Element.withEnum none (.ofList [("status-2", .implicit)])
    let books := Definition.entity (.ofList [("status", status)])
    let schema := Schema.ofDefinitions (.ofList [("my.Books", books), ("my.2nd", .ofTag "cds.Date")])
    let config : Config := { interfacePrefix := "I", entityIndex := true }
    IdentifierClasses.ascii.isName config.interfacePrefix.toList ∧
    (∀ entry ∈ schema.definitions.entries, localPart entry.1 ≠ "") ∧
    (∀ entry ∈ schema.definitions.entries, ∀ field ∈ entry.2.fields, field.1 ≠ "") ∧
    (schema.sourceFiles config).flatMap (fun file => file.declarations.map Declaration.name) =
      ["BooksStatus", "IBooks", "_2nd", "Entity"] ∧
    ∀ origin ∈ schema.nameOrigins config,
      IdentifierClasses.ascii.IsLegal (origin.declaredName schema config) := by
  intro status books schema config
  have hprefixed : IdentifierClasses.ascii.isName config.interfacePrefix.toList := by decide
  have hnames : ∀ entry ∈ schema.definitions.entries, localPart entry.1 ≠ "" := by decide +kernel
  have hfields : ∀ entry ∈ schema.definitions.entries, ∀ field ∈ entry.2.fields, field.1 ≠ "" := by
    decide +kernel
  have hfits : ∀ origin ∈ schema.nameOrigins config,
      origin.Fits IdentifierClasses.ascii config := by
    decide +kernel
  obtain ⟨hdeclared, hlegal⟩ := declared_names_legal_iff IdentifierClasses.ascii schema config
    (Or.inr hprefixed) hnames hfields
  refine ⟨hprefixed, hnames, hfields, ?_, fun origin horigin => ?_⟩
  · rw [hdeclared]
    decide +kernel
  · exact (hlegal origin horigin).mpr (hfits origin horigin)

/-- A reserved word is declared as it is, and so is a letter in a circle, which begins no identifier
although it is a letter. -/
theorem reserved_word_declared :
    let words := Schema.ofEntityNames ["class"]
    let circled := Schema.ofEntityNames ["Ⓐ"]
    ((words.sourceFiles {}).flatMap (fun file => file.declarations.map Declaration.name) =
      ["class"] ∧ ∀ classes : IdentifierClasses, ¬classes.IsLegal "class") ∧
    (circled.sourceFiles {}).flatMap (fun file => file.declarations.map Declaration.name) = ["Ⓐ"] ∧
      ∀ classes : IdentifierClasses, classes.isStart 'Ⓐ' = false → ¬classes.IsLegal "Ⓐ" := by
  intro words circled
  refine ⟨⟨by decide +kernel, ?_⟩, by decide +kernel, ?_⟩
  · intro classes hlegal
    exact hlegal.notReserved (by decide)
  · intro classes hstart hlegal
    have hbegins : classes.begins 'Ⓐ' = false := by
      rw [IdentifierClasses.begins, hstart]
      decide
    have hname : classes.isName ['Ⓐ'] := hlegal.isName
    rw [IdentifierClasses.isName, hbegins, Bool.false_and] at hname
    cases hname

end CdsDeclarations
