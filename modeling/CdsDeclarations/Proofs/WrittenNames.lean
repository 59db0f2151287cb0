import CdsDeclarations.Proofs.InsertionOrder
import CdsDeclarations.Proofs.NameOrigins
import Mathlib.Data.List.Forall2

/-!
# Written names

Fields and members are written under their sanitized names, one line for each. Sanitizing keeps two
names apart unless they are alike: equal but for characters that are all written as underscores.
-/

namespace CdsDeclarations

namespace Identifier

/-- A character that is written as an underscore. -/
def isBlanked (c : Char) : Bool :=
  c = '_' || !isAllowed c

/-- Characters that are written alike: equal ones, and all that are written as an underscore. -/
def SameSign (c d : Char) : Prop :=
  c = d ∨ isBlanked c ∧ isBlanked d

/-- Whether an underscore goes before a text. -/
def startsWithDigit (chars : List Char) : Bool :=
  chars.head?.any isDigit

/-- The first text has one more character in front than the second, the underscore that goes before
the leading digit of the second one. -/
def HasFront (chars others : List Char) : Prop :=
  ∃ c rest, chars = c :: rest ∧ isBlanked c ∧ List.Forall₂ SameSign rest others ∧
    startsWithDigit others

/-- Texts of which the same identifier is made. -/
def Alike (chars others : List Char) : Prop :=
  List.Forall₂ SameSign chars others ∨ HasFront chars others ∨ HasFront others chars

lemma replaceForbidden_of_isBlanked {c : Char} (h : isBlanked c) : replaceForbidden c = '_' := by
  rw [isBlanked, Bool.or_eq_true, decide_eq_true_eq, Bool.not_eq_true'] at h
  rcases h with rfl | hforbidden
  · rfl
  · rw [replaceForbidden, hforbidden, if_neg Bool.false_ne_true]

lemma replaceForbidden_of_not_isBlanked {c : Char} (h : isBlanked c = false) :
    replaceForbidden c = c ∧ c ≠ '_' := by
  rw [isBlanked, Bool.or_eq_false_iff, decide_eq_false_iff_not, Bool.not_eq_false'] at h
  exact ⟨if_pos h.2, h.1⟩

lemma replaceForbidden_eq_underscore_iff {c : Char} :
    replaceForbidden c = '_' ↔ isBlanked c := by
  cases hc : isBlanked c with
  | true => simp [replaceForbidden_of_isBlanked hc]
  | false =>
    obtain ⟨hkept, hne⟩ := replaceForbidden_of_not_isBlanked hc
    simp [hkept, hne]

lemma replaceForbidden_eq_iff {c d : Char} :
    replaceForbidden c = replaceForbidden d ↔ SameSign c d := by
  rw [SameSign]
  cases hc : isBlanked c with
  | true =>
    rw [replaceForbidden_of_isBlanked hc, eq_comm, replaceForbidden_eq_underscore_iff]
    constructor
    · exact fun hd => Or.inr ⟨rfl, hd⟩
    · rintro (rfl | ⟨-, hd⟩)
      · exact hc
      · exact hd
  | false =>
    obtain ⟨hkept, hne⟩ := replaceForbidden_of_not_isBlanked hc
    rw [hkept]
    constructor
    · intro h
      cases hd : isBlanked d with
      | true => exact absurd (h.trans (replaceForbidden_of_isBlanked hd)) hne
      | false => exact Or.inl (h.trans (replaceForbidden_of_not_isBlanked hd).1)
    · rintro (rfl | ⟨hblanked, -⟩)
      · exact hkept.symm
      · cases hblanked

lemma map_replaceForbidden_inj_iff {chars others : List Char} :
    chars.map replaceForbidden = others.map replaceForbidden ↔
      List.Forall₂ SameSign chars others := by
  rw [← List.forall₂_eq_eq_eq, List.forall₂_map_left_iff, List.forall₂_map_right_iff]
  simp only [replaceForbidden_eq_iff]

lemma startsWithDigit_map_replaceForbidden (chars : List Char) :
    startsWithDigit (chars.map replaceForbidden) = startsWithDigit chars := by
  cases chars with
  | nil => rfl
  | cons c rest =>
    change isDigit (replaceForbidden c) = isDigit c
    cases hc : isDigit c with
    | true =>
      have hallowed : isAllowed c := by simp [isAllowed, hc]
      rw [replaceForbidden, if_pos hallowed, hc]
    | false => exact isDigit_replaceForbidden hc

lemma protectDigit_eq_ite (chars : List Char) :
    protectDigit chars = if startsWithDigit chars then '_' :: chars else chars := by
  cases chars with
  | nil => rfl
  | cons c rest => rfl

/-- An underscore in front of one of two texts makes up for a missing one in the other. -/
lemma protectDigit_eq_iff {chars others : List Char} :
    protectDigit chars = protectDigit others ↔ chars = others ∨
      (chars = '_' :: others ∧ startsWithDigit others) ∨
      (others = '_' :: chars ∧ startsWithDigit chars) := by
  have hne (front back : List Char) (h : startsWithDigit front) : front ≠ '_' :: back := by
    rintro rfl
    cases h
  rw [protectDigit_eq_ite, protectDigit_eq_ite]
  cases hchars : startsWithDigit chars with
  | true =>
    cases hothers : startsWithDigit others with
    | true => simp [hne chars others hchars, hne others chars hothers]
    | false =>
      have hsame : chars ≠ others := by
        rintro rfl
        exact Bool.false_ne_true (hothers.symm.trans hchars)
      simp [hsame, eq_comm]
  | false =>
    cases hothers : startsWithDigit others with
    | true =>
      have hsame : chars ≠ others := by
        rintro rfl
        exact Bool.false_ne_true (hchars.symm.trans hothers)
      simp [hsame]
    | false => simp

lemma map_replaceForbidden_eq_underscore_cons_iff {chars others : List Char} :
    chars.map replaceForbidden = '_' :: others.map replaceForbidden ∧
        startsWithDigit (others.map replaceForbidden) ↔ HasFront chars others := by
  rw [startsWithDigit_map_replaceForbidden, List.map_eq_cons_iff, HasFront]
  constructor
  · rintro ⟨⟨c, rest, hchars, hc, hrest⟩, hdigit⟩
    exact ⟨c, rest, hchars, replaceForbidden_eq_underscore_iff.mp hc,
      map_replaceForbidden_inj_iff.mp hrest, hdigit⟩
  · rintro ⟨c, rest, hchars, hc, hrest, hdigit⟩
    exact ⟨⟨c, rest, hchars, replaceForbidden_eq_underscore_iff.mpr hc,
      map_replaceForbidden_inj_iff.mpr hrest⟩, hdigit⟩

/-- Sanitizing makes the same identifier of exactly the texts that are alike. -/
theorem sanitizeChars_eq_iff {chars others : List Char} :
    sanitizeChars chars = sanitizeChars others ↔ Alike chars others := by
  rw [sanitizeChars, sanitizeChars, protectDigit_eq_iff, map_replaceForbidden_inj_iff,
    map_replaceForbidden_eq_underscore_cons_iff, map_replaceForbidden_eq_underscore_cons_iff, Alike]

lemma sanitize_eq_iff {raw other : String} :
    sanitize raw = sanitize other ↔ Alike raw.toList other.toList := by
  rw [← sanitizeChars_eq_iff, ← toList_sanitize, ← toList_sanitize, String.toList_inj]

end Identifier

open Identifier

/-- The name at the front of the line of a property or member. -/
def nameOnLine (line : String) : String :=
  String.ofList ((line.toList.drop indent.length).takeWhile isAllowed)

lemma isAllowed_colon : isAllowed ':' = false :=
  isAllowed_eq_false (by decide) (by decide) (by decide)

lemma isAllowed_questionMark : isAllowed '?' = false :=
  isAllowed_eq_false (by decide) (by decide) (by decide)

lemma isAllowed_space : isAllowed ' ' = false :=
  isAllowed_eq_false (by decide) (by decide) (by decide)

lemma isAllowed_comma : isAllowed ',' = false :=
  isAllowed_eq_false (by decide) (by decide) (by decide)

/-- A name is read from a line as far as its characters are allowed. -/
lemma nameOnLine_eq {name back : String} (hname : IsIdentifier name.toList) {c : Char}
    (hback : back.toList.head? = some c) (hc : isAllowed c = false) :
    nameOnLine (indent ++ name ++ back) = name := by
  obtain ⟨rest, hrest⟩ := List.head?_eq_some_iff.mp hback
  have hdrop : (indent ++ name ++ back).toList.drop indent.length = name.toList ++ c :: rest := by
    rw [String.toList_append, String.toList_append, hrest, List.append_assoc]
    exact List.drop_left' String.length_toList
  have hstop : (c :: rest).takeWhile isAllowed = [] := List.takeWhile_cons_of_neg (by simp [hc])
  rw [nameOnLine, hdrop, List.takeWhile_append_of_pos hname.allowed, hstop, List.append_nil,
    String.ofList_toList]

lemma nameOnLine_propertyLine {property : Property} (h : IsIdentifier property.name.toList) :
    nameOnLine property.line = property.name := by
  rw [Property.line, String.append_assoc, String.append_assoc, String.append_assoc]
  cases property.isOptional with
  | true => exact nameOnLine_eq h (by simp) isAllowed_questionMark
  | false => exact nameOnLine_eq h (by simp) isAllowed_colon

lemma nameOnLine_memberLine {member : EnumMember} (h : IsIdentifier member.name.toList) :
    nameOnLine member.line = member.name := by
  rw [EnumMember.line, String.append_assoc]
  cases member.literal with
  | none => exact nameOnLine_eq h (by simp) isAllowed_comma
  | some literal => exact nameOnLine_eq h (by simp) isAllowed_space

namespace Declaration

/-- The names on the lines between the header and the closing brace. -/
def writtenNames (declaration : Declaration) : List String :=
  (declaration.lines.drop 1).dropLast.map nameOnLine

/-- A declaration has a line for each of some distinct names, in their order and under the sanitized
name. So two lines have the same name exactly if two of the names are alike. -/
structure WrittenFrom (declaration : Declaration) (names : List String) : Prop where
  names_nodup : names.Nodup
  written : declaration.writtenNames = names.map sanitize
  distinct_iff : declaration.writtenNames.Nodup ↔
    names.Pairwise fun name other => ¬Alike name.toList other.toList
  kept : (∀ name ∈ names, IsIdentifier name.toList) → declaration.writtenNames = names

lemma writtenFrom_of_written {declaration : Declaration} {names : List String}
    (hnames : names.Nodup) (hwritten : declaration.writtenNames = names.map sanitize) :
    declaration.WrittenFrom names where
  names_nodup := hnames
  written := hwritten
  distinct_iff := by
    rw [hwritten, List.Nodup, List.pairwise_map]
    simp only [ne_eq, sanitize_eq_iff]
  kept h := by
    have hid : ∀ name ∈ names, sanitize name = id name := fun name hname =>
      sanitize_eq_self (h name hname)
    rw [hwritten, List.map_congr_left hid, List.map_id]

lemma writtenNames_renderEnum (name : String) (type : Option String)
    (members : Option EnumMembers) :
    (renderEnum name type members).writtenNames =
      (members.elim [] (·.keys)).map sanitize := by
  have hline (member : String × EnumValue) :
      nameOnLine (renderMember (type.any ScalarType.isNumericTag) member).line =
        sanitize member.1 := nameOnLine_memberLine (isIdentifier_sanitize member.1)
  rw [writtenNames, renderEnum, lines, List.cons_append, List.drop_one, List.tail_cons,
    List.dropLast_concat, List.map_map, List.map_map]
  cases members with
  | none => rfl
  | some members =>
    rw [Option.elim_some, Option.elim_some, OrderedMap.keys, List.map_map]
    exact List.map_congr_left fun member _ => hline member

lemma writtenNames_renderInterface (context : Context) (name : String) (definition : Definition) :
    (context.renderInterface name definition).writtenNames =
      (definition.fields.map Prod.fst).map sanitize := by
  have hline (field : String × Element) :
      nameOnLine (context.property name field).line = sanitize field.1 :=
    nameOnLine_propertyLine (isIdentifier_sanitize field.1)
  rw [writtenNames, Context.renderInterface, lines, List.cons_append, List.drop_one,
    List.tail_cons, List.dropLast_concat, List.map_map, List.map_map, List.map_map]
  exact List.map_congr_left fun field _ => hline field

lemma writtenFrom_renderEnum (name : String) (type : Option String)
    (members : Option EnumMembers) :
    (renderEnum name type members).WrittenFrom (members.elim [] (·.keys)) := by
  refine writtenFrom_of_written ?_ (writtenNames_renderEnum name type members)
  cases members with
  | none => exact List.nodup_nil
  | some members => exact members.keys_nodup

lemma writtenFrom_renderInterface (context : Context) (name : String) (definition : Definition) :
    (context.renderInterface name definition).WrittenFrom (definition.fields.map Prod.fst) := by
  refine writtenFrom_of_written ?_ (writtenNames_renderInterface context name definition)
  rw [Definition.fields]
  cases definition.elements with
  | none => exact List.nodup_nil
  | some elements => exact elements.keys_nodup

/-- An alias has a single line and no names on lines of their own. -/
lemma writtenFrom_renderAlias (context : Context) (name : String) (definition : Definition) :
    (context.renderAlias name definition).WrittenFrom [] :=
  writtenFrom_of_written List.nodup_nil rfl

end Declaration

open Declaration

/-- The names in the maps that the declarations of a definition are made from: the members of each
field's enum, and the fields themselves. -/
def Definition.nameLists (definition : Definition) : Shape → List (List String)
  | .interface =>
    definition.fields.filterMap (fun field =>
      field.2.enumCarrier?.map fun carrier => carrier.members.elim [] (·.keys)) ++
      [definition.fields.map Prod.fst]
  | .enumeration => [definition.members.elim [] (·.keys)]
  | .typeAlias => [[]]

/-- The names in the maps that all declarations are made from, those of the index last. -/
def Schema.nameLists (schema : Schema) (config : Config) : List (List String) :=
  schema.definitions.entries.flatMap
      (fun entry => (Shape.of? entry.2).elim [] entry.2.nameLists) ++
    if config.entityIndex then [schema.indexMembers.keys] else []

lemma writtenFrom_fieldEnums (owner : String) (fields : List (String × Element)) :
    List.Forall₂ WrittenFrom
      (fields.filterMap fun field => fieldEnum? owner field.1 field.2)
      (fields.filterMap fun field =>
        field.2.enumCarrier?.map fun carrier => carrier.members.elim [] (·.keys)) := by
  induction fields with
  | nil => exact List.Forall₂.nil
  | cons field rest ih =>
    rw [List.filterMap_cons, List.filterMap_cons, fieldEnum?]
    cases field.2.enumCarrier? with
    | none => exact ih
    | some carrier => exact ih.cons (writtenFrom_renderEnum _ carrier.type carrier.members)

lemma writtenFrom_renderAs (context : Context) (owner : String) (definition : Definition)
    (shape : Shape) :
    List.Forall₂ WrittenFrom (context.renderAs owner definition shape).declarations
      (definition.nameLists shape) := by
  cases shape with
  | interface =>
    exact List.rel_append (writtenFrom_fieldEnums owner definition.fields)
      (.cons (writtenFrom_renderInterface context owner definition) .nil)
  | enumeration =>
    exact .cons (writtenFrom_renderEnum owner definition.type definition.members) .nil
  | typeAlias => exact .cons (writtenFrom_renderAlias context owner definition) .nil

lemma writtenFrom_definitionUnits (context : Context) (entries : List (String × Definition)) :
    List.Forall₂ WrittenFrom
      ((entries.filterMap (Schema.unit? context)).flatMap (·.declarations))
      (entries.flatMap fun entry => (Shape.of? entry.2).elim [] entry.2.nameLists) := by
  induction entries with
  | nil => exact List.Forall₂.nil
  | cons entry rest ih =>
    rw [List.filterMap_cons, List.flatMap_cons]
    cases hshape : Shape.of? entry.2 with
    | none =>
      rw [Schema.unit?_eq_none context hshape]
      exact ih
    | some shape =>
      rw [Schema.unit?_eq_some context hshape]
      exact List.rel_append (writtenFrom_renderAs context entry.1 entry.2 shape) ih

lemma isIdentifier_of_mem_indexKeys {schema : Schema} {name : String}
    (h : name ∈ schema.indexMembers.keys) : IsIdentifier name.toList := by
  rw [Schema.indexMembers, OrderedMap.keys_ofList, List.mem_eraseDups, List.map_map] at h
  obtain ⟨entry, -, rfl⟩ := List.mem_map.mp h
  exact isIdentifier_ofQualified entry.1

/-- Every declaration has a line for each field or member of the map that it is made from. The names
on the lines are distinct exactly if no two names of the map are alike, and they are the names of
the map if these are identifiers, as those of the index always are. -/
theorem written_names_distinct_iff :
    (∀ (context : Context) (owner : String) (definition : Definition) (shape : Shape),
      List.Forall₂ WrittenFrom (context.renderAs owner definition shape).declarations
        (definition.nameLists shape)) ∧
    (∀ (schema : Schema) (config : Config),
      List.Forall₂ WrittenFrom ((schema.sourceFiles config).flatMap (·.declarations))
        (schema.nameLists config)) ∧
    ∀ (schema : Schema), ∀ name ∈ schema.indexMembers.keys, IsIdentifier name.toList := by
  refine ⟨writtenFrom_renderAs, fun schema config => ?_,
    fun schema name => isIdentifier_of_mem_indexKeys⟩
  have hdefinitions :=
    writtenFrom_definitionUnits (config.context schema) schema.definitions.entries
  rw [Schema.declarations_sourceFiles, Schema.units, List.flatMap_append, Schema.nameLists]
  refine List.rel_append hdefinitions ?_
  split
  · exact .cons (writtenFrom_renderEnum _ none (some schema.indexMembers)) .nil
  · exact .nil

/-- A hyphen and an underscore are both written as an underscore. -/
theorem hyphen_and_underscore_are_merged :
    let definition : Definition :=
      .entity (.ofList [("a-b", .ofType "cds.String"), ("a_b", .ofType "cds.Integer")])
    let declaration := (⟨"", none⟩ : Context).renderInterface "A" definition
    (definition.fields.map Prod.fst).Nodup ∧ "" ∉ definition.fields.map Prod.fst ∧
      declaration.writtenNames = ["a_b", "a_b"] := by
  intro definition declaration
  have hhyphen : isAllowed '-' = false := isAllowed_eq_false (by decide) (by decide) (by decide)
  have hletter : ∀ c : Char, c.isAlpha → isAllowed c := fun _ hc =>
    isAllowed_of_isAlphabetic (isAlphabetic_of_isAlpha hc)
  have hidentifier : IsIdentifier "a_b".toList := by
    refine ⟨?_, fun c hc => ?_⟩
    · simp [hletter, isAllowed_underscore]
    · obtain rfl : 'a' = c := Option.some.inj hc
      rfl
  have hkept : sanitize "a_b" = "a_b" := sanitize_eq_self hidentifier
  have hmerged : sanitize "a-b" = sanitize "a_b" := by
    refine sanitize_eq_iff.mpr (Or.inl ?_)
    simp [SameSign, isBlanked, hhyphen]
  have hfields : definition.fields.map Prod.fst = ["a-b", "a_b"] := rfl
  refine ⟨by decide, by decide, ?_⟩
  rw [writtenNames_renderInterface, hfields, List.map_cons, List.map_singleton, hmerged, hkept]

end CdsDeclarations
