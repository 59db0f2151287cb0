import CdsDeclarations.Proofs.ReadEnums

/-!
# Literals of enums

A literal in the text of an enum comes to its end where it is meant to, whatever its text holds, so
that the members can be told from the text: each one is read back under its identifier, with the
value that the model gives it.
-/

namespace CdsDeclarations

open Identifier

/-- What holds of the literal of a text: a reader takes it and nothing of what follows, finds no end
in any shorter part of it, and meets no line end on the way. -/
structure StringLiteral.ReadsBack (text : String) : Prop where
  read : ∀ after, read? ((encode text).toList ++ after) = some (text, after)
  cut : ∀ count < (encode text).toList.length, read? ((encode text).toList.take count) = none
  on_one_line : ∀ c ∈ (encode text).toList, c ≠ '\n' ∧ c ≠ '\r'

lemma StringLiteral.readsBack (text : String) : StringLiteral.ReadsBack text := by
  have hencode : (encode text).toList = encodeChars text.toList := String.toList_ofList
  refine ⟨fun after => ?_, fun count hcount => ?_, fun c hc => ?_⟩
  · rw [hencode, read?_encodeChars, String.ofList_toList]
  · rw [hencode] at hcount ⊢
    exact read?_take_encodeChars hcount
  · rw [hencode] at hc
    exact ne_lineEnd_of_mem_encodeChars c hc

/-- Whether members without a value are counted on: the base type of the enum is a number. -/
def IsCounted (type : Option String) : Prop :=
  ∃ tag, type = some tag ∧ BuiltinType.ofTag tag = .number

lemma isNumeric_iff {scalar : ScalarType} :
    scalar.isNumeric ↔ BuiltinType.ofScalar scalar = .number := by
  cases scalar <;> decide

lemma isNumericTag_iff {tag : String} :
    ScalarType.isNumericTag tag ↔ BuiltinType.ofTag tag = .number := by
  rw [ScalarType.isNumericTag, BuiltinType.ofTag]
  cases ScalarType.ofTag? tag with
  | none => simp
  | some scalar => exact isNumeric_iff

lemma any_isNumericTag_iff {type : Option String} :
    type.any ScalarType.isNumericTag ↔ IsCounted type := by
  simp only [IsCounted, Option.any_eq_true, isNumericTag_iff]

/-- What is read back of a member in a model: its name as an identifier, and its value. A member
without a value has its own name as its value, unless it is counted on; then, and only then, it has
no literal. -/
structure ReadsAs (type : Option String) (entry : String × EnumValue) (member : ReadMember) :
    Prop where
  name_eq : member.name = sanitize entry.1
  text : ∀ value, entry.2 = .text value → member.value = some (.text value)
  flag : ∀ value, entry.2 = .flag value → member.value = some (.text (toString value))
  number : ∀ value, entry.2 = .number value → member.value = some (.numeral value.text)
  implicit : entry.2 = .implicit → ¬IsCounted type → member.value = some (.text entry.1)
  bare_iff : member.value = none ↔ entry.2 = .implicit ∧ IsCounted type

lemma readsAs_renderMember (type : Option String) (entry : String × EnumValue) :
    ReadsAs type entry (renderMember (type.any ScalarType.isNumericTag) entry).readMember := by
  obtain ⟨name, value⟩ := entry
  constructor
  · rfl
  · rintro text rfl
    rfl
  · rintro flag rfl
    cases flag with
    | false => rfl
    | true => rfl
  · rintro number rfl
    rfl
  · rintro rfl hcounted
    rw [← any_isNumericTag_iff, Bool.not_eq_true] at hcounted
    rw [hcounted]
    rfl
  · rw [← any_isNumericTag_iff]
    cases value with
    | number value => simp [renderMember, enumLiteral, EnumMember.readMember]
    | text value => simp [renderMember, enumLiteral, EnumMember.readMember]
    | flag value => simp [renderMember, enumLiteral, EnumMember.readMember]
    | implicit => simp [renderMember, enumLiteral, EnumMember.readMember]

/-- Every enum is read back as its name and a member for each one in the model, in their order. -/
lemma exists_members_of_renderEnum (name : String) (type : Option String)
    (members : Option EnumMembers) :
    ∃ found, readEnum? (renderEnum name type members).text = some (ofQualified name, found) ∧
      List.Forall₂ (ReadsAs type) (members.elim [] (·.entries)) found := by
  refine ⟨_, readEnum?_renderEnum name type members, ?_⟩
  rw [List.forall₂_map_right_iff, List.forall₂_same]
  exact fun entry _ => readsAs_renderMember type entry

/-- The literal of every text is read back, and so are the members of every enum: those of a
definition, and those that are declared for a field. -/
theorem enum_literals_read_back :
    (∀ text, StringLiteral.ReadsBack text) ∧
      (∀ (context : Context) (name : String) (definition : Definition),
        Shape.of? definition = some .enumeration →
          ∃ rendered found, context.render? name definition = some rendered ∧
            readEnum? (declarationsText rendered.declarations) = some (rendered.name, found) ∧
            List.Forall₂ (ReadsAs definition.type) (definition.members.elim [] (·.entries)) found) ∧
      ∀ (owner field : String) (element carrier : Element),
        element.enumCarrier? = some carrier →
          ∃ declaration found, fieldEnum? owner field element = some declaration ∧
            readEnum? declaration.text = some (declaration.name, found) ∧
            List.Forall₂ (ReadsAs carrier.type) (carrier.members.elim [] (·.entries)) found := by
  refine ⟨StringLiteral.readsBack, fun context name definition hshape => ?_,
    fun owner field element carrier hcarrier => ?_⟩
  · obtain ⟨found, hread, hfound⟩ :=
      exists_members_of_renderEnum name definition.type definition.members
    have htext : declarationsText [renderEnum name definition.type definition.members] =
        (renderEnum name definition.type definition.members).text := by
      rw [declarationsText, List.map_singleton, blocksText, String.intercalate_singleton]
    refine ⟨context.renderAs name definition .enumeration, found, ?_, ?_, hfound⟩
    · rw [Context.render?, hshape, Option.map_some]
    · rw [← htext] at hread
      exact hread
  · obtain ⟨found, hread, hfound⟩ := exists_members_of_renderEnum
      (ResolvedType.inlineEnumName owner field) carrier.type carrier.members
    exact ⟨_, found, by rw [fieldEnum?, hcarrier, Option.map_some], hread, hfound⟩

/-- A value that looks like the end of its member and like another one is read back, and so is a
member that is counted on. -/
theorem literal_with_member_syntax_read_back :
    let flags := Definition.enumeration none
      (.ofList [("in-progress", .text "\",\n    x = \"\\"), ("yes", .flag true)])
    let level := Element.withEnum (some "cds.Integer") (.ofList [("low", .implicit)])
    2 < (StringLiteral.encode "\"").toList.length ∧
      StringLiteral.read? ((StringLiteral.encode "\"").toList.take 2) = none ∧
      Shape.of? flags = some .enumeration ∧ level.enumCarrier? = some level ∧
      (∃ text first second, readEnum? text = some (ofQualified "my.Flags", [first, second]) ∧
        first.name = sanitize "in-progress" ∧
        first.value = some (.text "\",\n    x = \"\\") ∧
        second.value = some (.text "true")) ∧
      ∃ text name member, readEnum? text = some (name, [member]) ∧ member.value = none := by
  intro flags level
  obtain ⟨hliterals, hdefinitions, hfields⟩ := enum_literals_read_back
  have hcount : 2 < (StringLiteral.encode "\"").toList.length := by decide
  have hcounted : IsCounted (some "cds.Integer") := ⟨"cds.Integer", rfl, by decide⟩
  obtain ⟨rendered, found, hrendered, hread, hfound⟩ :=
    hdefinitions ⟨"", none⟩ "my.Flags" flags rfl
  obtain ⟨declaration, members, -, hfield, hmembers⟩ :=
    hfields "Books" "level" level level rfl
  refine ⟨hcount, (hliterals "\"").cut 2 hcount, rfl, rfl, ?_, ?_⟩
  · change List.Forall₂ _ [_, _] found at hfound
    obtain _ | ⟨hfirst, hrest⟩ := hfound
    obtain _ | ⟨hsecond, hnone⟩ := hrest
    cases hnone
    obtain rfl := Option.some.inj hrendered
    exact ⟨_, _, _, hread, hfirst.name_eq, hfirst.text _ rfl, hsecond.flag _ rfl⟩
  · change List.Forall₂ _ [_] members at hmembers
    obtain _ | ⟨hmember, hnone⟩ := hmembers
    cases hnone
    exact ⟨_, _, _, hfield, hmember.bare_iff.mpr ⟨rfl, hcounted⟩⟩

end CdsDeclarations
