import CdsDeclarations.Proofs.LineFeeds
import CdsDeclarations.Proofs.ReadLiterals
import CdsDeclarations.Proofs.WrittenNames

/-!
# Enums read back

The text of an enum is read line by line: the header has its name, and every line up to the closing
brace has a member, perhaps with a value. What is written for an enum is read back member by member.
-/

namespace CdsDeclarations

open Identifier

/-- The value of a member as it is read: the text of a literal, or a numeral as it stands. -/
inductive ReadValue
  | text (value : String)
  | numeral (source : String)
  deriving DecidableEq, Repr

structure ReadMember where
  name : String
  value : Option ReadValue
  deriving DecidableEq, Repr

/-- A value and what follows it. Where no numeral stands there has to be a literal. -/
def readValue? (source : List Char) : Option (ReadValue × List Char) :=
  let numeral := source.takeWhile Number.isTextChar
  if numeral.isEmpty then (StringLiteral.read? source).map fun (text, rest) => (.text text, rest)
  else some (.numeral (String.ofList numeral), source.drop numeral.length)

/-- A member from its line: the name, perhaps a value behind an equals sign, and a comma. -/
def readMember? (line : String) : Option ReadMember :=
  let name := nameOnLine line
  match line.toList.drop (indent.length + name.length) with
  | [','] => some ⟨name, none⟩
  | ' ' :: '=' :: ' ' :: source =>
    match readValue? source with
    | some (value, [',']) => some ⟨name, some value⟩
    | _ => none
  | _ => none

/-- The name on the line that opens an enum. -/
def readHeader? (line : String) : Option String :=
  let name := String.ofList ((line.toList.drop "export enum ".length).takeWhile isAllowed)
  if line = enumHeader name then some name else none

/-- An enum from its text: the name, and the members in their order. -/
def readEnum? (text : String) : Option (String × List ReadMember) :=
  match textLines text with
  | [] => none
  | header :: body => do
    let name ← readHeader? header
    let members ← body.dropLast.mapM readMember?
    if body.getLast? = some closingBrace then some (name, members) else none

def EnumLiteral.readValue : EnumLiteral → ReadValue
  | number value => .numeral value.text
  | text value => .text value

/-- The member that is read where one is written. -/
def EnumMember.readMember (member : EnumMember) : ReadMember :=
  ⟨member.name, member.literal.map EnumLiteral.readValue⟩

lemma Number.text_ne_nil (number : Number) : number.text.toList ≠ [] := by
  cases number with
  | integer value =>
    rw [text, Int.toString_eq_repr, Int.repr_eq_if]
    split
    · rw [Nat.toList_repr]
      exact Nat.toDigits_ne_nil
    · simp
  | floating value =>
    rw [text, String.toList_ofList, doubleText, decimalText, positional, scientific]
    split_ifs <;> simp

lemma readValue?_source (literal : EnumLiteral) :
    readValue? (literal.source.toList ++ [',']) = some (literal.readValue, [',']) := by
  cases literal with
  | number value =>
    have hcomma : [','].takeWhile Number.isTextChar = [] := rfl
    have hnumeral :
        (value.text.toList ++ [',']).takeWhile Number.isTextChar = value.text.toList := by
      rw [List.takeWhile_append_of_pos value.isTextChar_text, hcomma, List.append_nil]
    rw [EnumLiteral.source, readValue?, hnumeral, if_neg (by simpa using value.text_ne_nil),
      String.ofList_toList, List.drop_left]
    rfl
  | text value =>
    have hquote : Number.isTextChar '"' = false := rfl
    have hread := StringLiteral.read?_encodeChars value.toList [',']
    rw [EnumLiteral.source, StringLiteral.encode, String.toList_ofList, readValue?, hread]
    rw [StringLiteral.encodeChars, List.cons_append, List.cons_append,
      List.takeWhile_cons_of_neg (by simp [hquote]), String.ofList_toList]
    rfl

lemma readMember?_line {member : EnumMember} (h : IsIdentifier member.name.toList) :
    readMember? member.line = some member.readMember := by
  have hname := nameOnLine_memberLine h
  have hrest : member.line.toList.drop (indent.length + member.name.length) =
      (member.literal.elim "" fun literal => " = " ++ literal.source).toList ++ [','] := by
    rw [EnumMember.line, String.append_assoc, String.toList_append, ← String.length_append,
      ← String.length_toList, List.drop_left, String.toList_append]
    rfl
  rw [readMember?, hname, hrest, EnumMember.readMember]
  cases member.literal with
  | none => rfl
  | some literal =>
    have hsource : ((some literal).elim "" fun literal => " = " ++ literal.source).toList ++ [','] =
        ' ' :: '=' :: ' ' :: (literal.source.toList ++ [',']) := by
      rw [Option.elim_some, String.toList_append]
      rfl
    rw [hsource]
    simp only [readValue?_source]
    rfl

lemma mapM_readMember? {members : List EnumMember}
    (h : ∀ member ∈ members, IsIdentifier member.name.toList) :
    (members.map EnumMember.line).mapM readMember? = some (members.map EnumMember.readMember) := by
  induction members with
  | nil => rfl
  | cons member rest ih =>
    obtain ⟨hmember, hrest⟩ := List.forall_mem_cons.mp h
    rw [List.map_cons, List.mapM_cons, readMember?_line hmember, ih hrest]
    rfl

lemma readHeader?_enumHeader {name : String} (h : IsIdentifier name.toList) :
    readHeader? (enumHeader name) = some name := by
  have hdrop :
      (enumHeader name).toList.drop "export enum ".length = name.toList ++ [' ', '\x7b'] := by
    rw [enumHeader, String.append_assoc, String.toList_append, ← String.length_toList,
      List.drop_left, String.toList_append]
    rfl
  have hstop : [' ', '\x7b'].takeWhile isAllowed = [] :=
    List.takeWhile_cons_of_neg (by simp [isAllowed_space])
  rw [readHeader?, hdrop, List.takeWhile_append_of_pos h.allowed, hstop, List.append_nil,
    String.ofList_toList]
  exact if_pos rfl

/-- The text of an enum is read back as its name and its members. -/
theorem readEnum?_text {name : String} {members : List EnumMember}
    (hname : IsIdentifier name.toList)
    (hmembers : ∀ member ∈ members, IsIdentifier member.name.toList) :
    readEnum? (Declaration.enumeration name members).text =
      some (name, members.map EnumMember.readMember) := by
  have hlines : ∀ line ∈ (Declaration.enumeration name members).lines, OnOneLine line := by
    rw [Declaration.lines, List.cons_append, List.forall_mem_cons, List.forall_mem_append,
      List.forall_mem_map]
    refine ⟨?_, fun member hmember => onOneLine_memberLine (hmembers member hmember).onOneLine,
      by decide⟩
    simp only [enumHeader, onOneLine_append]
    exact ⟨⟨by decide, hname.onOneLine⟩, by decide⟩
  have hne : (Declaration.enumeration name members).lines ≠ [] := List.cons_ne_nil _ _
  rw [readEnum?, Declaration.text, textLines_intercalate hne hlines]
  simp only [Declaration.lines, List.cons_append, readHeader?_enumHeader hname,
    List.dropLast_concat, mapM_readMember? hmembers, List.getLast?_concat, Option.bind_eq_bind,
    Option.bind_some, if_true]

/-- An enum that is made from a map of members is read back with one member for each of them. -/
lemma readEnum?_renderEnum (name : String) (type : Option String) (members : Option EnumMembers) :
    readEnum? (renderEnum name type members).text =
      some (ofQualified name, (members.elim [] (·.entries)).map fun entry =>
        (renderMember (type.any ScalarType.isNumericTag) entry).readMember) := by
  have hmembers : ∀ member ∈ (members.elim [] (·.entries)).map
      (renderMember (type.any ScalarType.isNumericTag)), IsIdentifier member.name.toList :=
    List.forall_mem_map.mpr fun entry _ => isIdentifier_sanitize entry.1
  rw [renderEnum, readEnum?_text (isIdentifier_ofQualified name) hmembers, List.map_map]
  rfl

end CdsDeclarations
