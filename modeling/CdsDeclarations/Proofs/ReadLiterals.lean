import CdsDeclarations.Declaration.StringLiteral
import CdsDeclarations.Proofs.JsonTrees
import Mathlib.Tactic.SplitIfs

/-!
# String literals read back

A program's string literal is read from its first quote on: escapes are decoded to characters and
16-bit units, a backslash before a line end joins two lines, and a bare line feed or carriage return
is an error. What is written for a text is read back as that text, whatever follows it.
-/

namespace CdsDeclarations

namespace StringLiteral

open Json

/-- The characters that end a line of a program. -/
def isLineEnd (c : Char) : Bool :=
  ['\n', '\r', '\u2028', '\u2029'].contains c

/-- What a character stands for behind a backslash. Line ends stand for nothing, digits and the
letters of numeric escapes for nothing by themselves, and most characters for themselves. -/
def escaped? (c : Char) : Option (List TextPiece) :=
  if isLineEnd c then some []
  else if isDigit c || c = 'x' || c = 'u' then none
  else
    match c with
    | 'b' => some [.char '\x08']
    | 't' => some [.char '\t']
    | 'n' => some [.char '\n']
    | 'v' => some [.char '\x0b']
    | 'f' => some [.char '\x0c']
    | 'r' => some [.char '\r']
    | c => some [.char c]

/-- The code point that is written with some hexadecimal digits. -/
def codePoint? (digits : List Char) : Option Nat := do
  let value ← digits.foldlM (fun value digit => (hexDigit? digit).map (value * 16 + ·)) 0
  if digits.isEmpty || 0x10FFFF < value then none else some value

/-- What is written behind a backslash, and how many characters of it belong to the escape. -/
def readEscape? : List Char → Option (List TextPiece × Nat)
  | [] => none
  | '\r' :: '\n' :: _ => some ([], 2)
  | '0' :: rest => if rest.head?.any isDigit then none else some ([.char '\x00'], 1)
  | 'x' :: a :: b :: _ => (hexUnit? '0' '0' a b).map fun value => ([.unit value], 3)
  | 'u' :: '\x7b' :: rest =>
    let digits := rest.takeWhile (· ≠ '\x7d')
    if digits.length < rest.length then
      (codePoint? digits).map fun value => ([.unit value], digits.length + 3)
    else none
  | 'u' :: a :: b :: c :: d :: _ => (hexUnit? a b c d).map fun value => ([.unit value], 5)
  | c :: _ => (escaped? c).map fun pieces => (pieces, 1)

/-- The pieces of a literal up to its closing quote, and what follows it. -/
def readBody? (quote : Char) : List Char → Option (List TextPiece × List Char)
  | [] => none
  | c :: rest =>
    if c = quote then some ([], rest)
    else if c = '\n' || c = '\r' then none
    else if c = '\\' then
      match readEscape? rest with
      | none => none
      | some (pieces, size) =>
        (readBody? quote (rest.drop size)).map fun (more, after) => (pieces ++ more, after)
    else (readBody? quote rest).map fun (more, after) => (.char c :: more, after)
termination_by source => source.length
decreasing_by
  · simp only [List.length_drop, List.length_cons]
    omega
  · exact Nat.lt_succ_self rest.length

/-- The text of a literal and what follows it. -/
def read? : List Char → Option (String × List Char)
  | [] => none
  | quote :: source =>
    if quote = '"' || quote = '\'' then do
      let (pieces, rest) ← readBody? quote source
      let text ← (TextLiteral.readPieces .closed [] pieces).toOption
      return (text, rest)
    else none

/-- A character is written as an escape that is read back as it, or it stands for itself. -/
lemma escapeChar_cases (c : Char) :
    (∃ sign, escapeChar c = ['\\', sign] ∧
      ∀ rest, readEscape? (sign :: rest) = some ([.char c], 1)) ∨
    escapeChar c = [c] ∧ c ≠ '"' ∧ c ≠ '\\' ∧ c ≠ '\n' ∧ c ≠ '\r' := by
  rw [escapeChar]
  split_ifs with hquote hbackslash hfeed hreturn htab
  · exact Or.inl ⟨_, rfl, fun rest => by rw [hquote]; rfl⟩
  · exact Or.inl ⟨_, rfl, fun rest => by rw [hbackslash]; rfl⟩
  · exact Or.inl ⟨_, rfl, fun rest => by rw [hfeed]; rfl⟩
  · exact Or.inl ⟨_, rfl, fun rest => by rw [hreturn]; rfl⟩
  · exact Or.inl ⟨_, rfl, fun rest => by rw [htab]; rfl⟩
  · exact Or.inr ⟨rfl, hquote, hbackslash, hfeed, hreturn⟩

lemma readBody?_escaped (chars rest : List Char) :
    readBody? '"' (chars.flatMap escapeChar ++ '"' :: rest) = some (chars.map .char, rest) := by
  induction chars with
  | nil => rw [List.flatMap_nil, List.nil_append, readBody?, if_pos rfl, List.map_nil]
  | cons c chars ih =>
    rw [List.flatMap_cons, List.append_assoc]
    rcases escapeChar_cases c with ⟨sign, hescape, hread⟩ | ⟨hescape, hquote, hbackslash, hline⟩
    · rw [hescape, List.cons_append, List.singleton_append, readBody?, if_neg (by decide),
        if_neg (by decide), if_pos rfl, hread]
      simp only [List.drop_one, List.tail_cons, ih, Option.map_some]
      rfl
    · rw [hescape, List.singleton_append, readBody?, if_neg hquote, if_neg (by simpa using hline),
        if_neg hbackslash, ih]
      rfl

/-- The literal of a text is read back as the text, up to its closing quote and no further. -/
theorem read?_encodeChars (chars rest : List Char) :
    read? (encodeChars chars ++ rest) = some (String.ofList chars, rest) := by
  have hsource : encodeChars chars ++ rest = '"' :: (chars.flatMap escapeChar ++ '"' :: rest) := by
    rw [encodeChars, List.cons_append, List.cons_append, List.append_assoc]
    rfl
  rw [hsource, read?, if_pos (by decide), readBody?_escaped]
  simp only [Option.bind_eq_bind, Option.bind_some, TextLiteral.readPieces_map_char]
  rfl

/-- Without the closing quote the literal of a text has no end: every quote before it is escaped. -/
lemma readBody?_take_escaped (chars : List Char) (count : Nat) :
    readBody? '"' ((chars.flatMap escapeChar).take count) = none := by
  induction chars generalizing count with
  | nil => rw [List.flatMap_nil, List.take_nil, readBody?]
  | cons c chars ih =>
    rw [List.flatMap_cons]
    rcases escapeChar_cases c with ⟨sign, hescape, hread⟩ | ⟨hescape, hquote, hbackslash, hline⟩
    -- The cut may be in front of the escape, between its two characters, or behind it.
    · rw [hescape]
      match count with
      | 0 => rw [List.take_zero, readBody?]
      | 1 =>
        have hcut : (['\\', sign] ++ chars.flatMap escapeChar).take 1 = ['\\'] := rfl
        rw [hcut, readBody?, if_neg (by decide), if_neg (by decide), if_pos rfl]
        rfl
      | count + 2 =>
        have hcut : (['\\', sign] ++ chars.flatMap escapeChar).take (count + 2) =
            '\\' :: sign :: (chars.flatMap escapeChar).take count := rfl
        rw [hcut, readBody?, if_neg (by decide), if_neg (by decide), if_pos rfl, hread]
        simp only [List.drop_one, List.tail_cons, ih, Option.map_none]
    · rw [hescape]
      match count with
      | 0 => rw [List.take_zero, readBody?]
      | count + 1 =>
        rw [List.singleton_append, List.take_succ_cons, readBody?, if_neg hquote,
          if_neg (by simpa using hline), if_neg hbackslash, ih, Option.map_none]

/-- No shorter part of a literal is a literal. -/
theorem read?_take_encodeChars {chars : List Char} {count : Nat}
    (h : count < (encodeChars chars).length) : read? ((encodeChars chars).take count) = none := by
  have hsource : encodeChars chars = '"' :: (chars.flatMap escapeChar ++ ['"']) := rfl
  cases count with
  | zero => rfl
  | succ count =>
    have hcount : count ≤ (chars.flatMap escapeChar).length := by
      rw [hsource] at h
      simpa [Nat.lt_succ_iff] using h
    rw [hsource, List.take_succ_cons, List.take_append_of_le_length hcount, read?,
      if_pos (by decide), readBody?_take_escaped]
    rfl

lemma ne_lineEnd_of_mem_escapeChar {c d : Char} (h : d ∈ escapeChar c) : d ≠ '\n' ∧ d ≠ '\r' := by
  rcases escapeChar_cases c with ⟨sign, hescape, hread⟩ | ⟨hescape, -, -, hfeed, hreturn⟩
  · rw [hescape, List.mem_cons, List.mem_singleton] at h
    rcases h with rfl | rfl
    · decide
    -- A line end behind a backslash stands for nothing, but this escape stands for a character.
    · constructor
      · rintro rfl
        exact absurd (hread []) (by simp [readEscape?, escaped?, isLineEnd])
      · rintro rfl
        exact absurd (hread []) (by simp [readEscape?, escaped?, isLineEnd])
  · rw [hescape] at h
    obtain rfl := List.mem_singleton.mp h
    exact ⟨hfeed, hreturn⟩

lemma ne_lineEnd_of_mem_encodeChars {chars : List Char} :
    ∀ d ∈ encodeChars chars, d ≠ '\n' ∧ d ≠ '\r' := by
  have hquote : '"' ≠ '\n' ∧ '"' ≠ '\r' := by decide
  rw [encodeChars, List.cons_append, List.forall_mem_cons, List.forall_mem_append]
  refine ⟨hquote, fun d hd => ?_, fun d hd => ?_⟩
  · obtain ⟨c, -, hc⟩ := List.mem_flatMap.mp hd
    exact ne_lineEnd_of_mem_escapeChar hc
  · rw [List.mem_singleton.mp hd]
    exact hquote

end StringLiteral

end CdsDeclarations
