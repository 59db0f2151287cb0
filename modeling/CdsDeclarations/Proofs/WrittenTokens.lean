import CdsDeclarations.Proofs.JsonTokens
import Mathlib.Data.List.TakeWhile

/-!
# Written tokens

A token that was read from some text is read again from the same characters when a blank follows
them. So tokens from different places can be put together into a text.
-/

namespace CdsDeclarations.Json

/-- A token that is read whole from some characters wherever a blank follows them. -/
structure Token.IsWritable (token : Token) : Prop where
  isWhole : token.isWhole
  taken : ∃ first others, isBlank first = false ∧
    ∀ rest, next first (others ++ ' ' :: rest) = (token, ' ' :: rest)

namespace TextLiteral

variable {reversed : List TextPiece}

lemma badUnitEnd_ne_closed (rest : List Char) : badUnitEnd rest ≠ .closed := by
  rw [badUnitEnd]
  split <;> nofun

lemma scan_unit {a b c d : Char} {value : Nat} (h : hexUnit? a b c d = some value)
    (rest : List Char) :
    scan reversed ('\\' :: 'u' :: a :: b :: c :: d :: rest) =
      scan (.unit value :: reversed) rest := by
  rw [scan, h]

lemma scan_shortEscape {e c : Char} (h : shortEscape? e = some c) (rest : List Char) :
    scan reversed ('\\' :: e :: rest) = scan (.char c :: reversed) rest := by
  have hne : e ≠ 'u' := by
    rintro rfl
    cases h
  rw [scan, h]
  · exact fun _ _ _ _ _ he _ => hne he
  · exact hne

lemma scan_plain {c : Char} (hquote : c ≠ '"') (hescape : c ≠ '\\') (hplain : ¬c.toNat < 0x20)
    (rest : List Char) : scan reversed (c :: rest) = scan (.char c :: reversed) rest := by
  rw [scan, if_neg hplain] <;> simp [hquote, hescape]

/-- A closed text takes the same characters whatever follows them. -/
lemma exists_taken_of_scan {text : List Char} (h : (scan reversed text).1.ending = .closed) :
    ∃ taken, ∀ rest, scan reversed (taken ++ rest) = ((scan reversed text).1, rest) := by
  fun_induction scan reversed text with
  | case1 => cases h
  | case2 => cases h
  | case3 reversed rest => exact ⟨['"'], fun _ => by simp [scan]⟩
  | case4 reversed a b c d rest value hvalue ih =>
    obtain ⟨taken, htaken⟩ := ih h
    exact ⟨'\\' :: 'u' :: a :: b :: c :: d :: taken, fun rest =>
      (scan_unit hvalue (taken ++ rest)).trans (htaken rest)⟩
  | case5 => exact absurd h (badUnitEnd_ne_closed _)
  | case6 => exact absurd h (badUnitEnd_ne_closed _)
  | case7 reversed e rest _ _ c hc ih =>
    obtain ⟨taken, htaken⟩ := ih h
    exact ⟨'\\' :: e :: taken, fun rest =>
      (scan_shortEscape hc (taken ++ rest)).trans (htaken rest)⟩
  | case8 => cases h
  | case9 => cases h
  | case10 reversed c rest hlast hquote _ _ hescape hplain ih =>
    have hne : c ≠ '\\' := by
      intro hc
      cases rest with
      | nil => exact hlast hc rfl
      | cons e rest => exact hescape e rest hc rfl
    obtain ⟨taken, htaken⟩ := ih h
    exact ⟨c :: taken, fun rest =>
      (scan_plain hquote hne hplain (taken ++ rest)).trans (htaken rest)⟩

end TextLiteral

namespace Numeral

section Digits

variable {digits rest : List Char}

lemma takeWhile_digits_append (hdigits : ∀ c ∈ digits, isDigit c)
    (hrest : rest.takeWhile isDigit = []) : (digits ++ rest).takeWhile isDigit = digits := by
  rw [List.takeWhile_append_of_pos hdigits, hrest, List.append_nil]

lemma dropWhile_digits_append (hdigits : ∀ c ∈ digits, isDigit c)
    (hrest : rest.takeWhile isDigit = []) : (digits ++ rest).dropWhile isDigit = rest := by
  rw [List.dropWhile_append_of_pos hdigits]
  have hsplit := List.takeWhile_append_dropWhile (p := isDigit) (l := rest)
  rwa [hrest, List.nil_append] at hsplit

lemma isDigit_of_mem_takeWhile (text : List Char) : ∀ c ∈ text.takeWhile isDigit, isDigit c :=
  fun _ hc => List.mem_takeWhile_imp hc

lemma missingDigit_ne_complete (text : List Char) : missingDigit text ≠ .complete := by
  cases text with
  | nil => nofun
  | cons c rest => nofun

end Digits

variable {numeral : Numeral}

/-- The exponent behind its sign. -/
def readExponentDigits (numeral : Numeral) (negative : Bool) (text : List Char) :
    Numeral × List Char :=
  let digits := text.takeWhile isDigit
  let rest := text.dropWhile isDigit
  let ending := if digits.isEmpty then missingDigit rest else .complete
  ({ numeral with exponentNegative := negative, exponent := some digits, ending := ending }, rest)

lemma readExponent_eq (text : List Char) :
    numeral.readExponent text =
      match text with
      | '-' :: rest => numeral.readExponentDigits true rest
      | '+' :: rest => numeral.readExponentDigits false rest
      | _ => numeral.readExponentDigits false text := by
  cases text with
  | nil => rfl
  | cons c rest =>
    by_cases hminus : c = '-'
    · rw [hminus]
      rfl
    · by_cases hplus : c = '+'
      · rw [hplus]
        rfl
      · simp [readExponent, readExponentDigits, hminus, hplus]

lemma exists_digits_of_readExponentDigits {negative : Bool} {text : List Char}
    (h : (numeral.readExponentDigits negative text).1.ending = .complete) :
    ∃ d others, isDigit d ∧ ∀ rest,
      numeral.readExponentDigits negative (d :: (others ++ ' ' :: rest)) =
        ((numeral.readExponentDigits negative text).1, ' ' :: rest) := by
  have hdigits := isDigit_of_mem_takeWhile text
  rw [readExponentDigits] at h ⊢
  dsimp only at h ⊢
  cases hd : text.takeWhile isDigit with
  | nil =>
    simp only [hd] at h
    exact absurd h (missingDigit_ne_complete _)
  | cons d others =>
    rw [hd] at hdigits
    refine ⟨d, others, hdigits d List.mem_cons_self, fun rest => ?_⟩
    have hblank : (' ' :: rest).takeWhile isDigit = [] := rfl
    have htake := takeWhile_digits_append hdigits hblank
    have hdrop := dropWhile_digits_append hdigits hblank
    rw [List.cons_append] at htake hdrop
    rw [readExponentDigits, htake, hdrop]
    rfl

lemma exists_taken_of_readExponent {text : List Char}
    (h : (numeral.readExponent text).1.ending = .complete) :
    ∃ taken, ∀ rest, numeral.readExponent (taken ++ ' ' :: rest) =
      ((numeral.readExponent text).1, ' ' :: rest) := by
  rw [readExponent_eq] at h ⊢
  split at h
  · obtain ⟨d, others, -, htaken⟩ := exists_digits_of_readExponentDigits h
    exact ⟨'-' :: d :: others, htaken⟩
  · obtain ⟨d, others, -, htaken⟩ := exists_digits_of_readExponentDigits h
    exact ⟨'+' :: d :: others, htaken⟩
  · obtain ⟨d, others, hd, htaken⟩ := exists_digits_of_readExponentDigits h
    refine ⟨d :: others, fun rest => ?_⟩
    rw [← htaken rest, readExponent_eq]
    split
    · next heq =>
      cases heq
      cases hd
    · next heq =>
      cases heq
      cases hd
    · rfl

lemma takeWhile_of_head {taken : List Char} (h : ∀ c ∈ taken.head?, isDigit c = false)
    (rest : List Char) : (taken ++ ' ' :: rest).takeWhile isDigit = [] := by
  cases taken with
  | nil => rfl
  | cons c others =>
    have hc : isDigit c = false := h c rfl
    rw [List.cons_append, List.takeWhile_cons_of_neg (by simp [hc])]

lemma exists_taken_of_readExponentMark {text : List Char}
    (h : (numeral.readExponentMark text).1.ending = .complete) :
    ∃ taken, (∀ c ∈ taken.head?, isDigit c = false ∧ c ≠ '.') ∧
      ∀ rest, numeral.readExponentMark (taken ++ ' ' :: rest) =
        ((numeral.readExponentMark text).1, ' ' :: rest) := by
  cases text with
  | nil => exact ⟨[], nofun, fun _ => rfl⟩
  | cons c text =>
    rw [readExponentMark] at h ⊢
    split at h
    · next hc =>
      obtain ⟨taken, htaken⟩ := exists_taken_of_readExponent h
      refine ⟨c :: taken, ?_, fun rest => ?_⟩
      · rintro _ ⟨⟩
        rw [Bool.or_eq_true, decide_eq_true_iff, decide_eq_true_iff] at hc
        rcases hc with rfl | rfl <;> decide
      · rw [List.cons_append, readExponentMark, if_pos hc, if_pos hc, htaken]
    · next hc =>
      rw [if_neg hc]
      exact ⟨[], nofun, fun _ => rfl⟩

lemma exists_taken_of_readFraction {text : List Char}
    (h : (numeral.readFraction text).1.ending = .complete) :
    ∃ taken, ∀ rest, numeral.readFraction (taken ++ ' ' :: rest) =
        ((numeral.readFraction text).1, ' ' :: rest) := by
  have hdigits := isDigit_of_mem_takeWhile text
  rw [readFraction] at h ⊢
  dsimp only at h ⊢
  split at h
  · exact absurd h (missingDigit_ne_complete _)
  · next hne =>
    obtain ⟨taken, hhead, htaken⟩ := exists_taken_of_readExponentMark h
    refine ⟨text.takeWhile isDigit ++ taken, fun rest => ?_⟩
    have hplain := takeWhile_of_head (fun c hc => (hhead c hc).1) rest
    rw [List.append_assoc, readFraction, takeWhile_digits_append hdigits hplain,
      dropWhile_digits_append hdigits hplain]
    dsimp only
    rw [if_neg hne, if_neg hne, htaken]

lemma readAfterWhole_of_head {taken : List Char} (h : ∀ c ∈ taken.head?, c ≠ '.')
    (rest : List Char) :
    numeral.readAfterWhole (taken ++ ' ' :: rest) =
      numeral.readExponentMark (taken ++ ' ' :: rest) := by
  rw [readAfterWhole.eq_def]
  split
  · next heq =>
    cases taken with
    | nil => cases heq
    | cons c others =>
      cases heq
      exact absurd rfl (h '.' rfl)
  · rfl

lemma exists_taken_of_readAfterWhole {text : List Char}
    (h : (numeral.readAfterWhole text).1.ending = .complete) :
    ∃ taken, (∀ c ∈ taken.head?, isDigit c = false) ∧
      ∀ rest, numeral.readAfterWhole (taken ++ ' ' :: rest) =
        ((numeral.readAfterWhole text).1, ' ' :: rest) := by
  rw [readAfterWhole.eq_def] at h ⊢
  split at h
  · obtain ⟨taken, htaken⟩ := exists_taken_of_readFraction h
    refine ⟨'.' :: taken, ?_, htaken⟩
    rintro _ ⟨⟩
    rfl
  · obtain ⟨taken, hhead, htaken⟩ := exists_taken_of_readExponentMark h
    refine ⟨taken, fun c hc => (hhead c hc).1, fun rest => ?_⟩
    rw [readAfterWhole_of_head fun c hc => (hhead c hc).2]
    exact htaken rest

/-- A complete numeral takes the same characters whatever follows the blank behind them. -/
lemma exists_taken_of_readUnsigned {negative : Bool} {text : List Char}
    (h : (readUnsigned negative text).1.ending = .complete) :
    ∃ c others, (isDigit c) ∧ ∀ rest, readUnsigned negative (c :: (others ++ ' ' :: rest)) =
      ((readUnsigned negative text).1, ' ' :: rest) := by
  have hdigits := isDigit_of_mem_takeWhile text
  rw [readUnsigned.eq_def] at h ⊢
  split at h
  · next others =>
    split at h
    · next hzero =>
      obtain ⟨taken, hhead, htaken⟩ := exists_taken_of_readAfterWhole h
      refine ⟨'0', taken, rfl, fun rest => ?_⟩
      rw [readUnsigned, takeWhile_of_head hhead, List.isEmpty_nil, if_pos rfl, if_pos hzero, htaken]
    · cases h
  · next hzero =>
    dsimp only at h ⊢
    split at h
    · exact absurd h (missingDigit_ne_complete _)
    · next hne =>
      obtain ⟨taken, hhead, htaken⟩ := exists_taken_of_readAfterWhole h
      rw [if_neg hne]
      cases hd : text.takeWhile isDigit with
      | nil => exact absurd (by rw [hd]; rfl) hne
      | cons d others =>
        have hfirst : d ≠ '0' := by
          rintro rfl
          have hsplit := List.takeWhile_append_dropWhile (p := isDigit) (l := text)
          rw [hd] at hsplit
          exact hzero _ hsplit.symm
        rw [hd] at hdigits htaken
        refine ⟨d, others ++ taken, hdigits d List.mem_cons_self, fun rest => ?_⟩
        have hplain := takeWhile_of_head hhead rest
        have htake := takeWhile_digits_append hdigits hplain
        have hdrop := dropWhile_digits_append hdigits hplain
        rw [List.cons_append] at htake hdrop
        rw [List.append_assoc, readUnsigned.eq_def]
        split
        · next heq =>
          cases heq
          exact absurd rfl hfirst
        · dsimp only
          rw [htake, hdrop, if_neg (by nofun), htaken]

end Numeral

namespace Token

lemma isWritable_openList : openList.IsWritable :=
  ⟨rfl, '[', [], rfl, fun _ => rfl⟩

lemma isWritable_closeList : closeList.IsWritable :=
  ⟨rfl, ']', [], rfl, fun _ => rfl⟩

lemma isWritable_openObject : openObject.IsWritable :=
  ⟨rfl, '\x7b', [], rfl, fun _ => rfl⟩

lemma isWritable_closeObject : closeObject.IsWritable :=
  ⟨rfl, '\x7d', [], rfl, fun _ => rfl⟩

lemma isWritable_comma : comma.IsWritable :=
  ⟨rfl, ',', [], rfl, fun _ => rfl⟩

lemma isWritable_colon : colon.IsWritable :=
  ⟨rfl, ':', [], rfl, fun _ => rfl⟩

lemma isWritable_null : null.IsWritable :=
  ⟨rfl, 'n', ['u', 'l', 'l'], rfl, fun _ => rfl⟩

lemma isWritable_boolean (value : Bool) : (boolean value).IsWritable := by
  cases value with
  | true => exact ⟨rfl, 't', ['r', 'u', 'e'], rfl, fun _ => rfl⟩
  | false => exact ⟨rfl, 'f', ['a', 'l', 's', 'e'], rfl, fun _ => rfl⟩

lemma ne_of_isDigit {c d : Char} (hc : isDigit c) (hd : isDigit d = false) : c ≠ d := by
  rintro rfl
  rw [hc] at hd
  cases hd

lemma next_of_isDigit {c : Char} (h : isDigit c) (rest : List Char) :
    next c rest = numberToken (Numeral.readUnsigned false (c :: rest)) := by
  have hne (d : Char) (hd : isDigit d = false) : c ≠ d := ne_of_isDigit h hd
  rw [next, if_neg (hne _ rfl), if_neg (hne _ rfl), if_neg (hne _ rfl), if_neg (hne _ rfl),
    if_neg (hne _ rfl), if_neg (hne _ rfl), if_neg (hne _ rfl), if_neg (hne _ rfl), if_pos h]

lemma isBlank_of_isDigit {c : Char} (h : isDigit c) : isBlank c = false := by
  have hne (d : Char) (hd : isDigit d = false) : c ≠ d := ne_of_isDigit h hd
  simp [isBlank, hne ' ' rfl, hne '\t' rfl, hne '\n' rfl, hne '\r' rfl]

lemma isWritable_text {text : List Char} (h : (TextLiteral.scan [] text).1.ending = .closed) :
    (Token.text (TextLiteral.scan [] text).1).IsWritable := by
  obtain ⟨taken, htaken⟩ := TextLiteral.exists_taken_of_scan h
  refine ⟨decide_eq_true h, '"', taken, rfl, fun rest => ?_⟩
  change (Token.text (TextLiteral.scan [] (taken ++ ' ' :: rest)).1, _) = _
  rw [htaken]

lemma isWritable_number {negative : Bool} {text : List Char}
    (h : (Numeral.readUnsigned negative text).1.ending = .complete) :
    (Token.number (Numeral.readUnsigned negative text).1).IsWritable := by
  obtain ⟨c, others, hc, htaken⟩ := Numeral.exists_taken_of_readUnsigned h
  refine ⟨decide_eq_true h, ?_⟩
  cases negative with
  | true =>
    refine ⟨'-', c :: others, rfl, fun rest => ?_⟩
    change numberToken (Numeral.readUnsigned true (c :: (others ++ ' ' :: rest))) = _
    rw [htaken]
    rfl
  | false =>
    refine ⟨c, others, isBlank_of_isDigit hc, fun rest => ?_⟩
    rw [next_of_isDigit hc, htaken]
    rfl

lemma wordToken_eq_of_isWhole {token : Token} {letters : String} {text : List Char}
    (h : (wordToken token letters text).1.isWhole) : (wordToken token letters text).1 = token := by
  rw [wordToken] at h ⊢
  cases hread : readWord letters.toList text with
  | ok rest => rfl
  | error textEnds =>
    rw [hread] at h
    cases h

lemma isWritable_of_next (c : Char) (text : List Char) :
    (next c text).1.isWhole → (next c text).1.IsWritable := by
  fun_cases next c text with
  | case1 => exact fun _ => isWritable_openObject
  | case2 => exact fun _ => isWritable_closeObject
  | case3 => exact fun _ => isWritable_openList
  | case4 => exact fun _ => isWritable_closeList
  | case5 => exact fun _ => isWritable_comma
  | case6 => exact fun _ => isWritable_colon
  | case7 => exact fun h => isWritable_text (of_decide_eq_true h)
  | case8 => exact fun h => isWritable_number (of_decide_eq_true h)
  | case9 => exact fun h => isWritable_number (of_decide_eq_true h)
  | case10 =>
    intro h
    rw [wordToken_eq_of_isWhole h]
    exact isWritable_null
  | case11 =>
    intro h
    rw [wordToken_eq_of_isWhole h]
    exact isWritable_boolean true
  | case12 =>
    intro h
    rw [wordToken_eq_of_isWhole h]
    exact isWritable_boolean false
  | case13 => nofun

/-- Whatever is read whole from a text can be written again. -/
lemma isWritable_of_mem_scanSteps {steps : Nat} {text : List Char} :
    ∀ token ∈ scanSteps steps text, token.isWhole → token.IsWritable := by
  induction steps generalizing text with
  | zero => nofun
  | succ steps ih =>
    cases text with
    | nil => nofun
    | cons c rest =>
      rw [scanSteps]
      by_cases hblank : isBlank c
      · rw [if_pos hblank]
        exact ih
      · rw [if_neg hblank]
        have hfirst := isWritable_of_next c rest
        generalize next c rest = step at hfirst ⊢
        obtain ⟨first, later⟩ := step
        intro token hmem hwhole
        rcases List.mem_cons.mp hmem with rfl | hmem
        · exact hfirst hwhole
        · split at hmem
          · exact ih token hmem hwhole
          · cases hmem

/-- Tokens that can be written one by one can be written one after the other. -/
lemma exists_text_of_isWritable {tokens : List Token} (h : ∀ token ∈ tokens, token.IsWritable) :
    ∃ text : List Char, ∀ steps, text.length ≤ steps → scanSteps steps text = tokens := by
  induction tokens with
  | nil =>
    refine ⟨[], fun steps _ => ?_⟩
    cases steps with
    | zero => rfl
    | succ steps => rfl
  | cons token tokens ih =>
    obtain ⟨⟨hwhole, first, others, hblank, hnext⟩, hrest⟩ := List.forall_mem_cons.mp h
    obtain ⟨text, htext⟩ := ih hrest
    refine ⟨first :: (others ++ ' ' :: text), fun steps hsteps => ?_⟩
    simp only [List.length_cons, List.length_append] at hsteps
    obtain ⟨steps, rfl⟩ := Nat.exists_eq_add_of_le' (show 2 ≤ steps by omega)
    have hsecond : scanSteps (steps + 1) (' ' :: text) = scanSteps steps text := rfl
    rw [scanSteps, hblank, hnext]
    dsimp only
    rw [if_neg (by nofun), if_pos hwhole, hsecond, htext steps (by omega)]

end Token

end CdsDeclarations.Json
