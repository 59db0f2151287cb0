import CdsDeclarations.Proofs.WrittenTokens
import Mathlib.Algebra.Field.Rat
import Mathlib.Data.List.Basic
import Mathlib.Tactic.NormNum

/-!
# Written numerals

A well-formed numeral is read back from its text. It denotes a decimal with all of its digits, and
is not cut down if they fit into 64 bits.
-/

namespace CdsDeclarations

/-- The rational number that a decimal stands for. -/
def Decimal.value (decimal : Decimal) : ℚ :=
  decimal.digits * 10 ^ decimal.exponent

lemma Decimal.value_zero (exponent : Int) : Decimal.value ⟨0, exponent⟩ = 0 := by
  rw [value, Nat.cast_zero, zero_mul]

lemma Decimal.value_shift (digits count : Nat) (exponent : Int) :
    Decimal.value ⟨digits * 10 ^ count, exponent⟩ = Decimal.value ⟨digits, count + exponent⟩ := by
  rw [value, value, zpow_add₀ (by norm_num), zpow_natCast, Nat.cast_mul, mul_assoc, Nat.cast_pow,
    Nat.cast_ofNat]

section Digits

lemma digitsValue_eq (digits : List Char) : digitsValue digits = Nat.ofDigitChars 10 digits 0 := by
  rw [digitsValue, Nat.ofDigitChars_eq_foldl]
  congr 1
  funext value c
  rw [appendDigit, Nat.mul_comm]

lemma digitsValue_toDigits (n : Nat) : digitsValue (Nat.toDigits 10 n) = n := by
  rw [digitsValue_eq, Nat.ofDigitChars_ten_toDigits]

lemma digitsValue_append_zeros (digits : List Char) (count : Nat) :
    digitsValue (digits ++ List.replicate count '0') = digitsValue digits * 10 ^ count := by
  rw [digitsValue_eq, digitsValue_eq, Nat.ofDigitChars_append, Nat.ofDigitChars_replicate_zero,
    Nat.mul_comm]

lemma digitsValue_zeros_append (digits : List Char) (count : Nat) :
    digitsValue (List.replicate count '0' ++ digits) = digitsValue digits := by
  rw [digitsValue_eq, digitsValue_eq, Nat.ofDigitChars_append, Nat.ofDigitChars_replicate_zero,
    Nat.mul_zero]

/-- Only zero is written with a zero in front. -/
lemma head?_toDigits_ne {n : Nat} (h : 0 < n) : (Nat.toDigits 10 n).head? ≠ some '0' := by
  induction n using Nat.strongRecOn with
  | ind n ih =>
    rw [Nat.toDigits_eq_if (by decide)]
    split
    · next hn =>
      intro hhead
      have hvalue := Nat.toNat_digitChar_of_lt_ten hn
      rw [Option.some.inj hhead] at hvalue
      have hzero : '0'.toNat = 48 := rfl
      omega
    · next hn =>
      rw [List.head?_append_of_ne_nil _ Nat.toDigits_ne_nil]
      exact ih (n / 10) (by omega) (by omega)

end Digits

lemma Json.Token.scan_of_next {c : Char} {rest : List Char} {token : Token}
    (hblank : isBlank c = false) (hnext : next c rest = (token, [])) :
    scan (c :: rest) = [token] := by
  rw [scan, List.length_cons, scanSteps, hblank, if_neg Bool.false_ne_true, hnext]
  cases rest.length with
  | zero => simp [scanSteps]
  | succ steps => simp [scanSteps]

namespace Json.Numeral

/-- At least one digit and nothing else. -/
def IsDigits (digits : List Char) : Prop :=
  digits ≠ [] ∧ ∀ c ∈ digits, isDigit c

lemma isDigits_toDigits (n : Nat) : IsDigits (Nat.toDigits 10 n) :=
  ⟨Nat.toDigits_ne_nil, fun _ => Nat.isDigit_of_mem_toDigits (by decide) (by decide)⟩

lemma isDigits_append {digits others : List Char} (h : IsDigits digits)
    (hothers : ∀ c ∈ others, isDigit c) : IsDigits (digits ++ others) :=
  ⟨List.append_ne_nil_of_left_ne_nil h.1 others, List.forall_mem_append.mpr ⟨h.2, hothers⟩⟩

lemma isDigit_of_mem_replicate {count : Nat} : ∀ c ∈ List.replicate count '0', isDigit c := by
  intro c hc
  rw [List.eq_of_mem_replicate hc]
  rfl

/-- A complete numeral as it may stand in a text. -/
structure IsWellFormed (numeral : Numeral) : Prop where
  whole : IsDigits numeral.whole
  leadingZero : numeral.whole.head? = some '0' → numeral.whole = ['0']
  fraction : ∀ digits ∈ numeral.fraction, IsDigits digits
  exponent : ∀ digits ∈ numeral.exponent, IsDigits digits
  exponentSign : numeral.exponent = none → numeral.exponentNegative = false
  ending : numeral.ending = .complete

/-- The exponent of a numeral with its mark and a sign, as it is written. -/
def exponentText (numeral : Numeral) : List Char :=
  numeral.exponent.elim [] fun digits =>
    'e' :: (if numeral.exponentNegative then '-' else '+') :: digits

def fractionText (numeral : Numeral) : List Char :=
  numeral.fraction.elim [] fun digits => '.' :: digits

/-- A numeral as it is written behind its sign. -/
def unsignedText (numeral : Numeral) : List Char :=
  numeral.whole ++ (numeral.fractionText ++ numeral.exponentText)

def text (numeral : Numeral) : List Char :=
  (if numeral.negative then ['-'] else []) ++ numeral.unsignedText

section Reading

variable {numeral : Numeral}

lemma readExponentDigits_digits {digits : List Char} (h : IsDigits digits) (negative : Bool) :
    numeral.readExponentDigits negative digits =
      ({ numeral with exponentNegative := negative, exponent := some digits, ending := .complete },
        []) := by
  have htake : digits.takeWhile isDigit = digits := List.takeWhile_eq_self_iff.mpr h.2
  have hdrop : digits.dropWhile isDigit = [] := List.dropWhile_eq_nil_iff.mpr h.2
  rw [readExponentDigits, htake, hdrop, if_neg (by simpa using h.1)]

lemma readExponentMark_exponentText (h : numeral.IsWellFormed) :
    readExponentMark { numeral with exponentNegative := false, exponent := none }
      numeral.exponentText = (numeral, []) := by
  obtain ⟨negative, whole, fraction, exponentNegative, exponent, ending⟩ := numeral
  obtain rfl := h.ending
  cases exponent with
  | none =>
    obtain rfl := h.exponentSign rfl
    rfl
  | some digits =>
    cases exponentNegative with
    | true => exact readExponentDigits_digits (h.exponent digits rfl) true
    | false => exact readExponentDigits_digits (h.exponent digits rfl) false

lemma takeWhile_exponentText (numeral : Numeral) :
    numeral.exponentText.takeWhile isDigit = [] := by
  rw [exponentText]
  cases numeral.exponent with
  | none => rfl
  | some digits => rfl

lemma readAfterWhole_tail (h : numeral.IsWellFormed) :
    readAfterWhole { negative := numeral.negative, whole := numeral.whole }
      (numeral.fractionText ++ numeral.exponentText) = (numeral, []) := by
  have hexponent := readExponentMark_exponentText h
  have hstop := takeWhile_exponentText numeral
  obtain ⟨negative, whole, fraction, exponentNegative, exponent, ending⟩ := numeral
  obtain rfl := h.ending
  cases fraction with
  | none =>
    rw [← hexponent]
    cases exponent with
    | none => rfl
    | some digits => rfl
  | some digits =>
    have hdigits := h.fraction digits rfl
    have htake := takeWhile_digits_append hdigits.2 hstop
    have hdrop := dropWhile_digits_append hdigits.2 hstop
    rw [fractionText, Option.elim_some, List.cons_append, readAfterWhole, readFraction, htake,
      hdrop, if_neg (by simpa using hdigits.1)]
    exact hexponent

lemma takeWhile_tail (numeral : Numeral) :
    (numeral.fractionText ++ numeral.exponentText).takeWhile isDigit = [] := by
  rw [fractionText]
  cases numeral.fraction with
  | none => exact takeWhile_exponentText numeral
  | some digits => rfl

/-- A well-formed numeral is read back from its text. -/
lemma readUnsigned_unsignedText (h : numeral.IsWellFormed) :
    readUnsigned numeral.negative numeral.unsignedText = (numeral, []) := by
  have htail := readAfterWhole_tail h
  have hstop := takeWhile_tail numeral
  rw [unsignedText]
  generalize numeral.fractionText ++ numeral.exponentText = tail at htail hstop ⊢
  -- The reader takes a zero in front for all of the whole digits.
  by_cases hzero : numeral.whole.head? = some '0'
  · have hwhole := h.leadingZero hzero
    rw [hwhole] at htail ⊢
    rw [List.singleton_append, readUnsigned, hstop]
    exact htail
  · rw [readUnsigned.eq_def]
    split
    · next heq =>
      obtain ⟨first, others, hwhole⟩ := List.exists_cons_of_ne_nil h.whole.1
      rw [hwhole] at heq hzero
      cases heq
      exact absurd rfl hzero
    · rw [takeWhile_digits_append h.whole.2 hstop, dropWhile_digits_append h.whole.2 hstop]
      rw [if_neg (by simpa using h.whole.1)]
      exact htail

/-- A well-formed numeral is the only token of its text. -/
lemma scan_text (h : numeral.IsWellFormed) : Token.scan numeral.text = [.number numeral] := by
  have hread := readUnsigned_unsignedText h
  rw [text]
  cases hsign : numeral.negative with
  | true =>
    rw [hsign] at hread
    refine Token.scan_of_next rfl ?_
    change Token.numberToken (readUnsigned true numeral.unsignedText) = _
    rw [hread, Token.numberToken]
  | false =>
    rw [hsign] at hread
    obtain ⟨first, others, hwhole⟩ := List.exists_cons_of_ne_nil h.whole.1
    have hfirst : isDigit first := h.whole.2 first (hwhole ▸ List.mem_cons_self)
    rw [unsignedText, hwhole, List.cons_append] at hread ⊢
    refine Token.scan_of_next (Token.isBlank_of_isDigit hfirst) ?_
    rw [Token.next_of_isDigit hfirst, hread, Token.numberToken]

end Reading

/-- The decimal that a numeral denotes, with all of its digits. -/
def exactDecimal (numeral : Numeral) : Decimal :=
  let fraction := numeral.fraction.getD []
  let exponent : Int := digitsValue (numeral.exponent.getD [])
  ⟨digitsValue (numeral.whole ++ fraction),
    (if numeral.exponentNegative then -exponent else exponent) - fraction.length⟩

lemma le_foldl_appendDigit (value : Nat) (digits : List Char) :
    value ≤ digits.foldl appendDigit value := by
  induction digits generalizing value with
  | nil => exact le_refl value
  | cons c digits ih =>
    have hstep : value ≤ appendDigit value c := by
      rw [appendDigit]
      omega
    exact hstep.trans (ih (appendDigit value c))

lemma appendFitting_of_lt {value : Nat} {digits : List Char}
    (h : digits.foldl appendDigit value < Nat.pow 2 64) :
    appendFitting value digits = (digits.foldl appendDigit value, 0) := by
  induction digits generalizing value with
  | nil => rfl
  | cons c digits ih =>
    have hfits := (le_foldl_appendDigit (appendDigit value c) digits).trans_lt h
    rw [appendFitting, if_pos hfits, ih h, List.foldl_cons]

/-- Nothing is cut off a numeral whose digits fit into 64 bits. -/
theorem decimal_eq_exactDecimal {numeral : Numeral}
    (h : digitsValue (numeral.whole ++ numeral.fraction.getD []) < Nat.pow 2 64) :
    numeral.decimal = numeral.exactDecimal := by
  have hdigits : digitsValue (numeral.whole ++ numeral.fraction.getD []) =
      (numeral.fraction.getD []).foldl appendDigit (numeral.whole.foldl appendDigit 0) :=
    List.foldl_append
  rw [hdigits] at h
  have hwhole := (le_foldl_appendDigit _ (numeral.fraction.getD [])).trans_lt h
  rw [decimal, exactDecimal, hdigits, appendFitting_of_lt hwhole]
  dsimp only
  rw [appendFitting_of_lt h, Nat.cast_zero, Int.add_zero, Nat.sub_zero]

/-- A numeral that is not read as an integer, with its text behind the sign and its magnitude. -/
structure Spells (numeral : Numeral) (negative : Bool) (text : List Char) (decimal : Decimal) :
    Prop where
  isWellFormed : numeral.IsWellFormed
  integer?_eq : numeral.integer? = none
  negative_eq : numeral.negative = negative
  text_eq : numeral.unsignedText = text
  value_eq : numeral.exactDecimal.value = decimal.value

lemma Spells.scan_eq {numeral : Numeral} {negative : Bool} {text : List Char} {decimal : Decimal}
    (h : numeral.Spells negative text decimal) :
    Token.scan ((if negative then ['-'] else []) ++ text) = [.number numeral] := by
  rw [← h.negative_eq, ← h.text_eq]
  exact scan_text h.isWellFormed

lemma Spells.of_eq {numeral : Numeral} {negative : Bool} {text other : List Char}
    {decimal same : Decimal} (h : numeral.Spells negative text decimal) (htext : text = other)
    (hvalue : decimal.value = same.value) : numeral.Spells negative other same :=
  { h with text_eq := h.text_eq.trans htext, value_eq := h.value_eq.trans hvalue }

/-- A numeral with a fraction and without an exponent. -/
lemma spells_fraction {whole fraction : List Char} (hwhole : IsDigits whole)
    (hzero : whole.head? = some '0' → whole = ['0']) (hfraction : IsDigits fraction)
    (negative : Bool) :
    Spells { negative := negative, whole := whole, fraction := some fraction } negative
      (whole ++ '.' :: fraction) ⟨digitsValue (whole ++ fraction), -fraction.length⟩ where
  isWellFormed := {
    whole := hwhole
    leadingZero := hzero
    fraction := fun _ h => Option.some.inj h ▸ hfraction
    exponent := fun _ h => by cases h
    exponentSign := fun _ => rfl
    ending := rfl }
  integer?_eq := rfl
  negative_eq := rfl
  text_eq := by simp [unsignedText, fractionText, exponentText]
  value_eq := by
    rw [exactDecimal]
    simp [digitsValue]

/-- A numeral with an exponent, which always has a sign. -/
lemma spells_exponent {whole : List Char} {fraction : Option (List Char)}
    (hwhole : IsDigits whole) (hzero : whole.head? = some '0' → whole = ['0'])
    (hfraction : ∀ digits ∈ fraction, IsDigits digits) (negative : Bool) (exponent : Int) :
    Spells {
      negative := negative
      whole := whole
      fraction := fraction
      exponentNegative := exponent < 0
      exponent := some (Nat.toDigits 10 exponent.natAbs) } negative
      (whole ++ (fraction.elim [] ('.' :: ·) ++
        'e' :: (if exponent < 0 then '-' else '+') :: Nat.toDigits 10 exponent.natAbs))
      ⟨digitsValue (whole ++ fraction.getD []), exponent - (fraction.getD []).length⟩ where
  isWellFormed := {
    whole := hwhole
    leadingZero := hzero
    fraction := hfraction
    exponent := fun _ h => Option.some.inj h ▸ isDigits_toDigits exponent.natAbs
    exponentSign := fun h => by cases h
    ending := rfl }
  integer?_eq := by simp [integer?]
  negative_eq := rfl
  text_eq := by simp [unsignedText, fractionText, exponentText]
  value_eq := by
    have hsigned : (if exponent < 0 then -(exponent.natAbs : Int) else exponent.natAbs) =
        exponent := by
      split <;> omega
    simp only [exactDecimal, Option.getD_some, digitsValue_toDigits, decide_eq_true_iff, hsigned]

end Json.Numeral

end CdsDeclarations
