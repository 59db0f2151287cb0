import CdsDeclarations.Proofs.ShortestDecimals
import CdsDeclarations.Proofs.WrittenNumerals

/-!
# Texts of numbers

The text of a number is a single numeral. That of an integer of 64 bits is read as this integer
again, that of a double denotes a decimal that rounds to the double.
-/

namespace CdsDeclarations

namespace Number

open Json

section Integers

/-- The numeral that an integer is written as. -/
def integerNumeral (value : Int) : Numeral where
  negative := value < 0
  whole := Nat.toDigits 10 value.natAbs

lemma isWellFormed_integerNumeral (value : Int) : (integerNumeral value).IsWellFormed where
  whole := Numeral.isDigits_toDigits value.natAbs
  leadingZero hzero := by
    rw [integerNumeral] at hzero ⊢
    rcases Nat.eq_zero_or_pos value.natAbs with hvalue | hvalue
    · rw [hvalue]
      rfl
    · exact absurd hzero (head?_toDigits_ne hvalue)
  fraction digits hdigits := by cases hdigits
  exponent digits hdigits := by cases hdigits
  exponentSign _ := rfl
  ending := rfl

lemma text_integerNumeral (value : Int) :
    (integerNumeral value).text = (Number.integer value).text.toList := by
  have hdigits : (integerNumeral value).unsignedText = Nat.toDigits 10 value.natAbs :=
    List.append_nil _
  rw [Numeral.text, hdigits, Number.text, Int.toString_eq_repr, Int.repr_eq_if]
  by_cases hvalue : 0 ≤ value
  · have hnegative : (integerNumeral value).negative = false := decide_eq_false (by omega)
    have hmagnitude : value.natAbs = value.toNat := by omega
    rw [hnegative, if_pos hvalue, Nat.toList_repr, hmagnitude]
    rfl
  · have hnegative : (integerNumeral value).negative = true := decide_eq_true (by omega)
    have hmagnitude : value.natAbs = (-value).toNat := by omega
    rw [hnegative, if_neg hvalue, String.toList_append, Nat.toList_repr, hmagnitude]
    rfl

lemma integer?_integerNumeral {value : Int} (hlow : -Nat.pow 2 63 ≤ value)
    (hhigh : value < Nat.pow 2 64) : (integerNumeral value).integer? = some value := by
  have hmagnitude : digitsValue (integerNumeral value).whole = value.natAbs :=
    digitsValue_toDigits value.natAbs
  have hplain : ((integerNumeral value).fraction.isSome ||
      (integerNumeral value).exponent.isSome) = false := rfl
  rw [Numeral.integer?, hplain, if_neg Bool.false_ne_true, hmagnitude]
  dsimp only
  by_cases hvalue : value < 0
  · have hnegative : (integerNumeral value).negative = true := decide_eq_true hvalue
    have hfits : 0 < value.natAbs ∧ value.natAbs ≤ Nat.pow 2 63 := by omega
    rw [if_pos hnegative, if_pos (by simpa using hfits)]
    exact congrArg some (by omega)
  · have hnegative : (integerNumeral value).negative = false := decide_eq_false hvalue
    have hfits : value.natAbs < Nat.pow 2 64 := by omega
    rw [hnegative, if_neg Bool.false_ne_true, if_pos hfits]
    exact congrArg some (by omega)

/-- The text of an integer of 64 bits is read back as the integer. -/
theorem read_text_integer {value : Int} (hlow : -Nat.pow 2 63 ≤ value)
    (hhigh : value < Nat.pow 2 64) :
    ∃ numeral, Token.scan (Number.integer value).text.toList = [.number numeral] ∧
      numeral.read = .ok (.integer value) := by
  have hscan := Numeral.scan_text (isWellFormed_integerNumeral value)
  rw [text_integerNumeral] at hscan
  refine ⟨integerNumeral value, hscan, ?_⟩
  rw [Numeral.read, integer?_integerNumeral hlow hhigh]
  rfl

end Integers

section Doubles

variable {digits : List Char}

/-- Digits behind the point and some zeros. -/
lemma exists_spells_zeros (hdigits : Numeral.IsDigits digits) (negative : Bool) (zeros : Nat) :
    ∃ numeral : Numeral, numeral.Spells negative
      ('0' :: '.' :: List.replicate zeros '0' ++ digits)
      ⟨digitsValue digits, -(zeros + digits.length : Nat)⟩ := by
  have hwhole : Numeral.IsDigits ['0'] := Numeral.isDigits_toDigits 0
  have hfraction : Numeral.IsDigits (List.replicate zeros '0' ++ digits) :=
    ⟨List.append_ne_nil_of_right_ne_nil _ hdigits.1,
      List.forall_mem_append.mpr ⟨Numeral.isDigit_of_mem_replicate, hdigits.2⟩⟩
  have hvalue : digitsValue (['0'] ++ (List.replicate zeros '0' ++ digits)) = digitsValue digits :=
    digitsValue_zeros_append digits (zeros + 1)
  refine ⟨_, (Numeral.spells_fraction hwhole (fun _ => rfl) hfraction negative).of_eq rfl ?_⟩
  rw [hvalue, List.length_append, List.length_replicate]

/-- Digits with the point after some of them, or after zeros that follow them. -/
lemma exists_spells_padded (hdigits : Numeral.IsDigits digits) (hfirst : digits.head? ≠ some '0')
    (negative : Bool) {point padding : Nat} (hpoint : 0 < point)
    (hpadding : point < digits.length + padding) :
    ∃ numeral : Numeral, numeral.Spells negative
      ((digits ++ List.replicate padding '0').take point ++
        '.' :: (digits ++ List.replicate padding '0').drop point)
      ⟨digitsValue digits, point - digits.length⟩ := by
  have hpadded : Numeral.IsDigits (digits ++ List.replicate padding '0') :=
    Numeral.isDigits_append hdigits Numeral.isDigit_of_mem_replicate
  have hlength : (digits ++ List.replicate padding '0').length = digits.length + padding := by
    rw [List.length_append, List.length_replicate]
  have hhead : (digits ++ List.replicate padding '0').head? = digits.head? :=
    List.head?_append_of_ne_nil _ hdigits.1
  have hvalue := digitsValue_append_zeros digits padding
  generalize digits ++ List.replicate padding '0' = padded at hpadded hlength hhead hvalue ⊢
  have hwhole : Numeral.IsDigits (padded.take point) :=
    ⟨List.take_eq_nil_iff.not.mpr (not_or.mpr ⟨hpoint.ne', hpadded.1⟩),
      fun c hc => hpadded.2 c (List.mem_of_mem_take hc)⟩
  have hfraction : Numeral.IsDigits (padded.drop point) :=
    ⟨List.drop_eq_nil_iff.not.mpr (by omega), fun c hc => hpadded.2 c (List.mem_of_mem_drop hc)⟩
  have hzero : (padded.take point).head? ≠ some '0' := by
    rwa [List.head?_take, if_neg hpoint.ne', hhead]
  have hexponent : (padding : Int) + -(padded.drop point).length = point - digits.length := by
    rw [List.length_drop]
    omega
  refine ⟨_, (Numeral.spells_fraction hwhole (fun h => absurd h hzero) hfraction negative).of_eq
    rfl ?_⟩
  rw [List.take_append_drop, hvalue, Decimal.value_shift, hexponent]

lemma exists_spells_positional (hdigits : Numeral.IsDigits digits)
    (hfirst : digits.head? ≠ some '0') (negative : Bool) (leading : Int) :
    ∃ numeral : Numeral, numeral.Spells negative (positional digits leading)
      ⟨digitsValue digits, leading + 1 - digits.length⟩ := by
  rw [positional]
  split
  · obtain ⟨numeral, hspells⟩ := exists_spells_zeros hdigits negative (-leading - 1).toNat
    have hexponent : -((-leading - 1).toNat + digits.length : Nat) =
        leading + 1 - digits.length := by omega
    exact ⟨numeral, hspells.of_eq rfl (by rw [hexponent])⟩
  · have hpadding : leading.toNat + 1 <
        digits.length + (leading.toNat + 1 + 1 - digits.length) := by omega
    obtain ⟨numeral, hspells⟩ := exists_spells_padded hdigits hfirst negative
      (Nat.succ_pos leading.toNat) hpadding
    have hexponent : ((leading.toNat + 1 : Nat) : Int) - digits.length =
        leading + 1 - digits.length := by omega
    exact ⟨numeral, hspells.of_eq rfl (by rw [hexponent])⟩

lemma exists_spells_scientific (hdigits : Numeral.IsDigits digits)
    (hfirst : digits.head? ≠ some '0') (negative : Bool) (leading : Int) :
    ∃ numeral : Numeral, numeral.Spells negative (scientific digits leading)
      ⟨digitsValue digits, leading + 1 - digits.length⟩ := by
  obtain ⟨first, others, rfl⟩ := List.exists_cons_of_ne_nil hdigits.1
  obtain ⟨hfirstDigit, hothers⟩ := List.forall_mem_cons.mp hdigits.2
  have hwhole : Numeral.IsDigits [first] := ⟨List.cons_ne_nil _ _, by simpa using hfirstDigit⟩
  have hzero : [first].head? = some '0' → [first] = ['0'] := fun h => absurd h hfirst
  cases others with
  | nil =>
    have hfraction : ∀ digits ∈ (none : Option (List Char)), Numeral.IsDigits digits :=
      fun _ h => by cases h
    refine ⟨_, (Numeral.spells_exponent hwhole hzero hfraction negative leading).of_eq rfl ?_⟩
    rw [Option.getD_none, List.append_nil, List.length_nil, List.length_singleton]
    simp
  | cons second others =>
    have hfraction : ∀ digits ∈ some (second :: others), Numeral.IsDigits digits :=
      fun _ h => Option.some.inj h ▸ ⟨List.cons_ne_nil _ _, hothers⟩
    refine ⟨_, (Numeral.spells_exponent hwhole hzero hfraction negative leading).of_eq ?_ ?_⟩
    · simp [scientific]
    · have hlength : leading - ((some (second :: others)).getD []).length =
          leading + 1 - (first :: second :: others).length := by
        simp only [Option.getD_some, List.length_cons]
        omega
      rw [hlength]
      rfl

lemma significantDigits_ne_nil (digits : List Char) : significantDigits digits ≠ [] := by
  rw [significantDigits.eq_def]
  split
  · exact List.cons_ne_nil _ _
  · assumption

/-- Only zeros are cut off at the end. -/
lemma exists_zeros_significantDigits (h : digits ≠ []) :
    ∃ zeros, digits = significantDigits digits ++ List.replicate zeros '0' := by
  have hsplit : digits = (digits.reverse.dropWhile (· = '0')).reverse ++
      (digits.reverse.takeWhile (· = '0')).reverse := by
    rw [← List.reverse_append, List.takeWhile_append_dropWhile, List.reverse_reverse]
  have hzeros : (digits.reverse.takeWhile (· = '0')).reverse =
      List.replicate (digits.reverse.takeWhile (· = '0')).length '0' := by
    rw [List.reverse_eq_iff, List.reverse_replicate]
    exact List.eq_replicate_of_mem fun c hc => by simpa using List.mem_takeWhile_imp hc
  rw [hzeros] at hsplit
  generalize (digits.reverse.takeWhile (· = '0')).length = zeros at hsplit
  rw [significantDigits.eq_def]
  split
  · next hnone =>
    rw [hnone, List.nil_append] at hsplit
    cases zeros with
    | zero => exact absurd hsplit h
    | succ zeros => exact ⟨zeros, hsplit⟩
  · exact ⟨zeros, hsplit⟩

lemma exists_spells_decimalText {decimal : Decimal} (hpos : 0 < decimal.digits)
    (negative : Bool) :
    ∃ numeral : Numeral, numeral.Spells negative (decimalText decimal) decimal := by
  have hdigits := Numeral.isDigits_toDigits decimal.digits
  have hfirst := head?_toDigits_ne hpos
  have hvalue := digitsValue_toDigits decimal.digits
  obtain ⟨zeros, hzeros⟩ := exists_zeros_significantDigits hdigits.1
  have hne := significantDigits_ne_nil (Nat.toDigits 10 decimal.digits)
  rw [decimalText]
  generalize significantDigits (Nat.toDigits 10 decimal.digits) = kept at hzeros hne ⊢
  rw [hzeros, List.head?_append_of_ne_nil _ hne] at hfirst
  rw [hzeros, digitsValue_append_zeros] at hvalue
  have hlength : (Nat.toDigits 10 decimal.digits).length = kept.length + zeros := by
    rw [hzeros, List.length_append, List.length_replicate]
  have hkept : Numeral.IsDigits kept :=
    ⟨hne, fun c hc => hdigits.2 c (hzeros ▸ List.mem_append_left _ hc)⟩
  -- The zeros that are cut off at the end move into the exponent.
  have hsame : Decimal.value ⟨digitsValue kept,
      decimal.exponent + (Nat.toDigits 10 decimal.digits).length - 1 + 1 - kept.length⟩ =
      decimal.value := by
    have hexponent : decimal.exponent + (kept.length + zeros : Nat) - 1 + 1 - kept.length =
        zeros + decimal.exponent := by omega
    rw [hlength, hexponent, ← Decimal.value_shift, hvalue]
  split
  · obtain ⟨numeral, hnumeral⟩ := exists_spells_positional hkept hfirst negative _
    exact ⟨numeral, hnumeral.of_eq rfl hsame⟩
  · obtain ⟨numeral, hnumeral⟩ := exists_spells_scientific hkept hfirst negative _
    exact ⟨numeral, hnumeral.of_eq rfl hsame⟩

/-- The text of a double is one numeral with the sign of the double, and not that of an integer. It
denotes zero if the double is zero, else a decimal among the reals that round to the double. -/
theorem scan_text_floating (x : Double) :
    ∃ numeral, Token.scan (Number.floating x).text.toList = [.number numeral] ∧
      numeral.integer? = none ∧ numeral.negative = x.negative ∧
      (x.mantissa = 0 → numeral.exactDecimal.value = 0) ∧
      (0 < x.mantissa →
        ∃ decimal, x.isRoundedFrom decimal ∧ numeral.exactDecimal.value = decimal.value) := by
  rw [text, String.toList_ofList, doubleText]
  rcases Nat.eq_zero_or_pos x.mantissa with hmantissa | hmantissa
  · have hzero : Numeral.IsDigits ['0'] := Numeral.isDigits_toDigits 0
    have hspells := Numeral.spells_fraction hzero (fun _ => rfl) hzero x.negative
    rw [if_pos hmantissa]
    refine ⟨_, hspells.scan_eq, hspells.integer?_eq, hspells.negative_eq, fun _ => ?_,
      fun hpos => absurd hmantissa hpos.ne'⟩
    rw [hspells.value_eq]
    exact Decimal.value_zero _
  · have hrounded := Double.isRoundedFrom_shortestDecimal hmantissa
    have hdigits := Double.digits_pos_of_isRoundedFrom hmantissa hrounded
    obtain ⟨numeral, hspells⟩ := exists_spells_decimalText hdigits x.negative
    rw [if_neg hmantissa.ne']
    exact ⟨numeral, hspells.scan_eq, hspells.integer?_eq, hspells.negative_eq,
      fun hzero => absurd hzero hmantissa.ne', fun _ => ⟨_, hrounded, hspells.value_eq⟩⟩

end Doubles

end Number

end CdsDeclarations
