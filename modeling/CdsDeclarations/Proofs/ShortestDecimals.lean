import CdsDeclarations.Number.Shortest
import Mathlib.Tactic.Lemma
import Mathlib.Tactic.Positivity
import Mathlib.Tactic.Ring

/-!
# Shortest decimals round back

The decimal that a double is written by lies among the reals that round to the double.
-/

namespace CdsDeclarations

lemma roundHalfEven_eq_or (numerator denominator : Nat) :
    roundHalfEven numerator denominator = numerator / denominator ∨
      roundHalfEven numerator denominator = numerator / denominator + 1 := by
  rw [roundHalfEven]
  split
  · exact .inl rfl
  · exact .inr rfl

namespace Double

variable {x : Double} {decimal : Decimal}

lemma isRoundedFrom_of_neighbourOnGrid? {gridExponent : Int}
    (h : x.neighbourOnGrid? gridExponent = some decimal) : x.isRoundedFrom decimal := by
  rw [neighbourOnGrid?] at h
  dsimp only at h
  split at h
  · next hboth =>
    rw [Bool.and_eq_true] at hboth
    obtain rfl := Option.some.inj h
    rcases roundHalfEven_eq_or _ _ with hbelow | habove
    · rw [hbelow]
      exact hboth.1
    · rw [habove]
      exact hboth.2
  · split at h
    · next hbelow => exact Option.some.inj h ▸ hbelow
    · split at h
      · next habove => exact Option.some.inj h ▸ habove
      · cases h

lemma belowGap_pos (x : Double) : 0 < x.belowGap := by
  rw [belowGap]
  split <;> omega

lemma belowGap_le_two (x : Double) : x.belowGap ≤ 2 := by
  rw [belowGap]
  split <;> omega

section Interval

variable {number unit quarter part : Nat}

/-- A decimal strictly inside of the interval of a double rounds to it. -/
lemma isRoundedFrom_of_lt
    (hnumber : scaledFraction decimal.digits 10 decimal.exponent = (number, unit))
    (hquarter : scaledFraction 1 2 (x.exponent - 2) = (quarter, part))
    (hlow : (4 * x.mantissa - x.belowGap) * quarter * unit < number * part)
    (hhigh : number * part < (4 * x.mantissa + 2) * quarter * unit) : x.isRoundedFrom decimal := by
  rw [isRoundedFrom, hnumber, hquarter]
  dsimp only
  split
  · rw [Bool.and_eq_true, decide_eq_true_iff, decide_eq_true_iff]
    exact ⟨hlow.le, hhigh.le⟩
  · rw [Bool.and_eq_true, decide_eq_true_iff, decide_eq_true_iff]
    exact ⟨hlow, hhigh⟩

lemma le_of_isRoundedFrom
    (hnumber : scaledFraction decimal.digits 10 decimal.exponent = (number, unit))
    (hquarter : scaledFraction 1 2 (x.exponent - 2) = (quarter, part))
    (h : x.isRoundedFrom decimal) :
    (4 * x.mantissa - x.belowGap) * quarter * unit ≤ number * part := by
  rw [isRoundedFrom, hnumber, hquarter] at h
  dsimp only at h
  split at h
  · rw [Bool.and_eq_true, decide_eq_true_iff] at h
    exact h.1
  · rw [Bool.and_eq_true, decide_eq_true_iff] at h
    exact h.1.le

end Interval

/-- Four quarters of the last place are the last place, written with fives and twos. -/
lemma four_quarters (exponent : Int) :
    4 * 2 ^ (exponent - 2).toNat * 10 ^ (-exponent).toNat =
      2 ^ exponent.toNat * 5 ^ (-exponent).toNat * 2 ^ (-(exponent - 2)).toNat := by
  have hten : 10 ^ (-exponent).toNat = 2 ^ (-exponent).toNat * 5 ^ (-exponent).toNat :=
    Nat.mul_pow 2 5 _
  have hplaces : 2 + (exponent - 2).toNat + (-exponent).toNat =
      exponent.toNat + (-(exponent - 2)).toNat := by omega
  calc 4 * 2 ^ (exponent - 2).toNat * 10 ^ (-exponent).toNat
      = 2 ^ (2 + (exponent - 2).toNat + (-exponent).toNat) * 5 ^ (-exponent).toNat := by
        rw [hten, pow_add, pow_add]
        ring
    _ = _ := by
        rw [hplaces, pow_add]
        ring

lemma isRoundedFrom_exactDecimal (h : 0 < x.mantissa) : x.isRoundedFrom x.exactDecimal := by
  have hunit : (-min x.exponent 0).toNat = (-x.exponent).toNat := by omega
  have hwhole : (min x.exponent 0).toNat = 0 := by omega
  have hgap := x.belowGap_pos
  have hstep : 0 < 2 ^ (x.exponent - 2).toNat * 10 ^ (-x.exponent).toNat := by positivity
  have hvalue : x.mantissa * 2 ^ x.exponent.toNat * 5 ^ (-x.exponent).toNat *
      2 ^ (-(x.exponent - 2)).toNat =
      4 * x.mantissa * (2 ^ (x.exponent - 2).toNat * 10 ^ (-x.exponent).toNat) := by
    rw [mul_assoc, mul_assoc, ← mul_assoc (2 ^ _), ← four_quarters]
    ring
  refine isRoundedFrom_of_lt rfl rfl ?_ ?_
  · simp only [exactDecimal, Nat.pow_eq, hunit, hwhole, pow_zero, mul_one, one_mul]
    rw [hvalue, mul_assoc _ (2 ^ _)]
    exact Nat.mul_lt_mul_of_pos_right (by omega) hstep
  · simp only [exactDecimal, Nat.pow_eq, hunit, hwhole, pow_zero, mul_one, one_mul]
    rw [hvalue, mul_assoc _ (2 ^ _)]
    exact Nat.mul_lt_mul_of_pos_right (by omega) hstep

/-- The decimal that a double is written by is one of those that round to the double. -/
theorem isRoundedFrom_shortestDecimal (h : 0 < x.mantissa) : x.isRoundedFrom x.shortestDecimal := by
  rw [shortestDecimal]
  dsimp only
  generalize leadingDigit _ _ = leading
  cases hfound : (List.range 17).findSome? fun (digits : Nat) =>
      x.neighbourOnGrid? (leading - digits) with
  | none => exact isRoundedFrom_exactDecimal h
  | some decimal =>
    obtain ⟨digits, -, hdigits⟩ := List.exists_of_findSome?_eq_some hfound
    exact isRoundedFrom_of_neighbourOnGrid? hdigits

lemma digits_pos_of_isRoundedFrom (h : 0 < x.mantissa) (hrounded : x.isRoundedFrom decimal) :
    0 < decimal.digits := by
  have hle := le_of_isRoundedFrom rfl rfl hrounded
  have hlow : 0 < 4 * x.mantissa - x.belowGap := by
    have hgap := x.belowGap_le_two
    omega
  refine Nat.pos_of_ne_zero fun hzero => absurd hle (not_le_of_gt ?_)
  simp only [Nat.pow_eq, hzero, zero_mul]
  positivity

end Double

end CdsDeclarations
