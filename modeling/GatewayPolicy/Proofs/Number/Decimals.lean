import GatewayPolicy.Proofs.Number.Rounding

/-!
# Decimal numbers as doubles

A decimal number becomes the double that it is nearest to.  The bounds beyond
which its power of ten is not computed lie outside the range of the doubles.
-/

set_option autoImplicit false

namespace GatewayPolicy.Binary64

/-! ## The size of a decimal number -/

theorem digitCount_pos (n : Nat) : 0 < digitCount n :=
  Nat.length_toDigits_pos

theorem lt_ten_pow_digitCount (n : Nat) : n < 10 ^ digitCount n :=
  (Nat.length_toDigits_le_iff (by decide) (digitCount_pos n)).mp le_rfl

theorem ten_pow_le_of_digitCount {n : Nat} (positive : 0 < n) :
    10 ^ (digitCount n - 1) ≤ n := by
  rcases Nat.eq_zero_or_pos (digitCount n - 1) with single | more
  · rw [single]
    exact positive
  · refine Nat.le_of_not_lt fun less => ?_
    have count := (Nat.length_toDigits_le_iff (by decide) more).mpr less
    have counted : digitCount n ≤ digitCount n - 1 := count
    omega

theorem magnitude_bounds {digits : Nat} (positive : 0 < digits)
    (power : Int) :
    (10 : ℚ) ^ (power + digitCount digits - 1) ≤ digits * 10 ^ power ∧
      (digits : ℚ) * 10 ^ power < 10 ^ (power + digitCount digits) := by
  have scale : (0 : ℚ) < 10 ^ power := zpow_pos (by norm_num) power
  have count := digitCount_pos digits
  constructor
  · have low : (10 : ℚ) ^ (digitCount digits - 1) ≤ digits := by
      exact_mod_cast ten_pow_le_of_digitCount positive
    calc (10 : ℚ) ^ (power + digitCount digits - 1)
        = 10 ^ (digitCount digits - 1) * 10 ^ power := by
          rw [← zpow_natCast, ← zpow_add₀ (by norm_num)]
          congr 1
          omega
      _ ≤ digits * 10 ^ power := by gcongr
  · have high : (digits : ℚ) < 10 ^ digitCount digits := by
      exact_mod_cast lt_ten_pow_digitCount digits
    calc (digits : ℚ) * 10 ^ power
        < 10 ^ digitCount digits * 10 ^ power := by gcongr
      _ = 10 ^ (power + digitCount digits) := by
          rw [← zpow_natCast, ← zpow_add₀ (by norm_num), add_comm]

/-! ## Numbers within range -/

/-- What rounds to a positive double lies well within the powers of two around
the doubles. -/
theorem RoundsTo.range {significand : Nat} {exponent : Int} {x : ℚ}
    (canonical : Canonical significand exponent) (positive : 0 < significand)
    (near : RoundsTo significand exponent x) :
    (2 : ℚ) ^ (-1075 : Int) ≤ x ∧ x < 2 ^ (1024 : Int) := by
  obtain ⟨low, high⟩ := near.bounds
  have unit : (0 : ℚ) < 2 ^ exponent := zpow_pos two_pos exponent
  have gap := lowerGap_le significand exponent
  have one : (1 : ℚ) ≤ significand := by exact_mod_cast positive
  have small : (significand : ℚ) + 1 ≤ 2 ^ 53 := by
    exact_mod_cast canonical.bounded
  rw [le_div_iff₀ unit] at low
  rw [div_le_iff₀ unit] at high
  constructor
  · calc (2 : ℚ) ^ (-1075 : Int) = 1 / 2 * 2 ^ leastExponent := by
          rw [leastExponent, show (-1075 : Int) = -1 + -1074 by norm_num,
            zpow_add₀ two_ne_zero, zpow_neg_one, one_div]
      _ ≤ 1 / 2 * 2 ^ exponent := by
          gcongr
          · norm_num
          · exact canonical.least
      _ ≤ (significand - lowerGap significand exponent) * 2 ^ exponent := by
          gcongr
          linarith
      _ ≤ x := low
  · calc x ≤ (significand + 1 / 2) * 2 ^ exponent := high
      _ < 2 ^ 53 * 2 ^ exponent := by
          gcongr
          linarith
      _ ≤ 2 ^ 53 * 2 ^ greatestExponent := by
          gcongr
          · norm_num
          · exact canonical.greatest
      _ = 2 ^ (1024 : Int) := by
          rw [greatestExponent, ← zpow_natCast, ← zpow_add₀ two_ne_zero]
          norm_num

theorem least_magnitude : (10 : ℚ) ^ (-331 : Int) ≤ 2 ^ (-1075 : Int) := by
  have powers : 2 ^ 1075 ≤ 10 ^ 331 := by decide +kernel
  rw [zpow_neg, zpow_neg]
  gcongr
  exact_mod_cast powers

theorem greatest_magnitude : (2 : ℚ) ^ (1024 : Int) ≤ 10 ^ (310 : Int) := by
  have powers : 2 ^ 1024 ≤ 10 ^ 310 := by decide +kernel
  exact_mod_cast powers

theorem ofDecimal_eq_ofRatio {digits : Nat} {power : Int}
    (positive : 0 < digits)
    (low : (2 : ℚ) ^ (-1075 : Int) ≤ digits * 10 ^ power)
    (high : (digits : ℚ) * 10 ^ power < 2 ^ (1024 : Int)) (negative : Bool) :
    ofDecimal negative digits power =
      ofRatio negative (digits * raised 10 power) (raised 10 (-power)) := by
  obtain ⟨above, below⟩ := magnitude_bounds positive power
  have notTiny : ¬(power + digitCount digits < -330) := by
    intro tiny
    have less : (10 : ℚ) ^ (power + digitCount digits) ≤ 10 ^ (-331 : Int) :=
      zpow_le_zpow_right₀ (by norm_num) (by omega)
    exact absurd (low.trans_lt below) (less.trans least_magnitude).not_gt
  have notHuge : ¬(310 < power + digitCount digits) := by
    intro huge
    have more : (10 : ℚ) ^ (310 : Int) ≤
        10 ^ (power + digitCount digits - 1) :=
      zpow_le_zpow_right₀ (by norm_num) (by omega)
    exact absurd (above.trans_lt high) (greatest_magnitude.trans more).not_gt
  simp only [ofDecimal, positive.ne', notTiny, notHuge, decide_false,
    Bool.or_false, Bool.false_eq_true, if_false]

theorem quotient_of_decimal (digits : Nat) (power : Int) :
    ((digits * raised 10 power : Nat) : ℚ) / (raised 10 (-power) : Nat) =
      digits * 10 ^ power := by
  have scale := raised_div_raised 10 power
  push_cast at scale ⊢
  rw [← scale, mul_div_assoc]

/-- Reading a decimal number finds the double that it is nearest to. -/
theorem ofDecimal_of_roundsTo {significand digits : Nat}
    {exponent power : Int} (canonical : Canonical significand exponent)
    (positive : 0 < significand)
    (near : RoundsTo significand exponent (digits * 10 ^ power))
    (negative : Bool) :
    ofDecimal negative digits power =
      finite negative significand exponent := by
  obtain ⟨low, high⟩ := near.range canonical positive
  have written : 0 < digits := by
    refine Nat.pos_of_ne_zero fun zero => ?_
    have power : (0 : ℚ) < 2 ^ (-1075 : Int) := zpow_pos two_pos _
    rw [zero, Nat.cast_zero, zero_mul] at low
    linarith
  rw [ofDecimal_eq_ofRatio written low high]
  refine ofRatio_of_roundsTo canonical positive (raised_pos (by decide) _) ?_
    negative
  rwa [quotient_of_decimal]

theorem isCanonical_ofDecimal (negative : Bool) (digits : Nat) (power : Int) :
    (ofDecimal negative digits power).IsCanonical := by
  unfold ofDecimal
  dsimp only
  split
  · exact ⟨by decide, le_rfl, by decide, Or.inr rfl⟩
  · split
    · trivial
    · exact isCanonical_ofRatio (raised_pos (by decide) _) negative _

end GatewayPolicy.Binary64
