import GatewayPolicy.Proofs.Number.Digits
import GatewayPolicy.Proofs.Number.Integers

/-!
# Integers that doubles keep

A 64-bit integer that is read as a double and cut again comes back as it was
exactly if its binary digits beyond the first 53 are zeros, or if it is the
greatest of all, which a greater double is cut to.
-/

set_option autoImplicit false

namespace GatewayPolicy.Binary64

/-- Up to 53 binary digits, and zeros after them. -/
def FitsSignificand (n : Nat) : Prop :=
  ∃ digits zeros : Nat, digits < 2 ^ 53 ∧ n = digits * 2 ^ zeros

theorem fitsSignificand_of_lt {n : Nat} (small : n < 2 ^ 53) :
    FitsSignificand n :=
  ⟨n, 0, small, (Nat.mul_one n).symm⟩

/-- The digits that find no room are the last ones of the number. -/
theorem fitsSignificand_iff (n : Nat) :
    FitsSignificand n ↔ n % 2 ^ (n.log2 - 52) = 0 := by
  constructor
  · rintro ⟨digits, zeros, small, rfl⟩
    rcases Nat.eq_zero_or_pos digits with rfl | positive
    · rw [Nat.zero_mul, Nat.zero_mod]
    · have size : digits * 2 ^ zeros < 2 ^ (53 + zeros) := by
        rw [pow_add]
        gcongr
      have places : (digits * 2 ^ zeros).log2 < 53 + zeros :=
        (Nat.log2_lt (by positivity)).mpr size
      refine Nat.mod_eq_zero_of_dvd (Dvd.dvd.mul_left ?_ digits)
      exact Nat.pow_dvd_pow 2 (by omega)
  · intro rest
    refine ⟨n / 2 ^ (n.log2 - 52), n.log2 - 52, ?_, ?_⟩
    · rw [Nat.div_lt_iff_lt_mul (by positivity), ← pow_add]
      calc n < 2 ^ (n.log2 + 1) := Nat.lt_log2_self
        _ ≤ 2 ^ (53 + (n.log2 - 52)) :=
            Nat.pow_le_pow_right (by decide) (by omega)
    · exact (Nat.div_mul_cancel (Nat.dvd_of_mod_eq_zero rest)).symm

instance (n : Nat) : Decidable (FitsSignificand n) :=
  decidable_of_iff _ (fitsSignificand_iff n).symm

/-! ## What doubles are cut to -/

theorem fitsSignificand_wholePart {significand : Nat}
    (bounded : significand < 2 ^ 53) (exponent : Int) :
    FitsSignificand (wholePart significand exponent) := by
  obtain ⟨n, rfl | rfl⟩ := exponent.eq_nat_or_neg
  · refine ⟨significand, n, bounded, ?_⟩
    rw [wholePart, raised_natCast, raised_neg_natCast, Nat.div_one]
  · refine fitsSignificand_of_lt (lt_of_le_of_lt ?_ bounded)
    rw [wholePart, neg_neg, raised_natCast, raised_neg_natCast, mul_one]
    exact Nat.div_le_self _ _

/-- An integer that a double is cut to, other than the greatest one, is a double
itself. -/
theorem fitsSignificand_toInt64 {x : Binary64} (canonical : x.IsCanonical)
    (less : x.toInt64.toInt ≠ 2 ^ 63 - 1) :
    FitsSignificand x.toInt64.toInt.natAbs := by
  cases x with
  | nan => decide
  | infinite negative =>
      cases negative with
      | true => decide
      | false => exact absurd rfl less
  | finite negative significand exponent =>
      have fits := fitsSignificand_wholePart canonical.bounded exponent
      rw [toInt_toInt64_finite] at less ⊢
      generalize cut : signed negative (wholePart significand exponent) = whole
        at less ⊢
      by_cases above : -2 ^ 63 ≤ whole
      · have kept : max (-2 ^ 63) (min (2 ^ 63 - 1) whole) = whole := by omega
        rwa [kept, ← cut, natAbs_signed]
      · have least : max (-2 ^ 63) (min (2 ^ 63 - 1) whole) = -2 ^ 63 := by
          omega
        rw [least]
        decide

/-! ## Integers through doubles -/

def IsKept (n : Int64) : Prop :=
  FitsSignificand n.toInt.natAbs ∨ n = Int64.maxValue

instance (n : Int64) : Decidable (IsKept n) :=
  inferInstanceAs (Decidable (_ ∨ _))

theorem toInt64_ofDecimal_eq_iff (n : Int64) :
    (ofDecimal (decide (n.toInt < 0)) n.toInt.natAbs 0).toInt64 = n ↔
      IsKept n := by
  constructor
  · intro same
    by_cases greatest : n.toInt = 2 ^ 63 - 1
    · exact Or.inr (Int64.toInt_inj.mp greatest)
    · refine Or.inl ?_
      have canonical := isCanonical_ofDecimal (decide (n.toInt < 0))
        n.toInt.natAbs 0
      have fits := fitsSignificand_toInt64 canonical
      rw [same] at fits
      exact fits greatest
  · rintro (⟨digits, zeros, small, written⟩ | rfl)
    · have value := Numeral.signed_natAbs n.toInt
      have least := n.le_toInt
      have greatest := n.toInt_lt
      rw [written] at value ⊢
      rw [← value] at least greatest
      apply Int64.toInt_inj.mp
      rw [toInt64_ofDecimal_of_digits small least greatest, value]
    · decide +kernel

end GatewayPolicy.Binary64
