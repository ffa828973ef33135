import GatewayPolicy.Proofs.Number.Decimals

/-!
# Integers and doubles

An integer of up to 53 binary digits, with zeros after them, is a double.  Any
other is rounded, but not below the first integer with 54 digits.  The other
way, a double is cut toward zero and kept within the 64-bit integers; that does
not change which of these it reaches.
-/

set_option autoImplicit false

namespace GatewayPolicy.Binary64

/-! ## Doubles as integers -/

theorem toInt_toInt64_finite (negative : Bool) (significand : Nat)
    (exponent : Int) :
    (finite negative significand exponent).toInt64.toInt =
      max (-2 ^ 63) (min (2 ^ 63 - 1)
        (signed negative (wholePart significand exponent))) := by
  have least : Int64.minValue.toInt = -2 ^ 63 := rfl
  have greatest : Int64.maxValue.toInt = 2 ^ 63 - 1 := rfl
  rw [toInt64]
  split
  · omega
  · split
    · omega
    · rw [Int64.toInt_ofInt_of_le] <;> omega

theorem signed_true (n : Nat) : signed true n = -n :=
  rfl

theorem signed_false (n : Nat) : signed false n = n :=
  rfl

theorem natAbs_signed (negative : Bool) (n : Nat) :
    (signed negative n).natAbs = n := by
  cases negative
  · rw [signed_false, Int.natAbs_natCast]
  · rw [signed_true, Int.natAbs_neg, Int.natAbs_natCast]

theorem le_wholePart_iff (bound significand : Nat) (exponent : Int) :
    bound ≤ wholePart significand exponent ↔
      bound * raised 2 (-exponent) ≤ significand * raised 2 exponent :=
  Nat.le_div_iff_mul_le (raised_pos (by decide) _)

/-- The integer that a double is cut to reaches a bound exactly if the double
does. -/
theorem le_toInt64_iff {bound : Nat} (positive : 0 < bound)
    (inside : bound < 2 ^ 63) (x : Binary64) :
    bound ≤ x.toInt64.toInt ↔ bound * (x.toRatio.2 : Int) ≤ x.toRatio.1 := by
  cases x with
  | nan =>
      have zero : nan.toInt64.toInt = 0 := rfl
      rw [zero, toRatio]
      omega
  | infinite negative =>
      rw [toRatio]
      dsimp only
      cases negative with
      | true =>
          have least : (infinite true).toInt64.toInt = -2 ^ 63 := rfl
          rw [least, signed_true]
          omega
      | false =>
          have greatest : (infinite false).toInt64.toInt = 2 ^ 63 - 1 := rfl
          have huge : 2 ^ 63 ≤ raised 2 1024 := by decide +kernel
          rw [greatest, signed_false]
          omega
  | finite negative significand exponent =>
      rw [toInt_toInt64_finite, toRatio]
      dsimp only
      cases negative with
      | true =>
          have product : 0 < bound * (raised 2 (-exponent) : Int) := by
            exact_mod_cast Nat.mul_pos positive (raised_pos (by decide) _)
          rw [signed_true, signed_true]
          omega
      | false =>
          have ratio : bound * (raised 2 (-exponent) : Int) ≤
              (significand * raised 2 exponent : Nat) ↔
                bound ≤ wholePart significand exponent := by
            rw [le_wholePart_iff]
            exact_mod_cast Iff.rfl
          rw [signed_false, signed_false, ratio]
          omega

/-! ## Integers as doubles -/

/-- A positive integer of up to 53 binary digits and some zeros, with zeros
after the point to fill the digits. -/
theorem exists_canonical_of_digits {digits zeros : Nat} (positive : 0 < digits)
    (small : digits < 2 ^ 53) (few : zeros < 64) :
    ∃ places : Nat, Canonical (digits * 2 ^ places) (zeros - places) := by
  have low := Nat.log2_self_le positive.ne'
  have high := Nat.lt_log2_self (n := digits)
  have count : digits.log2 < 53 := (Nat.log2_lt positive.ne').mpr small
  refine ⟨52 - digits.log2, ?_, ?_, ?_, Or.inl ?_⟩
  · calc digits * 2 ^ (52 - digits.log2)
        < 2 ^ (digits.log2 + 1) * 2 ^ (52 - digits.log2) := by gcongr
      _ = 2 ^ 53 := by
          rw [← pow_add]
          congr 1
          omega
  · unfold leastExponent
    omega
  · unfold greatestExponent
    omega
  · calc 2 ^ 52 = 2 ^ digits.log2 * 2 ^ (52 - digits.log2) := by
          rw [← pow_add]
          congr 1
          omega
      _ ≤ digits * 2 ^ (52 - digits.log2) := by gcongr

theorem wholePart_filled (digits zeros places : Nat) :
    wholePart (digits * 2 ^ places) (zeros - places) = digits * 2 ^ zeros := by
  rcases Nat.le_total places zeros with fewer | more
  · obtain ⟨rest, rfl⟩ := Nat.exists_eq_add_of_le fewer
    have exponent : ((places + rest : Nat) : Int) - places = rest := by omega
    rw [exponent, wholePart, raised_natCast, raised_neg_natCast, Nat.div_one,
      pow_add, mul_assoc]
  · obtain ⟨rest, rfl⟩ := Nat.exists_eq_add_of_le more
    have exponent : (zeros : Int) - (zeros + rest : Nat) = -rest := by omega
    rw [exponent, wholePart, neg_neg, raised_natCast, raised_neg_natCast,
      mul_one, pow_add, ← mul_assoc, Nat.mul_div_cancel _ (by positivity)]

/-- An integer of a word with up to 53 binary digits and zeros after them is
read as it is. -/
theorem toInt64_ofDecimal_of_digits {digits zeros : Nat}
    (small : digits < 2 ^ 53) {negative : Bool}
    (least : -2 ^ 63 ≤ signed negative (digits * 2 ^ zeros))
    (greatest : signed negative (digits * 2 ^ zeros) < 2 ^ 63) :
    (ofDecimal negative (digits * 2 ^ zeros) 0).toInt64.toInt =
      signed negative (digits * 2 ^ zeros) := by
  have clamped : max (-2 ^ 63) (min (2 ^ 63 - 1)
      (signed negative (digits * 2 ^ zeros))) =
        signed negative (digits * 2 ^ zeros) := by
    omega
  rcases Nat.eq_zero_or_pos digits with rfl | positive
  · have none : ofDecimal negative 0 0 = zero negative := by
      simp [ofDecimal]
    rw [Nat.zero_mul] at clamped ⊢
    rw [none, zero, toInt_toInt64_finite, wholePart, Nat.zero_mul,
      Nat.zero_div, clamped]
  · have size := natAbs_signed negative (digits * 2 ^ zeros)
    have few : zeros < 64 := by
      have power : 2 ^ zeros < 2 ^ 64 :=
        calc 2 ^ zeros ≤ digits * 2 ^ zeros := Nat.le_mul_of_pos_left _ positive
          _ < 2 ^ 64 := by omega
      exact (Nat.pow_lt_pow_iff_right (by decide)).mp power
    obtain ⟨places, canonical⟩ := exists_canonical_of_digits positive small few
    have filled : 0 < digits * 2 ^ places := by positivity
    have value : ((digits * 2 ^ places : Nat) : ℚ) *
        2 ^ ((zeros : Int) - places) =
          (digits * 2 ^ zeros : Nat) * 10 ^ (0 : Int) := by
      push_cast
      rw [zpow_sub₀ two_ne_zero, zpow_natCast, zpow_natCast]
      field_simp
    have near := roundsTo_self (digits * 2 ^ places) (zeros - places)
    rw [value] at near
    rw [ofDecimal_of_roundsTo canonical filled near, toInt_toInt64_finite,
      wholePart_filled, clamped]

theorem toInt64_ofDecimal_of_lt {n : Nat} (small : n < 2 ^ 53)
    (negative : Bool) :
    (ofDecimal negative n 0).toInt64.toInt = signed negative n := by
  have inside : -2 ^ 63 ≤ signed negative n ∧ signed negative n < 2 ^ 63 := by
    have size := natAbs_signed negative n
    omega
  rw [← Nat.mul_one n, ← Nat.pow_zero 2] at inside ⊢
  exact toInt64_ofDecimal_of_digits small inside.1 inside.2

theorem le_wholePart {significand : Nat} {exponent : Int}
    (filled : 2 ^ 52 ≤ significand) (above : 1 ≤ exponent) :
    2 ^ 53 ≤ wholePart significand exponent := by
  obtain ⟨places, rfl⟩ : ∃ places : Nat, exponent = (places + 1 : Nat) :=
    ⟨(exponent - 1).toNat, by omega⟩
  rw [le_wholePart_iff, raised_natCast, raised_neg_natCast, mul_one, pow_succ]
  calc 2 ^ 53 = 2 ^ 52 * (1 * 2) := by norm_num
    _ ≤ significand * (2 ^ places * 2) := by
        gcongr
        exact Nat.one_le_two_pow

/-- A quotient of at least 54 binary digits is not rounded below the first
number that has so many. -/
theorem le_toInt64_ofRatio {num den : Nat} (denPositive : 0 < den)
    (large : (2 : ℚ) ^ 53 ≤ num / den) :
    2 ^ 53 ≤ (ofRatio false num den).toInt64.toInt := by
  have numPositive : 0 < num := by
    refine Nat.pos_of_ne_zero fun zero => ?_
    rw [zero, Nat.cast_zero, zero_div] at large
    norm_num at large
  have leading : ¬binaryExponent num den < 53 := by
    rw [binaryExponent_lt_iff numPositive denPositive]
    exact not_lt.mpr large
  have above : 1 ≤ roundingExponent num den := by
    unfold roundingExponent
    omega
  have filled := le_roundedSignificand numPositive denPositive
    (lt_of_lt_of_le (by decide) above)
  have enough {significand : Nat} {exponent : Int}
      (filled : 2 ^ 52 ≤ significand) (above : 1 ≤ exponent) :
      2 ^ 53 ≤ (if greatestExponent < exponent then infinite false
        else finite false significand exponent).toInt64.toInt := by
    split
    · decide
    · have whole := le_wholePart filled above
      rw [toInt_toInt64_finite, signed_false]
      omega
  rw [ofRatio_of_pos numPositive]
  by_cases carried : roundedSignificand num den = 2 ^ 53
  · rw [if_pos carried]
    exact enough le_rfl (by omega)
  · rw [if_neg carried]
    exact enough filled above

theorem le_toInt64_ofDecimal {n : Nat} (large : 2 ^ 53 ≤ n)
    (word : n < 2 ^ 64) : 2 ^ 53 ≤ (ofDecimal false n 0).toInt64.toInt := by
  have positive : 0 < n := by omega
  have atLeast : (2 : ℚ) ^ 53 ≤ n * 10 ^ (0 : Int) := by
    rw [zpow_zero, mul_one]
    exact_mod_cast large
  have low : (2 : ℚ) ^ (-1075 : Int) ≤ n * 10 ^ (0 : Int) := by
    calc (2 : ℚ) ^ (-1075 : Int) ≤ 2 ^ (53 : Int) :=
          zpow_le_zpow_right₀ one_le_two (by norm_num)
      _ ≤ n * 10 ^ (0 : Int) := by exact_mod_cast atLeast
  have high : (n : ℚ) * 10 ^ (0 : Int) < 2 ^ (1024 : Int) := by
    calc (n : ℚ) * 10 ^ (0 : Int) < 2 ^ (64 : Int) := by
          rw [zpow_zero, mul_one]
          exact_mod_cast word
      _ ≤ 2 ^ (1024 : Int) := zpow_le_zpow_right₀ one_le_two (by norm_num)
  rw [ofDecimal_eq_ofRatio positive low high]
  refine le_toInt64_ofRatio (raised_pos (by decide) _) ?_
  rw [quotient_of_decimal]
  exact atLeast

theorem ofRatio_sign (negative : Bool) (num den : Nat) :
    ofRatio negative num den = infinite negative ∨
      ∃ significand exponent,
        ofRatio negative num den = finite negative significand exponent := by
  rcases Nat.eq_zero_or_pos num with rfl | positive
  · exact Or.inr ⟨0, leastExponent, rfl⟩
  · rw [ofRatio_of_pos positive]
    dsimp only
    split <;> split
    · exact Or.inl rfl
    · exact Or.inr ⟨_, _, rfl⟩
    · exact Or.inl rfl
    · exact Or.inr ⟨_, _, rfl⟩

theorem ofDecimal_sign (negative : Bool) (digits : Nat) (power : Int) :
    ofDecimal negative digits power = infinite negative ∨
      ∃ significand exponent,
        ofDecimal negative digits power =
          finite negative significand exponent := by
  unfold ofDecimal
  dsimp only
  split
  · exact Or.inr ⟨0, leastExponent, rfl⟩
  · split
    · exact Or.inl rfl
    · exact ofRatio_sign negative _ _

theorem toInt64_ofDecimal_true_nonpos (digits : Nat) (power : Int) :
    (ofDecimal true digits power).toInt64.toInt ≤ 0 := by
  rcases ofDecimal_sign true digits power with
    infinite | ⟨significand, exponent, finite⟩
  · rw [infinite]
    decide
  · rw [finite, toInt_toInt64_finite, signed_true]
    omega

/-- An integer of a word and the double that it is read as reach the same
bounds, as far as integers are doubles. -/
theorem le_toInt64_ofDecimal_iff {bound : Nat} (positive : 0 < bound)
    (inside : bound ≤ 2 ^ 53) {n : Int} (least : -2 ^ 63 ≤ n)
    (greatest : n < 2 ^ 63) :
    bound ≤ (ofDecimal (decide (n < 0)) n.natAbs 0).toInt64.toInt ↔
      bound ≤ n := by
  by_cases negative : n < 0
  · have below := toInt64_ofDecimal_true_nonpos n.natAbs 0
    rw [decide_eq_true negative]
    omega
  · rw [decide_eq_false negative]
    by_cases small : n.natAbs < 2 ^ 53
    · rw [toInt64_ofDecimal_of_lt small, signed_false]
      omega
    · have reached := le_toInt64_ofDecimal (n := n.natAbs) (by omega) (by omega)
      omega

end GatewayPolicy.Binary64
