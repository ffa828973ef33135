import GatewayPolicy.Number.Binary64
import Mathlib.Algebra.Order.Field.Power
import Mathlib.Data.Rat.Cast.Order
import Mathlib.Tactic.FieldSimp
import Mathlib.Tactic.Linarith
import Mathlib.Tactic.NormNum
import Mathlib.Tactic.Positivity
import Mathlib.Tactic.Ring

/-!
# Rounding to doubles

A quotient is taken as a rational.  Its leading binary digit is found exactly,
and the quotient becomes the double that it is nearest to; halfway between two
it becomes the even one.
-/

set_option autoImplicit false

namespace GatewayPolicy.Binary64

/-! ## Powers -/

theorem raised_pos {base : Nat} (positive : 0 < base) (exponent : Int) :
    0 < raised base exponent :=
  Nat.pow_pos positive

theorem raised_natCast (base n : Nat) : raised base n = base ^ n :=
  rfl

theorem raised_neg_natCast (base n : Nat) : raised base (-n) = 1 := by
  rw [raised, show (-(n : Int)).toNat = 0 by omega]
  rfl

theorem raised_div_raised (base : Nat) (exponent : Int) :
    (raised base exponent : ℚ) / raised base (-exponent) =
      (base : ℚ) ^ exponent := by
  obtain ⟨n, rfl | rfl⟩ := exponent.eq_nat_or_neg
  · rw [raised_natCast, raised_neg_natCast]
    push_cast
    rw [div_one, zpow_natCast]
  · rw [neg_neg, raised_natCast, raised_neg_natCast]
    push_cast
    rw [zpow_neg, zpow_natCast, one_div]

section Quotient

variable {num den : Nat}

theorem shifted_quotient (num den : Nat) (exponent : Int) :
    ((num * raised 2 (-exponent) : Nat) : ℚ) /
        (den * raised 2 exponent : Nat) =
      num / den / 2 ^ exponent := by
  have shift := raised_div_raised 2 exponent
  have up : (raised 2 exponent : ℚ) ≠ 0 := by
    exact_mod_cast (raised_pos (by decide) exponent).ne'
  have down : (raised 2 (-exponent) : ℚ) ≠ 0 := by
    exact_mod_cast (raised_pos (by decide) (-exponent)).ne'
  push_cast at shift ⊢
  rw [← shift]
  field_simp

/-! ## The leading digit -/

theorem raised_le_iff (positive : 0 < den) (exponent : Int) :
    den * raised 2 exponent ≤ num * raised 2 (-exponent) ↔
      (2 : ℚ) ^ exponent ≤ num / den := by
  have shift := raised_div_raised 2 exponent
  have down : (0 : ℚ) < raised 2 (-exponent) := by
    exact_mod_cast raised_pos (by decide) (-exponent)
  have denominator : (0 : ℚ) < den := by exact_mod_cast positive
  push_cast at shift
  rw [← shift, div_le_div_iff₀ down denominator, mul_comm (raised 2 _ : ℚ)]
  exact_mod_cast Iff.rfl

/-- The logarithms of both parts leave two candidates. -/
theorem log2_bounds (numPositive : 0 < num) (denPositive : 0 < den) :
    (2 : ℚ) ^ ((num.log2 : Int) - den.log2 - 1) < num / den ∧
      (num : ℚ) / den < 2 ^ ((num.log2 : Int) - den.log2 + 1) := by
  have numLow : (2 : ℚ) ^ num.log2 ≤ num := by
    exact_mod_cast Nat.log2_self_le numPositive.ne'
  have numHigh : (num : ℚ) < 2 ^ (num.log2 + 1) := by
    exact_mod_cast Nat.lt_log2_self
  have denLow : (2 : ℚ) ^ den.log2 ≤ den := by
    exact_mod_cast Nat.log2_self_le denPositive.ne'
  have denHigh : (den : ℚ) < 2 ^ (den.log2 + 1) := by
    exact_mod_cast Nat.lt_log2_self
  have denominator : (0 : ℚ) < den := by exact_mod_cast denPositive
  have below : (2 : ℚ) ^ ((num.log2 : Int) - den.log2 - 1) =
      2 ^ num.log2 / 2 ^ (den.log2 + 1) := by
    rw [show (num.log2 : Int) - den.log2 - 1 =
      (num.log2 : Int) - ((den.log2 + 1 : Nat) : Int) by push_cast; ring,
      zpow_sub₀ two_ne_zero, zpow_natCast, zpow_natCast]
  have above : (2 : ℚ) ^ ((num.log2 : Int) - den.log2 + 1) =
      2 ^ (num.log2 + 1) / 2 ^ den.log2 := by
    rw [show (num.log2 : Int) - den.log2 + 1 =
      ((num.log2 + 1 : Nat) : Int) - (den.log2 : Int) by push_cast; ring,
      zpow_sub₀ two_ne_zero, zpow_natCast, zpow_natCast]
  rw [below, above]
  constructor
  · rw [div_lt_div_iff₀ (by positivity) denominator]
    calc (2 : ℚ) ^ num.log2 * den < 2 ^ num.log2 * 2 ^ (den.log2 + 1) := by
          gcongr
      _ ≤ num * 2 ^ (den.log2 + 1) := by gcongr
  · rw [div_lt_div_iff₀ denominator (by positivity)]
    calc (num : ℚ) * 2 ^ den.log2 ≤ num * den := by gcongr
      _ < 2 ^ (num.log2 + 1) * den := by gcongr

theorem binaryExponent_bounds (numPositive : 0 < num) (denPositive : 0 < den) :
    (2 : ℚ) ^ binaryExponent num den ≤ num / den ∧
      (num : ℚ) / den < 2 ^ (binaryExponent num den + 1) := by
  obtain ⟨low, high⟩ := log2_bounds numPositive denPositive
  unfold binaryExponent
  dsimp only
  split
  · next reached =>
      exact ⟨(raised_le_iff denPositive _).mp reached, high⟩
  · next missed =>
      rw [raised_le_iff denPositive, not_le] at missed
      exact ⟨low.le, by rwa [sub_add_cancel]⟩

theorem binaryExponent_lt_iff (numPositive : 0 < num)
    (denPositive : 0 < den) (exponent : Int) :
    binaryExponent num den < exponent ↔ (num : ℚ) / den < 2 ^ exponent := by
  obtain ⟨low, high⟩ := binaryExponent_bounds numPositive denPositive
  constructor
  · intro less
    exact high.trans_le (zpow_le_zpow_right₀ one_le_two (by omega))
  · intro less
    exact (zpow_lt_zpow_iff_right₀ one_lt_two).mp (low.trans_lt less)

/-! ## Rounding to naturals -/

/-- The ends count as inside if the interval is closed. -/
def Between (closed : Bool) (low high x : ℚ) : Prop :=
  if closed then low ≤ x ∧ x ≤ high else low < x ∧ x < high

/-- The products tell how far the quotient is from a natural: at most half, and
less than half from an odd one. -/
theorem roundHalfEven_eq_of_mul {n : Nat} (positive : 0 < den)
    (low : 2 * (den * n) ≤ 2 * num + den)
    (high : 2 * num ≤ 2 * (den * n) + den)
    (inside : n % 2 = 0 ∨
      2 * (den * n) < 2 * num + den ∧ 2 * num < 2 * (den * n) + den) :
    roundHalfEven num den = n := by
  have parts := Nat.div_add_mod num den
  have small := Nat.mod_lt num positive
  rw [roundHalfEven]
  generalize num / den = quotient at parts ⊢
  generalize num % den = rest at parts small ⊢
  have atMost : n ≤ quotient + 1 := by
    have less : den * n < den * (quotient + 2) := by
      rw [Nat.mul_add]
      omega
    exact Nat.le_of_lt_succ (Nat.lt_of_mul_lt_mul_left less)
  have atLeast : quotient ≤ n := by
    have less : den * quotient < den * (n + 1) := by
      rw [Nat.mul_add]
      omega
    exact Nat.le_of_lt_succ (Nat.lt_of_mul_lt_mul_left less)
  have decided : (2 * rest < den ∨ 2 * rest = den ∧ quotient % 2 = 0) ↔
      n = quotient := by
    rcases Nat.eq_or_lt_of_le atLeast with same | more
    · subst same
      omega
    · obtain rfl : n = quotient + 1 := by omega
      rw [Nat.mul_add] at low high inside
      omega
  simp only [Bool.or_eq_true, Bool.and_eq_true, decide_eq_true_eq,
    beq_iff_eq, decided]
  split <;> omega

theorem roundHalfEven_eq {n : Nat} (positive : 0 < den)
    (near : Between (n % 2 == 0) (n - 1 / 2) (n + 1 / 2) (num / den)) :
    roundHalfEven num den = n := by
  have denominator : (0 : ℚ) < den := by exact_mod_cast positive
  unfold Between at near
  split at near
  · next even =>
      obtain ⟨low, high⟩ := near
      rw [le_div_iff₀ denominator] at low
      rw [div_le_iff₀ denominator] at high
      refine roundHalfEven_eq_of_mul positive ?_ ?_ (Or.inl (by simpa using even))
      · have scaled : 2 * ((den : ℚ) * n) ≤ 2 * num + den := by linarith
        exact_mod_cast scaled
      · have scaled : 2 * (num : ℚ) ≤ 2 * (den * n) + den := by linarith
        exact_mod_cast scaled
  · obtain ⟨low, high⟩ := near
    rw [lt_div_iff₀ denominator] at low
    rw [div_lt_iff₀ denominator] at high
    have scaledLow : 2 * ((den : ℚ) * n) < 2 * num + den := by linarith
    have scaledHigh : 2 * (num : ℚ) < 2 * (den * n) + den := by linarith
    have strictLow : 2 * (den * n) < 2 * num + den := by
      exact_mod_cast scaledLow
    have strictHigh : 2 * num < 2 * (den * n) + den := by
      exact_mod_cast scaledHigh
    exact roundHalfEven_eq_of_mul positive strictLow.le strictHigh.le
      (Or.inr ⟨strictLow, strictHigh⟩)

theorem le_roundHalfEven {n : Nat} (positive : 0 < den)
    (below : (n : ℚ) ≤ num / den) : n ≤ roundHalfEven num den := by
  have whole : n ≤ num / den := by
    rw [Nat.le_div_iff_mul_le positive]
    have denominator : (0 : ℚ) < den := by exact_mod_cast positive
    rw [le_div_iff₀ denominator] at below
    exact_mod_cast below
  rw [roundHalfEven]
  split <;> omega

theorem roundHalfEven_le {n : Nat} (positive : 0 < den)
    (above : (num : ℚ) / den < n) : roundHalfEven num den ≤ n := by
  have whole : num / den < n := by
    rw [Nat.div_lt_iff_lt_mul positive]
    have denominator : (0 : ℚ) < den := by exact_mod_cast positive
    rw [div_lt_iff₀ denominator] at above
    exact_mod_cast above
  rw [roundHalfEven]
  split <;> omega

end Quotient

theorem between_iff {closed : Bool} {low high x : ℚ} :
    Between closed low high x ↔
      (low < x ∨ closed = true ∧ x = low) ∧
        (x < high ∨ closed = true ∧ x = high) := by
  cases closed
  · simp [Between]
  · simp [Between, le_iff_lt_or_eq, eq_comm]

theorem between_div_iff {closed : Bool} {low high x unit : ℚ}
    (positive : 0 < unit) :
    Between closed low high (x / unit) ↔
      Between closed (low * unit) (high * unit) x := by
  unfold Between
  rw [le_div_iff₀ positive, div_le_iff₀ positive, lt_div_iff₀ positive,
    div_lt_iff₀ positive]

theorem Between.bounds {closed : Bool} {low high x : ℚ}
    (inside : Between closed low high x) : low ≤ x ∧ x ≤ high := by
  unfold Between at inside
  split at inside
  · exact inside
  · exact ⟨inside.1.le, inside.2.le⟩

theorem Between.widen {closed : Bool} {low high lower x : ℚ}
    (inside : Between closed low high x) (below : lower ≤ low) :
    Between closed lower high x := by
  unfold Between at inside ⊢
  split at inside
  · next always => exact (if_pos always).mpr ⟨below.trans inside.1, inside.2⟩
  · next never =>
      exact (if_neg never).mpr ⟨below.trans_lt inside.1, inside.2⟩

theorem Between.of_lt {closed : Bool} {low high x : ℚ} (above : low < x)
    (below : x < high) : Between closed low high x := by
  unfold Between
  split
  · exact ⟨above.le, below.le⟩
  · exact ⟨above, below⟩

/-! ## Canonical doubles -/

/-- The one way to write a double: its significand fits 53 binary digits and
fills them, unless the exponent is the least one. -/
structure Canonical (significand : Nat) (exponent : Int) : Prop where
  bounded : significand < 2 ^ 53
  least : leastExponent ≤ exponent
  greatest : exponent ≤ greatestExponent
  filled : 2 ^ 52 ≤ significand ∨ exponent = leastExponent

def IsCanonical : Binary64 → Prop
  | finite _ significand exponent => Canonical significand exponent
  | _ => True

/-- Above the least exponent, a power of two has its lower neighbour half as
far away as the upper one. -/
def IsNarrow (significand : Nat) (exponent : Int) : Prop :=
  significand = 2 ^ 52 ∧ leastExponent < exponent

instance (significand : Nat) (exponent : Int) :
    Decidable (IsNarrow significand exponent) :=
  inferInstanceAs (Decidable (_ ∧ _))

/-- How far the midpoint to the lower neighbour is away, in units of the last
digit. -/
def lowerGap (significand : Nat) (exponent : Int) : ℚ :=
  if IsNarrow significand exponent then 1 / 4 else 1 / 2

/-- The positive number lies among those whose nearest double is
`significand · 2 ^ exponent`. -/
def RoundsTo (significand : Nat) (exponent : Int) (x : ℚ) : Prop :=
  Between (significand % 2 == 0)
    (significand - lowerGap significand exponent) (significand + 1 / 2)
    (x / 2 ^ exponent)

theorem lowerGap_pos (significand : Nat) (exponent : Int) :
    0 < lowerGap significand exponent := by
  unfold lowerGap
  split <;> norm_num

theorem lowerGap_le (significand : Nat) (exponent : Int) :
    lowerGap significand exponent ≤ 1 / 2 := by
  unfold lowerGap
  split <;> norm_num

theorem roundsTo_self (significand : Nat) (exponent : Int) :
    RoundsTo significand exponent (significand * 2 ^ exponent) := by
  have gap := lowerGap_pos significand exponent
  rw [RoundsTo, mul_div_cancel_right₀ _ (zpow_pos two_pos exponent).ne']
  exact .of_lt (by linarith) (by linarith)

/-! ## Doubles from quotients -/

section Quotient

variable {num den : Nat}

/-- The exponent of the double that a positive quotient is rounded to, unless
rounding adds a digit. -/
def roundingExponent (num den : Nat) : Int :=
  max (binaryExponent num den - 52) leastExponent

def roundedSignificand (num den : Nat) : Nat :=
  roundHalfEven (num * raised 2 (-roundingExponent num den))
    (den * raised 2 (roundingExponent num den))

theorem ofRatio_of_pos (numPositive : 0 < num) (negative : Bool) :
    ofRatio negative num den =
      let (significand, exponent) :=
        if roundedSignificand num den = 2 ^ 53 then
          (2 ^ 52, roundingExponent num den + 1)
        else (roundedSignificand num den, roundingExponent num den)
      if greatestExponent < exponent then infinite negative
      else finite negative significand exponent := by
  rw [ofRatio, if_neg numPositive.ne']
  rfl

/-- A quotient that fills the digits above the least exponent is rounded to a
significand that does. -/
theorem le_roundedSignificand (numPositive : 0 < num) (denPositive : 0 < den)
    (above : leastExponent < roundingExponent num den) :
    2 ^ 52 ≤ roundedSignificand num den := by
  have exponent : roundingExponent num den = binaryExponent num den - 52 := by
    unfold roundingExponent at above ⊢
    omega
  have low := (binaryExponent_bounds numPositive denPositive).1
  refine le_roundHalfEven
    (Nat.mul_pos denPositive (raised_pos (by decide) _)) ?_
  rw [shifted_quotient, exponent, le_div_iff₀ (zpow_pos two_pos _)]
  calc ((2 ^ 52 : Nat) : ℚ) * 2 ^ (binaryExponent num den - 52)
      = 2 ^ binaryExponent num den := by
        rw [zpow_sub₀ two_ne_zero]
        push_cast
        field_simp
    _ ≤ num / den := low

theorem roundedSignificand_le (numPositive : 0 < num)
    (denPositive : 0 < den) : roundedSignificand num den ≤ 2 ^ 53 := by
  have high := (binaryExponent_bounds numPositive denPositive).2
  refine roundHalfEven_le
    (Nat.mul_pos denPositive (raised_pos (by decide) _)) ?_
  rw [shifted_quotient, div_lt_iff₀ (zpow_pos two_pos _)]
  calc (num : ℚ) / den < 2 ^ (binaryExponent num den + 1) := high
    _ ≤ 2 ^ (53 + roundingExponent num den) :=
        zpow_le_zpow_right₀ one_le_two (by unfold roundingExponent; omega)
    _ = ((2 ^ 53 : Nat) : ℚ) * 2 ^ roundingExponent num den := by
        rw [zpow_add₀ two_ne_zero]
        norm_num

theorem isCanonical_ofRatio (denPositive : 0 < den) (negative : Bool)
    (num : Nat) : (ofRatio negative num den).IsCanonical := by
  rcases Nat.eq_zero_or_pos num with rfl | numPositive
  · exact ⟨by decide, le_rfl, by decide, Or.inr rfl⟩
  have least : leastExponent ≤ roundingExponent num den := le_max_right _ _
  have most := roundedSignificand_le numPositive denPositive
  rw [ofRatio_of_pos numPositive]
  by_cases carried : roundedSignificand num den = 2 ^ 53
  · rw [if_pos carried]
    dsimp only
    split
    · trivial
    · exact ⟨by decide, by omega, by omega, Or.inl le_rfl⟩
  · rw [if_neg carried]
    dsimp only
    split
    · trivial
    · refine ⟨by omega, least, by omega, ?_⟩
      rcases least.eq_or_lt with same | above
      · exact Or.inr same.symm
      · exact Or.inl (le_roundedSignificand numPositive denPositive above)

theorem binaryExponent_lt_add_iff (numPositive : 0 < num)
    (denPositive : 0 < den) (exponent : Int) (places : Nat) :
    binaryExponent num den < exponent + places ↔
      (num : ℚ) / den / 2 ^ exponent < 2 ^ places := by
  rw [binaryExponent_lt_iff numPositive denPositive,
    div_lt_iff₀ (zpow_pos two_pos exponent), zpow_add₀ two_ne_zero,
    zpow_natCast, mul_comm]

/-- Rounding finds the double that a quotient is nearest to. -/
theorem ofRatio_of_roundsTo {significand : Nat} {exponent : Int}
    (canonical : Canonical significand exponent) (positive : 0 < significand)
    (denPositive : 0 < den)
    (near : RoundsTo significand exponent (num / den)) (negative : Bool) :
    ofRatio negative num den = finite negative significand exponent := by
  obtain ⟨bounded, least, greatest, filled⟩ := canonical
  obtain ⟨low, high⟩ := near.bounds
  have gap := lowerGap_le significand exponent
  have one : (1 : ℚ) ≤ significand := by exact_mod_cast positive
  have numPositive : 0 < num := by
    refine Nat.pos_of_ne_zero fun zero => ?_
    rw [zero, Nat.cast_zero, zero_div, zero_div] at low
    linarith
  have leading := binaryExponent_lt_add_iff numPositive denPositive exponent
  have scaled (shift : Int) : 0 < den * raised 2 shift :=
    Nat.mul_pos denPositive (raised_pos (by decide) shift)
  rw [ofRatio_of_pos numPositive]
  by_cases crossing : IsNarrow significand exponent ∧
      (num : ℚ) / den / 2 ^ exponent < 2 ^ 52
  · -- just below a power of two, rounding adds a digit
    obtain ⟨⟨rfl, above⟩, short⟩ := crossing
    have long : ¬(num : ℚ) / den / 2 ^ exponent < 2 ^ 51 := by
      push_cast at low
      linarith
    have less := (leading 52).mpr short
    have more := (leading 51).not.mpr long
    have place : roundingExponent num den = exponent - 1 := by
      unfold roundingExponent
      omega
    have carried : roundedSignificand num den = 2 ^ 53 := by
      rw [roundedSignificand, place]
      refine roundHalfEven_eq (scaled _) ?_
      have doubled : (num : ℚ) / den / 2 ^ (exponent - 1) =
          2 * ((num : ℚ) / den / 2 ^ exponent) := by
        rw [zpow_sub₀ two_ne_zero]
        field_simp
      have gap : lowerGap (2 ^ 52) exponent = 1 / 4 := if_pos ⟨rfl, above⟩
      rw [gap] at low
      rw [shifted_quotient, doubled]
      push_cast at low ⊢
      exact (if_pos (by decide)).mpr ⟨by linarith, by linarith⟩
    rw [if_pos carried, place]
    dsimp only
    rw [if_neg (by omega), sub_add_cancel]
  · have place : roundingExponent num den = exponent := by
      have small : (significand : ℚ) + 1 ≤ 2 ^ 53 := by exact_mod_cast bounded
      have less := (leading 53).mpr (by linarith)
      have full : exponent = leastExponent ∨
          ¬(num : ℚ) / den / 2 ^ exponent < 2 ^ 52 := by
        by_cases narrow : IsNarrow significand exponent
        · exact Or.inr fun short => crossing ⟨narrow, short⟩
        · rcases least.eq_or_lt with same | above
          · exact Or.inl same.symm
          · have least : 2 ^ 52 ≤ significand := by omega
            have other : 2 ^ 52 ≠ significand := fun same =>
              narrow ⟨same.symm, above⟩
            have large : (2 : ℚ) ^ 52 + 1 ≤ significand := by
              exact_mod_cast (by omega : 2 ^ 52 + 1 ≤ significand)
            exact Or.inr (by linarith)
      have more := full.imp_right (leading 52).not.mpr
      unfold roundingExponent
      omega
    have rounded : roundedSignificand num den = significand := by
      rw [roundedSignificand, place]
      refine roundHalfEven_eq (scaled _) ?_
      rw [shifted_quotient]
      exact near.widen (by linarith)
    rw [rounded, place, if_neg bounded.ne]
    dsimp only
    rw [if_neg (by omega)]

end Quotient

end GatewayPolicy.Binary64
