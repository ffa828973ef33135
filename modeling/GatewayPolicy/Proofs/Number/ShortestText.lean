import GatewayPolicy.Proofs.Number.Decimals
import GatewayPolicy.Proofs.Number.Numerals

/-!
# Texts of doubles read back

The digits that are selected for a double lie among the numbers that round to
it, and the layout keeps their value.  So reading the text of a double gives the
double back, whatever its size.
-/

set_option autoImplicit false

namespace GatewayPolicy.Binary64

/-! ## Comparing decimal and binary numbers -/

section Compare

variable (a n : Nat) (i j : Int)

theorem compared_products :
    ∃ scale : ℚ, 0 < scale ∧
      (a : ℚ) * 10 ^ i * scale =
        (a * raised 10 i * raised 2 (-j) : Nat) ∧
      (n : ℚ) * 2 ^ j * scale =
        (n * raised 2 j * raised 10 (-i) : Nat) := by
  have ten := raised_div_raised 10 i
  have two := raised_div_raised 2 j
  have tenPositive : (0 : ℚ) < raised 10 (-i) := by
    exact_mod_cast raised_pos (by decide) (-i)
  have twoPositive : (0 : ℚ) < raised 2 (-j) := by
    exact_mod_cast raised_pos (by decide) (-j)
  refine ⟨raised 10 (-i) * raised 2 (-j), by positivity, ?_, ?_⟩
  · push_cast at ten ⊢
    rw [← ten]
    field_simp
  · push_cast at two ⊢
    rw [← two]
    field_simp

theorem compareScaled_eq_lt_iff :
    compareScaled a i n j = .lt ↔ (a : ℚ) * 10 ^ i < n * 2 ^ j := by
  obtain ⟨scale, positive, left, right⟩ := compared_products a n i j
  rw [compareScaled, Nat.compare_eq_lt, ← mul_lt_mul_iff_of_pos_right positive,
    left, right, Nat.cast_lt]

theorem compareScaled_eq_eq_iff :
    compareScaled a i n j = .eq ↔ (a : ℚ) * 10 ^ i = n * 2 ^ j := by
  obtain ⟨scale, positive, left, right⟩ := compared_products a n i j
  rw [compareScaled, Nat.compare_eq_eq, ← mul_left_inj' positive.ne', left,
    right, Nat.cast_inj]

theorem compareScaled_eq_gt_iff :
    compareScaled a i n j = .gt ↔ (n : ℚ) * 2 ^ j < a * 10 ^ i := by
  obtain ⟨scale, positive, left, right⟩ := compared_products a n i j
  rw [compareScaled, Nat.compare_eq_gt, ← mul_lt_mul_iff_of_pos_right positive,
    left, right, Nat.cast_lt]

end Compare

/-! ## Digits that read back -/

theorem readsBack_iff {significand : Nat} (positive : 0 < significand)
    (exponent : Int) (digits : Nat) (power : Int) :
    readsBack significand exponent digits power = true ↔
      RoundsTo significand exponent (digits * 10 ^ power) := by
  have unit : (0 : ℚ) < 2 ^ exponent := zpow_pos two_pos exponent
  have quarter : (2 : ℚ) ^ (exponent - 2) = 2 ^ exponent / 4 := by
    rw [zpow_sub₀ two_ne_zero]
    norm_num
  have narrow : (significand == raised 2 52 &&
      decide (leastExponent < exponent)) = true ↔
        IsNarrow significand exponent := by
    simp [IsNarrow, raised]
  have low : ((if (significand == raised 2 52 &&
      decide (leastExponent < exponent)) = true then 4 * significand - 1
      else 4 * significand - 2 : Nat) : ℚ) * 2 ^ (exponent - 2) =
        (significand - lowerGap significand exponent) * 2 ^ exponent := by
    rw [quarter, lowerGap]
    by_cases half : IsNarrow significand exponent
    · rw [if_pos (narrow.mpr half), if_pos half, Nat.cast_sub (by omega)]
      push_cast
      ring
    · rw [if_neg (mt narrow.mp half), if_neg half, Nat.cast_sub (by omega)]
      push_cast
      ring
  have high : ((4 * significand + 2 : Nat) : ℚ) * 2 ^ (exponent - 2) =
      (significand + 1 / 2) * 2 ^ exponent := by
    rw [quarter]
    push_cast
    ring
  rw [RoundsTo, between_div_iff unit, between_iff, ← low, ← high]
  simp only [readsBack, Bool.and_eq_true, Bool.or_eq_true, beq_iff_eq,
    compareScaled_eq_gt_iff, compareScaled_eq_eq_iff, compareScaled_eq_lt_iff]

/-! ## Figures -/

def Figures.value (f : Figures) : ℚ :=
  Numeral.ofDigits f.figures * 10 ^ f.exponent

theorem exists_toDigits_eq {n : Nat} (positive : 0 < n) (exponent : Int) :
    ∃ zeros : Nat,
      Nat.toDigits 10 n =
        (figuresOf n exponent).figures ++ List.replicate zeros '0' ∧
      (figuresOf n exponent).exponent = exponent + zeros := by
  have split := List.takeWhile_append_dropWhile (p := (· == '0'))
    (l := (Nat.toDigits 10 n).reverse)
  have zeros : (Nat.toDigits 10 n).reverse.takeWhile (· == '0') =
      List.replicate
        ((Nat.toDigits 10 n).reverse.takeWhile (· == '0')).length '0' :=
    List.eq_replicate_iff.mpr ⟨rfl, fun c member => by
      simpa using List.all_eq_true.mp List.all_takeWhile c member⟩
  refine ⟨((Nat.toDigits 10 n).reverse.takeWhile (· == '0')).length, ?_, ?_⟩
  · rw [figuresOf, if_neg positive.ne', ← List.reverse_replicate, ← zeros,
      ← List.reverse_append, split, List.reverse_reverse]
  · rw [figuresOf, if_neg positive.ne']

theorem value_figuresOf (n : Nat) (exponent : Int) :
    (figuresOf n exponent).value = n * 10 ^ exponent := by
  rcases Nat.eq_zero_or_pos n with rfl | positive
  · simp [Figures.value, figuresOf, Numeral.ofDigits]
  · obtain ⟨zeros, digits, shifted⟩ :=
      exists_toDigits_eq positive exponent
    have whole := Numeral.ofDigits_toDigits n
    rw [digits, Numeral.ofDigits_append_zeros] at whole
    rw [Figures.value, shifted, zpow_add₀ (by norm_num), zpow_natCast]
    nth_rewrite 2 [← whole]
    push_cast
    ring

theorem isDigit_of_mem_figuresOf (n : Nat) (exponent : Int) :
    ∀ c ∈ (figuresOf n exponent).figures, c.isDigit = true := by
  intro c member
  rcases Nat.eq_zero_or_pos n with rfl | positive
  · rw [figuresOf, if_pos rfl, List.mem_singleton] at member
    rw [member]
    rfl
  · obtain ⟨zeros, digits, _⟩ :=
      exists_toDigits_eq positive exponent
    refine Numeral.isDigit_of_mem_toDigits n c ?_
    rw [digits]
    exact List.mem_append_left _ member

/-! ## The search -/

theorem readsBack_of_gridPoint? {significand digits : Nat}
    {exponent power : Int}
    (found : gridPoint? significand exponent power = some digits) :
    readsBack significand exponent digits power = true := by
  unfold gridPoint? at found
  dsimp only at found
  split at found
  · next below above =>
      obtain rfl := Option.some.inj found
      split
      · exact below
      · exact above
  · next below _ =>
      obtain rfl := Option.some.inj found
      exact below
  · next _ above =>
      obtain rfl := Option.some.inj found
      exact above
  · cases found

theorem value_exactFigures (significand : Nat) (exponent : Int) :
    (exactFigures significand exponent).value =
      significand * 2 ^ exponent := by
  rw [exactFigures, value_figuresOf]
  obtain ⟨n, rfl | rfl⟩ := exponent.eq_nat_or_neg
  · rw [raised_natCast, raised_neg_natCast, min_eq_right (by omega)]
    push_cast
    rw [zpow_natCast]
    ring
  · rw [neg_neg, raised_natCast, raised_neg_natCast, min_eq_left (by omega)]
    push_cast
    rw [zpow_neg, zpow_neg, zpow_natCast, zpow_natCast,
      show (10 : ℚ) = 2 * 5 by norm_num, mul_pow]
    field_simp

/-- The figures that are selected for a double are digits of a number that
rounds to it. -/
theorem shortest_spec {significand : Nat} (positive : 0 < significand)
    (exponent : Int) :
    RoundsTo significand exponent (shortest significand exponent).value ∧
      ∀ c ∈ (shortest significand exponent).figures, c.isDigit = true := by
  rw [shortest, if_neg positive.ne']
  dsimp only
  generalize search : List.findSome? _ (List.range 17) = found
  cases found with
  | none =>
      rw [Option.getD_none, value_exactFigures]
      exact ⟨roundsTo_self significand exponent,
        isDigit_of_mem_figuresOf _ _⟩
  | some figures =>
      obtain ⟨place, _, selected⟩ := List.exists_of_findSome?_eq_some search
      obtain ⟨digits, point, rfl⟩ := Option.map_eq_some_iff.mp selected
      rw [Option.getD_some, value_figuresOf]
      exact ⟨(readsBack_iff positive exponent digits _).mp
        (readsBack_of_gridPoint? point), isDigit_of_mem_figuresOf _ _⟩

/-! ## Layout -/

namespace Figures

variable (f : Figures)

/-- Places before the point that no figure fills are zeros, and there are as
many figures after the point as the exponent says. -/
theorem ofDigits_parts :
    Numeral.ofDigits (f.parts.1 ++ f.parts.2) =
        Numeral.ofDigits f.figures * 10 ^ f.exponent.toNat ∧
      f.parts.2.length = (-f.exponent).toNat := by
  unfold parts
  dsimp only
  split
  · next before =>
      unfold pointPlace at before ⊢
      rcases Int.le_total 0 f.exponent with whole | fraction
      · have all : f.figures.length ≤
            (f.figures.length + f.exponent).toNat := by
          omega
        rw [List.take_of_length_le all, List.drop_of_length_le all,
          List.append_nil, Numeral.ofDigits_append_zeros, List.length_nil]
        exact ⟨rfl, by omega⟩
      · have none : f.exponent.toNat = 0 := by omega
        rw [none, List.replicate_zero, List.append_nil,
          List.take_append_drop, pow_zero, mul_one, List.length_drop]
        exact ⟨rfl, by omega⟩
  · next after =>
      unfold pointPlace at after ⊢
      have none : f.exponent.toNat = 0 := by omega
      rw [none, pow_zero, mul_one, ← List.append_assoc,
        show ['0'] = List.replicate 1 '0' from rfl, List.replicate_append_replicate,
        Numeral.ofDigits_zeros_append, List.length_append,
        List.length_replicate]
      exact ⟨rfl, by omega⟩

theorem parts_ne_nil : f.parts.1 ≠ [] := by
  unfold parts
  dsimp only
  split
  · next before =>
      unfold pointPlace at before ⊢
      intro none
      have count := congrArg List.length none
      rw [List.length_append, List.length_take, List.length_replicate,
        List.length_nil] at count
      omega
  · exact List.cons_ne_nil _ _

theorem positional_eq_plain :
    f.positional = Numeral.plain f.parts.1 f.parts.2 :=
  rfl

theorem isDigit_of_mem_parts (digits : ∀ c ∈ f.figures, c.isDigit = true) :
    (∀ c ∈ f.parts.1, c.isDigit = true) ∧
      ∀ c ∈ f.parts.2, c.isDigit = true := by
  have zeros (count : Nat) : ∀ c ∈ List.replicate count '0', c.isDigit = true := by
    intro c member
    rw [List.eq_of_mem_replicate member]
    rfl
  unfold parts
  dsimp only
  split
  · exact ⟨List.forall_mem_append.mpr
      ⟨fun c member => digits c (List.mem_of_mem_take member), zeros _⟩,
      fun c member => digits c (List.mem_of_mem_drop member)⟩
  · exact ⟨zeros 1, List.forall_mem_append.mpr ⟨zeros _, digits⟩⟩

theorem value_parts :
    (Numeral.ofDigits (f.parts.1 ++ f.parts.2) : ℚ) *
      10 ^ (-f.parts.2.length : Int) = f.value := by
  obtain ⟨digits, length⟩ := f.ofDigits_parts
  rw [digits, length, value]
  push_cast
  rw [mul_assoc, ← zpow_natCast, ← zpow_add₀ (by norm_num)]
  congr 2
  omega

end Figures

/-! ## Reading back -/

/-- Reading the text of a double gives the double back. -/
theorem read?_text {x : Binary64} (canonical : x.IsCanonical) :
    Numeral.read? x.text = some x := by
  cases x with
  | nan => rfl
  | infinite negative => cases negative <;> rfl
  | finite negative significand exponent =>
      rcases Nat.eq_zero_or_pos significand with rfl | positive
      · obtain rfl : exponent = leastExponent :=
          canonical.filled.resolve_left (by decide)
        cases negative <;> rfl
      · obtain ⟨near, digits⟩ := shortest_spec positive exponent
        have figures := (shortest significand exponent).value_parts
        obtain ⟨whole, fraction⟩ :=
          (shortest significand exponent).isDigit_of_mem_parts digits
        rw [← figures] at near
        rw [text, Figures.positional_eq_plain,
          Numeral.read?_plain (Figures.parts_ne_nil _) whole fraction negative,
          ofDecimal_of_roundsTo canonical positive near negative]

end GatewayPolicy.Binary64
