import GatewayPolicy.Number.Shortest
import GatewayPolicy.Proofs.Number.Digits

/-!
# Reading plain numerals

A numeral without an exponent is read as the double of its decimal value: its
digits are one number, divided by ten for each digit after the point.
-/

set_option autoImplicit false

namespace GatewayPolicy.Numeral

def plain (whole fraction : List Char) : List Char :=
  if fraction.isEmpty then whole else whole ++ '.' :: fraction

theorem toLower_of_isDigit {c : Char} (digit : c.isDigit = true) :
    c.toLower = c := by
  unfold Char.toLower
  simp only [Char.isDigit, Bool.and_eq_true, decide_eq_true_eq] at digit
  rw [dif_neg]
  rintro ⟨letter, -⟩
  have order : ('A'.val : UInt32) ≤ '9'.val := UInt32.le_trans letter digit.2
  exact absurd order (by decide)

section Plain

variable {whole fraction : List Char}

theorem exists_head_plain (fraction : List Char) (nonempty : whole ≠ [])
    (wholeDigits : ∀ c ∈ whole, c.isDigit = true) :
    ∃ c rest, plain whole fraction = c :: rest ∧ c.isDigit = true := by
  obtain ⟨c, rest, rfl⟩ := List.exists_cons_of_ne_nil nonempty
  refine ⟨c, if fraction.isEmpty then rest else rest ++ '.' :: fraction, ?_,
    wholeDigits c (.head _)⟩
  unfold plain
  split <;> rfl

theorem parts?_plain (nonempty : whole ≠ [])
    (wholeDigits : ∀ c ∈ whole, c.isDigit = true)
    (fractionDigits : ∀ c ∈ fraction, c.isDigit = true) :
    parts? (plain whole fraction) =
      some { whole := whole, fraction := fraction, exponent := 0 } := by
  have written : whole.isEmpty = false := by
    cases whole with
    | nil => exact absurd rfl nonempty
    | cons _ _ => rfl
  unfold plain
  split
  · next none =>
      obtain rfl := List.isEmpty_iff.mp none
      have span := spanDigits_run wholeDigits Scanner.ends_nil
      rw [List.append_nil] at span
      simp only [parts?, span, takeFraction, written, Bool.false_and,
        Bool.false_eq_true, if_false, exponent?, Option.map_some]
  · have point : Scanner.Ends Char.isDigit ('.' :: fraction) :=
      Scanner.ends_cons rfl
    have span := spanDigits_run wholeDigits point
    have after := spanDigits_run fractionDigits Scanner.ends_nil
    rw [List.append_nil] at after
    simp only [parts?, span, takeFraction, after, written, Bool.false_and,
      Bool.false_eq_true, if_false, exponent?, Option.map_some]

theorem takeSign_signText (negative : Bool) {cs : List Char} {c : Char}
    (first : cs.head? = some c) (digit : c.isDigit = true) :
    takeSign ((Binary64.signText negative).toList ++ cs) = (negative, cs) := by
  cases negative with
  | true => rfl
  | false =>
      change takeSign cs = (false, cs)
      unfold takeSign
      split
      · obtain rfl : '+' = c := Option.some.inj first
        exact absurd digit (by decide)
      · obtain rfl : '-' = c := Option.some.inj first
        exact absurd digit (by decide)
      · rfl

theorem read?_plain (nonempty : whole ≠ [])
    (wholeDigits : ∀ c ∈ whole, c.isDigit = true)
    (fractionDigits : ∀ c ∈ fraction, c.isDigit = true) (negative : Bool) :
    read? (Binary64.signText negative ++
        String.ofList (plain whole fraction)) =
      some (.ofDecimal negative (ofDigits (whole ++ fraction))
        (-fraction.length)) := by
  obtain ⟨c, rest, written, digit⟩ :=
    exists_head_plain fraction nonempty wholeDigits
  have lowered : (Text.lowerAscii
      (String.ofList (plain whole fraction))).toList.head? = some c := by
    rw [Text.lowerAscii, String.toList_ofList, String.toList_ofList, written,
      List.map_cons, List.head?_cons, toLower_of_isDigit digit]
  have sign := takeSign_signText negative
    (show (plain whole fraction).head? = some c by rw [written]; rfl) digit
  rw [read?, String.toList_append, String.toList_ofList, sign]
  dsimp only
  split
  case h_4 =>
    rw [parts?_plain nonempty wholeDigits fractionDigits, Option.map_some,
      Parts.double, Int.zero_sub]
  all_goals
    next name =>
      rw [name] at lowered
      obtain rfl := Option.some.inj lowered
      exact absurd digit (by decide)

end Plain

/-- An integer is read as the double nearest to it. -/
theorem read?_toString_int (n : Int) :
    read? (toString n) = some (.ofDecimal (decide (n < 0)) n.natAbs 0) := by
  have written : toString n = Binary64.signText (decide (n < 0)) ++
      String.ofList (plain (Nat.toDigits 10 n.natAbs) []) := by
    apply String.toList_inj.mp
    rw [toList_toString_int, String.toList_append, String.toList_ofList]
    by_cases negative : n < 0 <;> simp [Binary64.signText, plain, negative]
  rw [written, read?_plain Nat.toDigits_ne_nil (isDigit_of_mem_toDigits _)
    (by simp), List.append_nil, ofDigits_toDigits]
  rfl

end GatewayPolicy.Numeral
