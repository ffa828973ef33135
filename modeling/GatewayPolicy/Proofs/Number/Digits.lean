import GatewayPolicy.Number.Numeral
import GatewayPolicy.Proofs.Text.Scanning
import Mathlib.Algebra.Group.Nat.Defs

/-!
# Digits

The decimal digits of a natural number are digits, do not begin with a needless
zero, and give the number back when they are read.  So no two numbers are
written alike, with a sign or without.
-/

set_option autoImplicit false

namespace GatewayPolicy.Numeral

theorem ofDigits_eq_ofDigitChars (digits : List Char) :
    ofDigits digits = Nat.ofDigitChars 10 digits 0 :=
  Nat.ofDigitChars_eq_foldl.symm

theorem ofDigits_toDigits (n : Nat) : ofDigits (Nat.toDigits 10 n) = n := by
  rw [ofDigits_eq_ofDigitChars, Nat.ofDigitChars_ten_toDigits]

theorem ofDigits_append_zeros (digits : List Char) (count : Nat) :
    ofDigits (digits ++ List.replicate count '0') =
      ofDigits digits * 10 ^ count := by
  simp only [ofDigits_eq_ofDigitChars, Nat.ofDigitChars_append,
    Nat.ofDigitChars_replicate_zero, Nat.mul_comm]

theorem ofDigits_zeros_append (count : Nat) (digits : List Char) :
    ofDigits (List.replicate count '0' ++ digits) = ofDigits digits := by
  simp only [ofDigits_eq_ofDigitChars, Nat.ofDigitChars_append,
    Nat.ofDigitChars_replicate_zero, Nat.mul_zero]

theorem isDigit_of_mem_toDigits (n : Nat) :
    ∀ c ∈ Nat.toDigits 10 n, c.isDigit = true :=
  fun _ => Nat.isDigit_of_mem_toDigits (by decide) (by decide)

theorem head?_toDigits_ne_zero {n : Nat} (positive : 0 < n) :
    (Nat.toDigits 10 n).head? ≠ some '0' := by
  induction n using Nat.strongRecOn with
  | ind n ih =>
      rw [Nat.toDigits_eq_if (by decide)]
      split
      · rw [List.head?_cons, ne_eq, Option.some.injEq, Nat.digitChar_eq_zero]
        omega
      · have shorter := ih (n / 10) (by omega) (by omega)
        cases digits : Nat.toDigits 10 (n / 10) with
        | nil => exact absurd digits Nat.toDigits_ne_nil
        | cons first _ => rwa [digits] at shorter

theorem spanDigits_run {digits rest : List Char}
    (inside : ∀ c ∈ digits, c.isDigit = true)
    (ended : Scanner.Ends Char.isDigit rest) :
    spanDigits (digits ++ rest) = (digits, rest) := by
  rw [spanDigits, Scanner.takeWhile_run inside ended,
    Scanner.dropWhile_run inside ended]

/-! ## Integers -/

theorem toList_toString_int (n : Int) :
    (toString n).toList =
      (if n < 0 then ['-'] else []) ++ Nat.toDigits 10 n.natAbs := by
  cases n with
  | ofNat m =>
      simp [Int.toString_eq_repr, Int.repr, Nat.repr_eq_ofList_toDigits]
  | negSucc m =>
      simp [Int.toString_eq_repr, Int.repr, Nat.repr_eq_ofList_toDigits,
        Int.negSucc_lt_zero]

theorem toDigits_inj {n m : Nat}
    (same : Nat.toDigits 10 n = Nat.toDigits 10 m) : n = m := by
  rw [← ofDigits_toDigits n, same, ofDigits_toDigits]

theorem toString_int_inj {n m : Int} (same : toString n = toString m) :
    n = m := by
  have texts : (toString n).toList = (toString m).toList :=
    congrArg String.toList same
  rw [toList_toString_int, toList_toString_int] at texts
  have unsigned (k : Nat) (rest : List Char) :
      Nat.toDigits 10 k ≠ '-' :: rest := by
    intro signed
    have digit : '-'.isDigit = true := by
      apply isDigit_of_mem_toDigits k
      rw [signed]
      exact List.mem_cons_self
    cases digit
  by_cases negative : n < 0
  · by_cases otherNegative : m < 0
    · rw [if_pos negative, if_pos otherNegative] at texts
      have digits := toDigits_inj (List.append_cancel_left texts)
      omega
    · rw [if_pos negative, if_neg otherNegative] at texts
      exact absurd texts.symm (unsigned _ _)
  · by_cases otherNegative : m < 0
    · rw [if_neg negative, if_pos otherNegative] at texts
      exact absurd texts (unsigned _ _)
    · rw [if_neg negative, if_neg otherNegative] at texts
      have digits := toDigits_inj (List.append_cancel_left texts)
      omega

theorem signed_natAbs (n : Int) :
    Binary64.signed (decide (n < 0)) n.natAbs = n := by
  by_cases negative : n < 0
  · rw [Binary64.signed, if_pos (by simpa using negative)]
    omega
  · rw [Binary64.signed, if_neg (by simpa using negative)]
    omega

end GatewayPolicy.Numeral
