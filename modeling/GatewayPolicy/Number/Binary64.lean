/-!
# Binary floating point in exact arithmetic

A double is NaN, an infinity, or `± significand · 2 ^ exponent`.  Values come
from quotients of naturals by one rounding, to nearest with ties to even, done
in exact arithmetic; nothing here computes with machine floats.
-/

set_option autoImplicit false

namespace GatewayPolicy

inductive Binary64 where
  | nan
  | infinite (negative : Bool)
  | finite (negative : Bool) (significand : Nat) (exponent : Int)
  deriving DecidableEq, Repr

namespace Binary64

def leastExponent : Int := -1074

def greatestExponent : Int := 971

def raised (base : Nat) (exponent : Int) : Nat :=
  Nat.pow base exponent.toNat

def roundHalfEven (num den : Nat) : Nat :=
  let quotient := num / den
  let rest := num % den
  if 2 * rest < den || (2 * rest == den && quotient % 2 == 0) then quotient
  else quotient + 1

def binaryExponent (num den : Nat) : Int :=
  let guess : Int := (num.log2 : Int) - (den.log2 : Int)
  if den * raised 2 guess ≤ num * raised 2 (-guess) then guess
  else guess - 1

def zero (negative : Bool) : Binary64 :=
  finite negative 0 leastExponent

def ofRatio (negative : Bool) (num den : Nat) : Binary64 :=
  if num = 0 then zero negative
  else
    let exponent := max (binaryExponent num den - 52) leastExponent
    let rounded :=
      roundHalfEven (num * raised 2 (-exponent)) (den * raised 2 exponent)
    let (significand, exponent) :=
      if rounded = raised 2 53 then (raised 2 52, exponent + 1)
      else (rounded, exponent)
    if greatestExponent < exponent then infinite negative
    else finite negative significand exponent

def digitCount (n : Nat) : Nat :=
  (Nat.toDigits 10 n).length

/-- The double nearest to `± digits · 10 ^ exponent`.  Beyond ten to the 310th
and below its counterpart at the small end the answer does not hang on the
digits, so the power is not computed there. -/
def ofDecimal (negative : Bool) (digits : Nat) (exponent : Int) : Binary64 :=
  let magnitude := exponent + digitCount digits
  if digits = 0 || magnitude < -330 then zero negative
  else if 310 < magnitude then infinite negative
  else ofRatio negative (digits * raised 10 exponent) (raised 10 (-exponent))

def scale : Binary64 → Nat → Nat → Binary64
  | finite negative significand exponent, num, den =>
      ofRatio negative (significand * raised 2 exponent * num)
        (raised 2 (-exponent) * den)
  | x, _, _ => x

/-! ## Exact values -/

def signed (negative : Bool) (n : Nat) : Int :=
  if negative then -(n : Int) else n

def wholePart (significand : Nat) (exponent : Int) : Nat :=
  significand * raised 2 exponent / raised 2 (-exponent)

def toInt? : Binary64 → Option Int
  | finite negative significand exponent =>
      if significand % raised 2 (-exponent) = 0 then
        some (signed negative (wholePart significand exponent))
      else none
  | _ => none

/-- Numerator and denominator of the value.  An infinity stands for a power
of two beyond every finite value. -/
def toRatio : Binary64 → Int × Nat
  | nan => (0, 1)
  | infinite negative => (signed negative (raised 2 1024), 1)
  | finite negative significand exponent =>
      (signed negative (significand * raised 2 exponent),
        raised 2 (-exponent))

/-- The greatest and least 64-bit integers bound the conversion; NaN is 0. -/
def toInt64 : Binary64 → Int64
  | nan => 0
  | infinite negative => if negative then Int64.minValue else Int64.maxValue
  | finite negative significand exponent =>
      let whole := signed negative (wholePart significand exponent)
      if whole < Int64.minValue.toInt then Int64.minValue
      else if Int64.maxValue.toInt < whole then Int64.maxValue
      else Int64.ofInt whole

end Binary64

end GatewayPolicy
