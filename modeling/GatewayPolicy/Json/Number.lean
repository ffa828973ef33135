import GatewayPolicy.Json.Basic

/-!
# JSON numbers

A number without fraction and exponent is an integer if it lies between the
least signed and the greatest unsigned 64-bit integer and is not written as a
negative zero; every other number is a double.

A double is computed from a significand of one word, rounded to a double, and
then multiplied or divided by a power of ten with one more rounding.  So a
number of many digits may become a neighbour of the nearest double.  Numbers
beyond the greatest double are refused.
-/

set_option autoImplicit false

namespace GatewayPolicy.Json

def isNumberChar (c : Char) : Bool :=
  c.isDigit || c == '+' || c == '-' || c == '.' || c == 'e' || c == 'E'

/-! ## Shape -/

def isWhole (digits : List Char) : Bool :=
  match digits with
  | [] => false
  | ['0'] => true
  | head :: _ => head != '0' && digits.all Char.isDigit

/-- A fraction that starts with a point has a digit after it. -/
def hasFraction : List Char → Bool
  | '.' :: digit :: _ => digit.isDigit
  | '.' :: [] => false
  | _ => true

/-! ## Doubles -/

structure Scaled where
  significand : Nat
  exponent : Int
  deriving DecidableEq, Repr

def appendDigit? (significand : Nat) (digit : Char) : Option Nat :=
  let next := 10 * significand + Numeral.ofDigits [digit]
  if next < UInt64.size then some next else none

/-- Digits before the point; from the first one that does not fit, they count
as zeros. -/
def gatherWhole (significand : Nat) : List Char → Scaled
  | [] => { significand := significand, exponent := 0 }
  | digit :: rest =>
      match appendDigit? significand digit with
      | some next => gatherWhole next rest
      | none => { significand := significand, exponent := rest.length + 1 }

/-- Digits after the point; from the first one that does not fit, they are
dropped. -/
def gatherFraction (start : Scaled) : List Char → Scaled
  | [] => start
  | digit :: rest =>
      match appendDigit? start.significand digit with
      | some next =>
          gatherFraction
            { significand := next, exponent := start.exponent - 1 } rest
      | none => start

/-- Ten to a power, as the natural that its double is. -/
def roundedPower (power : Nat) : Nat :=
  (((Binary64.ofDecimal false 1 power).toInt?).getD 0).toNat

def greatestPower : Nat := 308

/-- The double for `± significand · 10 ^ exponent`.  A divisor beyond the
greatest power is taken in two steps; after a third one nothing would be
left. -/
def Scaled.double (negative : Bool) (scaled : Scaled) : Binary64 :=
  let start := Binary64.ofRatio negative scaled.significand 1
  let places := scaled.exponent.natAbs
  if scaled.significand = 0 then start
  else if 0 ≤ scaled.exponent then
    if places ≤ greatestPower then start.scale (roundedPower places) 1
    else .infinite negative
  else if places ≤ greatestPower then start.scale 1 (roundedPower places)
  else if places ≤ 2 * greatestPower then
    (start.scale 1 (roundedPower greatestPower)).scale 1
      (roundedPower (places - greatestPower))
  else Binary64.zero negative

def double? (negative : Bool) (parts : Numeral.Parts) : Option Binary64 :=
  let gathered := gatherFraction (gatherWhole 0 parts.whole) parts.fraction
  match Scaled.double negative
      { gathered with exponent := gathered.exponent + parts.exponent } with
  | .finite negative significand exponent =>
      some (.finite negative significand exponent)
  | _ => none

/-! ## Numbers -/

def number? (lexeme : List Char) : Option Json :=
  let (negative, digits) :=
    match lexeme with
    | '-' :: rest => (true, rest)
    | _ => (false, lexeme)
  let (whole, rest) := Numeral.spanDigits digits
  let n := Binary64.signed negative (Numeral.ofDigits whole)
  if !isWhole whole || !hasFraction rest then none
  else if rest.isEmpty && (!negative || n != 0) &&
      Int64.minValue.toInt ≤ n && n < UInt64.size then
    some (.integer n)
  else
    ((Numeral.parts? digits).bind (double? negative)).map .decimal

end GatewayPolicy.Json
