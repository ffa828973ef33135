import GatewayPolicy.Number.Numeral
import GatewayPolicy.Number.Shortest

/-!
# Extended precision

A number that is not negative, with a significand of 64 binary digits and an
exponent without bounds.  A product is rounded once, to nearest with ties to
even.

Databases convert between doubles and decimals in this precision, by one
product after another with a power of ten.  The products are rounded, so a
long decimal may become a neighbour of the nearest double, and the digits of a
double may differ from the nearest ones in the last place.
-/

set_option autoImplicit false

namespace GatewayPolicy

/-- `significand · 2 ^ exponent`. -/
structure Extended where
  significand : Nat
  exponent : Int
  deriving DecidableEq, Repr

namespace Extended

open Binary64 (raised)

def precision : Nat := 64

def round (n : Nat) (exponent : Int) : Extended :=
  let excess := n.log2 + 1 - precision
  { significand := Binary64.roundHalfEven n (raised 2 excess)
    exponent := exponent + excess }

def times (a b : Extended) : Extended :=
  round (a.significand * b.significand) (a.exponent + b.exponent)

def tenTo (power : Int) : Extended :=
  if 0 ≤ power then round (raised 10 power) 0
  else
    let den := raised 10 (-power)
    let places : Int := den.log2 + precision
    { significand := Binary64.roundHalfEven (raised 2 places) den
      exponent := -places }

def ratio (x : Extended) : Nat × Nat :=
  (x.significand * raised 2 x.exponent, raised 2 (-x.exponent))

def less (a b : Extended) : Bool :=
  decide (a.ratio.1 * b.ratio.2 < b.ratio.1 * a.ratio.2)

def floor (x : Extended) : Nat :=
  x.ratio.1 / x.ratio.2

def greatestDouble : Extended :=
  { significand := raised 2 53 - 1, exponent := Binary64.greatestExponent }

/-- The nearest double; whatever is above the greatest one is infinite. -/
def toDouble (negative : Bool) (x : Extended) : Binary64 :=
  if greatestDouble.less x then .infinite negative
  else .ofRatio negative x.ratio.1 x.ratio.2

/-! ## From decimals to doubles -/

def timesRepeated (x factor : Extended) (count : Nat) : Extended :=
  count.repeat (fun product => product.times factor) x

/-- Multiplies by ten to the power: first by hundreds of places, then by tens,
then by single ones. -/
def shift (x : Extended) (power : Int) : Extended :=
  let places := power.natAbs
  [(100, places / 100), (10, places % 100 / 10), (1, places % 10)].foldl
    (fun product (step, count) =>
      product.timesRepeated (tenTo (power.sign * step)) count) x

/-- From here on a significand takes no further digit. -/
def fullSignificand : Nat := (UInt64.size - 10) / 10

def takeWhole (digits : List Char) : Nat × Int :=
  digits.foldl
    (fun (significand, exponent) digit =>
      if significand < fullSignificand then
        (10 * significand + Numeral.ofDigits [digit], exponent)
      else (significand, exponent + 1))
    (0, 0)

def takeFraction (start : Nat × Int) (digits : List Char) : Nat × Int :=
  digits.foldl
    (fun (significand, exponent) digit =>
      if significand < fullSignificand then
        (10 * significand + Numeral.ofDigits [digit], exponent - 1)
      else (significand, exponent))
    start

def fillUp (significand : Nat) : Nat → Nat × Nat
  | 0 => (significand, 0)
  | places + 1 =>
      if significand < (UInt64.size - 1) / 10 then
        fillUp (10 * significand) places
      else (significand, places + 1)

def strip (significand : Nat) : Nat → Nat × Nat
  | 0 => (significand, 0)
  | places + 1 =>
      if significand % 10 = 0 then strip (significand / 10) places
      else (significand, places + 1)

def scaled (negative : Bool) (significand : Nat) (exponent : Int) : Binary64 :=
  if 0 ≤ exponent then
    let (filled, places) := fillUp significand exponent.toNat
    (shift (round filled 0) places).toDouble negative
  else
    let (stripped, places) := strip significand (-exponent).toNat
    (shift (round stripped 0) (-places)).toDouble negative

/-- An exponent of more than five digits counts as ten thousand. -/
def boundedExponent (exponent : Int) : Int :=
  if exponent.natAbs < 100000 then exponent else exponent.sign * 10000

def ofNumeral (negative : Bool) (parts : Numeral.Parts) : Binary64 :=
  let (significand, places) :=
    takeFraction (takeWhole parts.whole) parts.fraction
  if significand = 0 then .zero negative
  else
    scaled negative significand (boundedExponent parts.exponent + places)

/-! ## From doubles to decimals -/

/-- Multiplies by ten to the `step` while the test holds, at most `fuel` times,
and adds up the places. -/
def shiftWhile (test : Extended → Bool) (step : Int) :
    Nat → Extended × Int → Extended × Int
  | 0, state => state
  | fuel + 1, (x, places) =>
      if test x then shiftWhile test step fuel (x.times (tenTo step), places + step)
      else (x, places)

def mostSteps : Nat := 32

/-- Moves the point of a positive double until 18 or 19 digits stand before
it, and tells by how many places. -/
def alignPoint (x : Extended) : Extended × Int :=
  if x.less (tenTo 19) then
    [(-97, 100), (7, 10), (17, 1)].foldl
      (fun state (bound, step) =>
        shiftWhile (fun y => y.less (tenTo bound)) step mostSteps state) (x, 0)
  else
    [(119, -100), (29, -10), (19, -1)].foldl
      (fun state (bound, step) =>
        shiftWhile (fun y => !y.less (tenTo bound)) step mostSteps state) (x, 0)

/-- The positive double `significand · 2 ^ exponent` to the given number of
digits; the last one goes up if the digit after it is at least five. -/
def figures (count significand : Nat) (exponent : Int) : Binary64.Figures :=
  if significand = 0 then Binary64.figuresOf 0 0
  else
    let (aligned, places) := alignPoint (round significand exponent)
    let digits := aligned.floor
    let dropped : Nat := Binary64.digitCount digits - count
    Binary64.figuresOf
      ((digits + 5 * raised 10 (dropped - 1)) / raised 10 dropped)
      (dropped - places)

end Extended

end GatewayPolicy
