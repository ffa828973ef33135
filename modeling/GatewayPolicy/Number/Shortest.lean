import GatewayPolicy.Number.Binary64

/-!
# Shortest decimal texts of doubles

`shortest` selects the fewest decimal digits that read back to the same
double, and of those the nearest to it.  The layout of digits is left to the
caller: `positional` never writes an exponent.
-/

set_option autoImplicit false

namespace GatewayPolicy.Binary64

/-- `figures · 10 ^ exponent`; the last figure is no zero unless it is the
only one. -/
structure Figures where
  figures : List Char
  exponent : Int
  deriving DecidableEq, Repr

def figuresOf (n : Nat) (exponent : Int) : Figures :=
  let reversed := (Nat.toDigits 10 n).reverse
  let zeros := reversed.takeWhile (· == '0')
  if n = 0 then { figures := ['0'], exponent := 0 }
  else
    { figures := (reversed.dropWhile (· == '0')).reverse
      exponent := exponent + zeros.length }

def compareScaled (a : Nat) (i : Int) (n : Nat) (j : Int) : Ordering :=
  compare (a * raised 10 i * raised 2 (-j))
    (n * raised 2 j * raised 10 (-i))

/-- `digits · 10 ^ power` lies among the reals that round to the positive
double `significand · 2 ^ exponent`: between the midpoints to its neighbours,
which count as inside when the significand is even.  Below a power of two the
neighbour is half as far away. -/
def readsBack (significand : Nat) (exponent : Int) (digits : Nat)
    (power : Int) : Bool :=
  let narrow := significand == raised 2 52 && decide (leastExponent < exponent)
  let low := if narrow then 4 * significand - 1 else 4 * significand - 2
  let high := 4 * significand + 2
  let fromLow := compareScaled digits power low (exponent - 2)
  let fromHigh := compareScaled digits power high (exponent - 2)
  let closed := significand % 2 == 0
  (fromLow == .gt || (closed && fromLow == .eq)) &&
    (fromHigh == .lt || (closed && fromHigh == .eq))

/-- The least power of ten above the positive double.  Every double is at
least four units of ten to the minus 324. -/
def decimalScale (significand : Nat) (exponent : Int) : Int :=
  (digitCount (significand * raised 2 exponent * raised 10 324 /
    raised 2 (-exponent)) : Int) - 324

def onGrid (significand : Nat) (exponent power : Int) : Nat × Nat :=
  (significand * raised 2 exponent * raised 10 (-power),
    raised 2 (-exponent) * raised 10 power)

/-- The point of the decimal grid that reads back: of the two neighbours of
the double on the grid the nearer, the upper one at a tie. -/
def gridPoint? (significand : Nat) (exponent power : Int) : Option Nat :=
  let (num, den) := onGrid significand exponent power
  let below := num / den
  let above := below + 1
  match readsBack significand exponent below power,
      readsBack significand exponent above power with
  | true, true => some (if 2 * (num % den) < den then below else above)
  | true, false => some below
  | false, true => some above
  | false, false => none

def exactFigures (significand : Nat) (exponent : Int) : Figures :=
  figuresOf (significand * raised 2 exponent * raised 5 (-exponent))
    (min exponent 0)

/-- The fewest digits that read back.  Seventeen are enough for any double. -/
def shortest (significand : Nat) (exponent : Int) : Figures :=
  if significand = 0 then figuresOf 0 0
  else
    let scale := decimalScale significand exponent
    let found := (List.range 17).findSome? fun place =>
      let power := scale - (place + 1 : Nat)
      (gridPoint? significand exponent power).map fun digits =>
        figuresOf digits power
    found.getD (exactFigures significand exponent)

namespace Figures

def pointPlace (f : Figures) : Int :=
  f.figures.length + f.exponent

def parts (f : Figures) : List Char × List Char :=
  let place := f.pointPlace
  if 0 < place then
    (f.figures.take place.toNat ++ List.replicate f.exponent.toNat '0',
      f.figures.drop place.toNat)
  else (['0'], List.replicate (-place).toNat '0' ++ f.figures)

def positional (f : Figures) : List Char :=
  let (whole, fraction) := f.parts
  if fraction.isEmpty then whole else whole ++ '.' :: fraction

end Figures

def signText (negative : Bool) : String :=
  if negative then "-" else ""

/-- The shortest text that reads back, never with an exponent. -/
def text : Binary64 → String
  | nan => "NaN"
  | infinite negative => signText negative ++ "inf"
  | finite negative significand exponent =>
      signText negative ++
        String.ofList (shortest significand exponent).positional

end GatewayPolicy.Binary64
