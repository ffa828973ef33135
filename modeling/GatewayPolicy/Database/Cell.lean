import GatewayPolicy.Number.Extended
import GatewayPolicy.Text.Utf8

/-!
# Cells of database tables

A cell holds null, an integer, a real, text or bytes.  Text is kept as the
bytes that were given for it, which need not be UTF-8.  Cells are ordered null
first, then numbers by value, then text, then bytes.  A column's affinity
converts what is stored into it: text columns turn numbers into text, integer
columns turn text and reals into integers where nothing is lost.
-/

set_option autoImplicit false

namespace GatewayPolicy.Database

inductive Cell where
  | null
  | integer (n : Int64)
  | real (x : Binary64)
  | text (s : String)
  | malformed (text : MalformedText)
  | blob (bytes : List UInt8)
  deriving DecidableEq, Repr

namespace Cell

/-- An integer beyond the 64-bit ones is a real. -/
def ofInt (n : Int) : Cell :=
  if Int64.minValue.toInt ≤ n && n ≤ Int64.maxValue.toInt then
    integer (Int64.ofInt n)
  else real (Binary64.ofRatio (n < 0) n.natAbs 1)

def kindName : Cell → String
  | null => "Null"
  | integer _ => "Integer"
  | real _ => "Real"
  | text _ | malformed _ => "Text"
  | blob _ => "Blob"

def kindRank : Cell → Nat
  | null => 0
  | integer _ | real _ => 1
  | text _ | malformed _ => 2
  | blob _ => 3

def ratio : Cell → Int × Nat
  | integer n => (n.toInt, 1)
  | real x => x.toRatio
  | _ => (0, 1)

def compareRatio (a b : Int × Nat) : Ordering :=
  compare (a.1 * b.2) (b.1 * a.2)

def compareBytes (a b : List UInt8) : Ordering :=
  compareOfLessAndEq (a.map UInt8.toNat) (b.map UInt8.toNat)

def compare (a b : Cell) : Ordering :=
  match a, b with
  | text s, text t => compareOfLessAndEq s t
  | text s, malformed t => compareBytes (Text.utf8 s) t.bytes
  | malformed s, text t => compareBytes s.bytes (Text.utf8 t)
  | malformed s, malformed t => compareBytes s.bytes t.bytes
  | blob s, blob t => compareBytes s t
  | _, _ =>
      (Ord.compare a.kindRank b.kindRank).then (compareRatio a.ratio b.ratio)

/-- The cells hold equal values.  Null equals nothing, not even null. -/
def equals (a b : Cell) : Bool :=
  a != null && a.compare b == .eq

end Cell

/-! ## Affinity -/

inductive Affinity where
  | integer
  | text
  deriving DecidableEq, Repr

namespace Affinity

/-- An integer that is neither the least nor the greatest word; these two are
kept as reals where a real was given. -/
def innerInt64? (n : Int) : Option Int64 :=
  if Int64.minValue.toInt < n && n < Int64.maxValue.toInt then
    some (Int64.ofInt n)
  else none

def ofReal (x : Binary64) : Cell :=
  match x.toInt?.bind innerInt64? with
  | some n => .integer n
  | none => .real x

def isSpace (c : Char) : Bool :=
  c == ' ' || ('\t' ≤ c && c ≤ '\r')

def int64? (n : Int) : Option Int64 :=
  if Int64.minValue.toInt ≤ n && n ≤ Int64.maxValue.toInt then
    some (Int64.ofInt n)
  else none

/-- The number that a text denotes as a whole, with blanks around it.  Plain
digits are an integer if they fit one; all else is read as a real first. -/
def ofNumeral? (s : String) : Option Cell :=
  let trimmed :=
    ((s.toList.dropWhile isSpace).reverse.dropWhile isSpace).reverse
  let (negative, rest) := Numeral.takeSign trimmed
  let plain := rest.all Char.isDigit && !rest.isEmpty
  let exact := Binary64.signed negative (Numeral.ofDigits rest)
  match plain, int64? exact with
  | true, some n => some (.integer n)
  | _, _ =>
      (Numeral.parts? rest).map fun parts =>
        ofReal (Extended.ofNumeral negative parts)

/-- A real as text: fifteen significant digits, at least one of them after a
point, and an exponent below ten to the minus 4 and from ten to the 15 on. -/
def realText : Binary64 → String
  | .nan => ""
  | .infinite negative => Binary64.signText negative ++ "Inf"
  | .finite negative significand exponent =>
      let f := Extended.figures 15 significand exponent
      let sign := Binary64.signText (negative && significand != 0)
      let leading := f.pointPlace - 1
      if leading < -4 || 15 ≤ leading then
        let size := toString leading.natAbs
        sign ++ String.ofList (f.figures.take 1) ++ "." ++
          (if f.figures.length = 1 then "0"
            else String.ofList (f.figures.drop 1)) ++
          (if leading < 0 then "e-" else "e+") ++
          (if leading.natAbs < 10 then "0" ++ size else size)
      else
        let (whole, fraction) := f.parts
        sign ++ String.ofList whole ++ "." ++
          (if fraction.isEmpty then "0" else String.ofList fraction)

def store : Affinity → Cell → Cell
  | integer, .text s => (ofNumeral? s).getD (.text s)
  | integer, .real x => ofReal x
  | text, .integer n => .text (toString n.toInt)
  | text, .real x => .text (realText x)
  | _, cell => cell

end Affinity

end GatewayPolicy.Database
