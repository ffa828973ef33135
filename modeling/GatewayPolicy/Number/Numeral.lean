import GatewayPolicy.Number.Binary64
import GatewayPolicy.Text.Ascii

/-!
# Numerals

Reading the parts that decimal numerals are made of, and the numerals that a
numeric setting may be written as: a sign, digits with a point among or beside
them, and an exponent; or one of the names of infinity and NaN in any case.
-/

set_option autoImplicit false

namespace GatewayPolicy.Numeral

def ofDigits (digits : List Char) : Nat :=
  digits.foldl (fun value digit => 10 * value + (digit.toNat - '0'.toNat)) 0

def spanDigits (cs : List Char) : List Char × List Char :=
  (cs.takeWhile Char.isDigit, cs.dropWhile Char.isDigit)

/-- Takes a sign in front, if there is one; `true` is minus. -/
def takeSign : List Char → Bool × List Char
  | '+' :: rest => (false, rest)
  | '-' :: rest => (true, rest)
  | cs => (false, cs)

def takeFraction : List Char → List Char × List Char
  | '.' :: rest => spanDigits rest
  | cs => ([], cs)

/-- The rest of a numeral as its exponent: nothing, or a mark, a sign and at
least one digit. -/
def exponent? : List Char → Option Int
  | [] => some 0
  | mark :: rest =>
      let (negative, digits) := takeSign rest
      if (mark == 'e' || mark == 'E') && !digits.isEmpty &&
          digits.all Char.isDigit then
        some (Binary64.signed negative (ofDigits digits))
      else none

structure Parts where
  whole : List Char
  fraction : List Char
  exponent : Int
  deriving DecidableEq, Repr

def parts? (cs : List Char) : Option Parts :=
  let (whole, afterWhole) := spanDigits cs
  let (fraction, afterFraction) := takeFraction afterWhole
  if whole.isEmpty && fraction.isEmpty then none
  else
    (exponent? afterFraction).map fun exponent =>
      { whole := whole, fraction := fraction, exponent := exponent }

def Parts.double (parts : Parts) (negative : Bool) : Binary64 :=
  Binary64.ofDecimal negative (ofDigits (parts.whole ++ parts.fraction))
    (parts.exponent - parts.fraction.length)

def read? (text : String) : Option Binary64 :=
  let (negative, rest) := takeSign text.toList
  match Text.lowerAscii (String.ofList rest) with
  | "inf" | "infinity" => some (.infinite negative)
  | "nan" => some .nan
  | _ => (parts? rest).map fun parts => parts.double negative

end GatewayPolicy.Numeral
