import GatewayPolicy.Number.Numeral
import GatewayPolicy.Toml.Text

/-!
# TOML numbers, dates and truth values

Underscores may stand between digits.  Decimal numbers have no needless zero
in front; integers may also be hexadecimal, octal or binary.  Integers are
signed 64-bit words, and a float must not exceed the finite doubles upward.
-/

set_option autoImplicit false

namespace GatewayPolicy.Toml

/-! ## Digits -/

def moreDigits (isDigit : Char → Bool) : List Char → List Char × List Char
  | '_' :: c :: rest =>
      if isDigit c then
        ((moreDigits isDigit rest).map (c :: ·) id)
      else ([], '_' :: c :: rest)
  | c :: rest =>
      if isDigit c then
        ((moreDigits isDigit rest).map (c :: ·) id)
      else ([], c :: rest)
  | [] => ([], [])

def digits (isDigit : Char → Bool) : Scanner (List Char)
  | [] => none
  | c :: rest =>
      if isDigit c then some ((moreDigits isDigit rest).map (c :: ·) id)
      else none

/-- A decimal number before any point: zero, or digits that do not start with
zero. -/
def whole : Scanner (List Char)
  | '0' :: rest => some (['0'], rest)
  | cs => digits Char.isDigit cs

/-! ## Integers -/

def word? (n : Int) : Option Int64 :=
  if Int64.minValue.toInt ≤ n && n ≤ Int64.maxValue.toInt then
    some (Int64.ofInt n)
  else none

def radixInteger (radix : Nat) (isDigit : Char → Bool) : Scanner Value :=
  fun cs => do
    let (figures, rest) ← digits isDigit cs
    let n := figures.foldl
      (fun n figure => radix * n + (Hex.value? figure).getD 0) 0
    return (.integer (← word? n), rest)

def integer : Scanner Value
  | '0' :: 'x' :: rest => radixInteger 16 Hex.isDigit rest
  | '0' :: 'o' :: rest => radixInteger 8 (fun c => '0' ≤ c && c ≤ '7') rest
  | '0' :: 'b' :: rest => radixInteger 2 (fun c => c == '0' || c == '1') rest
  | cs => do
      let (negative, rest) := Numeral.takeSign cs
      let (figures, rest) ← whole rest
      let n := Binary64.signed negative (Numeral.ofDigits figures)
      return (.integer (← word? n), rest)

/-! ## Floats -/

def exponent : Scanner Int :=
  fun cs => do
    let (negative, rest) := Numeral.takeSign cs
    let (figures, rest) ← digits Char.isDigit rest
    return (Binary64.signed negative (Numeral.ofDigits figures), rest)

def optionalExponent : Scanner Int
  | 'e' :: rest => exponent rest
  | 'E' :: rest => exponent rest
  | cs => some (0, cs)

def fractionAndExponent : Scanner (List Char × Int)
  | '.' :: rest => do
      let (fraction, rest) ← digits Char.isDigit rest
      let (exponent, rest) ← optionalExponent rest
      return ((fraction, exponent), rest)
  | 'e' :: rest => (exponent.map fun n => ([], n)) rest
  | 'E' :: rest => (exponent.map fun n => ([], n)) rest
  | _ => none

def float : Scanner Value :=
  fun cs => do
    let (negative, rest) := Numeral.takeSign cs
    let (figures, rest) ← whole rest
    let ((fraction, exponent), rest) ← fractionAndExponent rest
    let parts : Numeral.Parts :=
      { whole := figures, fraction := fraction, exponent := exponent }
    let x := parts.double negative
    if x = .infinite false then none else return (.float x, rest)

def namedFloat : Scanner Value :=
  fun cs =>
    let (negative, rest) := Numeral.takeSign cs
    Scanner.orElse (.word "inf" (.float (.infinite negative)))
      (.word "nan" (.float .nan)) rest

/-! ## Dates and times -/

def bounded (size least greatest : Nat) : Scanner Nat :=
  fun cs =>
    let figures := cs.take size
    let n := Numeral.ofDigits figures
    if figures.length = size && figures.all Char.isDigit && least ≤ n &&
        n ≤ greatest then
      some (n, cs.drop size)
    else none

def isLeapYear (year : Nat) : Bool :=
  year % 4 == 0 && (year % 100 != 0 || year % 400 == 0)

def daysInMonth (year month : Nat) : Nat :=
  if month = 2 then (if isLeapYear year then 29 else 28)
  else if month = 4 || month = 6 || month = 9 || month = 11 then 30
  else 31

def date? (cs : List Char) : Option (List Char) := do
  let (year, rest) ← bounded 4 0 9999 cs
  let (_, rest) ← Scanner.word "-" () rest
  let (month, rest) ← bounded 2 1 12 rest
  let (_, rest) ← Scanner.word "-" () rest
  let (_, rest) ← bounded 2 1 (daysInMonth year month) rest
  return rest

def secondFraction? : List Char → Option (List Char)
  | '.' :: c :: rest =>
      if c.isDigit then some (rest.dropWhile Char.isDigit) else none
  | '.' :: [] => none
  | cs => some cs

/-- The rest after a time of day; its last minute may have a leap second. -/
def time? (greatestHour : Nat) (cs : List Char) : Option (List Char) := do
  let (_, rest) ← bounded 2 0 greatestHour cs
  let (_, rest) ← Scanner.word ":" () rest
  let (_, rest) ← bounded 2 0 59 rest
  let (_, rest) ← Scanner.word ":" () rest
  let (_, rest) ← bounded 2 0 60 rest
  secondFraction? rest

def offset? : List Char → Option (List Char)
  | 'Z' :: rest => some rest
  | 'z' :: rest => some rest
  | sign :: rest => do
      if sign != '+' && sign != '-' then none
      let (_, rest) ← bounded 2 0 23 rest
      let (_, rest) ← Scanner.word ":" () rest
      let (_, rest) ← bounded 2 0 59 rest
      return rest
  | [] => none

def timeOfDate? : List Char → Option (List Char)
  | mark :: rest =>
      if mark == 'T' || mark == 't' || mark == ' ' then
        (time? 23 rest).map fun rest => (offset? rest).getD rest
      else none
  | [] => none

def datetime : Scanner Value :=
  fun cs => do
    let rest ←
      match date? cs with
      | some rest => some ((timeOfDate? rest).getD rest)
      | none => time? 23 cs
    let written := cs.take (cs.length - rest.length)
    return (.datetime (String.ofList written), rest)

/-! ## Any scalar -/

def startsNumber (c : Char) : Bool :=
  c.isDigit || c == '+' || c == '-'

def scalar : Scanner Value :=
  fun cs =>
    match cs with
    | [] => none
    | c :: _ =>
        if c == '"' || c == '\'' then (string.map .string) cs
        else if startsNumber c then
          (datetime.orElse (float.orElse (namedFloat.orElse integer))) cs
        else
          Scanner.orElse (.word "true" (.boolean true))
            (Scanner.orElse (.word "false" (.boolean false)) namedFloat) cs

end GatewayPolicy.Toml
