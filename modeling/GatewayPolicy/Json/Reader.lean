import GatewayPolicy.Json.Number
import GatewayPolicy.Text.Hex
import GatewayPolicy.Text.Scanner

/-!
# Reading JSON text

The whole text has to be one value, with blanks around any part of it.  Of
members with the same name the last one counts.
-/

set_option autoImplicit false

namespace GatewayPolicy.Json

def isSpace (c : Char) : Bool :=
  c == ' ' || c == '\t' || c == '\n' || c == '\r'

def skipSpace (cs : List Char) : List Char :=
  cs.dropWhile isSpace

def expect? (c : Char) (cs : List Char) : Option (List Char) :=
  match skipSpace cs with
  | head :: rest => if head == c then some rest else none
  | [] => none

/-! ## Strings -/

def charOf? (code : Nat) : Option Char :=
  if code.isValidChar then some (Char.ofNat code) else none

def simpleEscape? : Char → Option Char
  | '"' => some '"'
  | '\\' => some '\\'
  | '/' => some '/'
  | 'b' => some '\x08'
  | 'f' => some '\x0c'
  | 'n' => some '\n'
  | 'r' => some '\r'
  | 't' => some '\t'
  | _ => none

def pairOf? (high low : Nat) : Option Char :=
  if 0xD800 ≤ high && high ≤ 0xDBFF && 0xDC00 ≤ low && low ≤ 0xDFFF then
    charOf? (0x10000 + (high - 0xD800) * 0x400 + (low - 0xDC00))
  else none

/-- An escape after its backslash: one letter, four hexadecimal digits, or two
groups of these that form one character. -/
def escaped? : Scanner Char
  | 'u' :: a :: b :: c :: d :: rest => do
      let code ← Hex.ofDigits? [a, b, c, d]
      match charOf? code, rest with
      | some char, _ => return (char, rest)
      | none, '\\' :: 'u' :: e :: f :: g :: h :: rest =>
          return (← pairOf? code (← Hex.ofDigits? [e, f, g, h]), rest)
      | none, _ => none
  | letter :: rest => (simpleEscape? letter).map fun char => (char, rest)
  | [] => none

def stringTail? : Nat → Scanner (List Char)
  | 0, _ => none
  | _ + 1, [] => none
  | _ + 1, '"' :: rest => some ([], rest)
  | size + 1, '\\' :: rest => do
      let (char, rest) ← escaped? rest
      let (chars, rest) ← stringTail? size rest
      return (char :: chars, rest)
  | size + 1, char :: rest =>
      if char < ' ' then none
      else (Scanner.map (char :: ·) (stringTail? size)) rest

def stringAfterQuote? : Scanner String :=
  fun cs => (Scanner.map String.ofList (stringTail? (cs.length + 1))) cs

/-! ## Values -/

mutual

/-- A value with blanks before it.  The number bounds how deep the value nests
and how many parts each level has. -/
def value? : Nat → Scanner Json
  | 0, _ => none
  | depth + 1, cs =>
      match skipSpace cs with
      | '"' :: rest =>
          (Scanner.map Json.string stringAfterQuote?) rest
      | '[' :: rest =>
          match expect? ']' rest with
          | some rest => some (.array [], rest)
          | none =>
              (Scanner.map Json.array (items? depth)) rest
      | '\x7b' :: rest =>
          match expect? '\x7d' rest with
          | some rest => some (.object [], rest)
          | none =>
              (Scanner.map (fun members => .object (Keyed.ofList members))
                (members? depth)) rest
      | 't' :: rest => Scanner.word "rue" (.bool true) rest
      | 'f' :: rest => Scanner.word "alse" (.bool false) rest
      | 'n' :: rest => Scanner.word "ull" .null rest
      | rest =>
          (number? (rest.takeWhile isNumberChar)).map fun number =>
            (number, rest.dropWhile isNumberChar)

def items? : Nat → Scanner (List Json)
  | 0, _ => none
  | size + 1, cs => do
      let (item, rest) ← value? size cs
      match skipSpace rest with
      | ',' :: rest =>
          let (items, rest) ← items? size rest
          return (item :: items, rest)
      | ']' :: rest => return ([item], rest)
      | _ => none

def members? : Nat → Scanner (List (String × Json))
  | 0, _ => none
  | size + 1, cs => do
      let (name, rest) ← stringAfterQuote? (← expect? '"' cs)
      let (value, rest) ← value? size (← expect? ':' rest)
      match skipSpace rest with
      | ',' :: rest =>
          let (members, rest) ← members? size rest
          return ((name, value) :: members, rest)
      | '\x7d' :: rest => return ([(name, value)], rest)
      | _ => none

end

def read? (text : String) : Option Json := do
  let cs := text.toList
  let (json, rest) ← value? (cs.length + 1) cs
  if (skipSpace rest).isEmpty then return json else none

end GatewayPolicy.Json
