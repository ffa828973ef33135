import GatewayPolicy.Json.Basic
import GatewayPolicy.Number.Shortest

/-!
# JSON text

A value is printed without spaces.  Strings escape the quote, the backslash
and the control characters below the space; everything else stands for itself.
-/

set_option autoImplicit false

namespace GatewayPolicy.Json

def escape (c : Char) : List Char :=
  match c with
  | '"' => ['\\', '"']
  | '\\' => ['\\', '\\']
  | '\x08' => ['\\', 'b']
  | '\x0c' => ['\\', 'f']
  | '\n' => ['\\', 'n']
  | '\r' => ['\\', 'r']
  | '\t' => ['\\', 't']
  | c =>
      if c < ' ' then
        ['\\', 'u', '0', '0', Nat.digitChar (c.toNat / 16),
          Nat.digitChar (c.toNat % 16)]
      else [c]

def quote (s : String) : List Char :=
  '"' :: s.toList.flatMap escape ++ ['"']

/-- A double with a point, so that it is told from an integer.  What is no
number is null. -/
def decimalText : Binary64 → List Char
  | .finite negative significand exponent =>
      let digits := (Binary64.shortest significand exponent).positional
      (Binary64.signText negative).toList ++
        if digits.contains '.' then digits else digits ++ ['.', '0']
  | _ => "null".toList

mutual

def print : Json → List Char
  | null => "null".toList
  | bool b => (if b then "true" else "false").toList
  | integer n => (toString n).toList
  | decimal x => decimalText x
  | string s => quote s
  | array items => '[' :: printItems items ++ [']']
  | object members => '\x7b' :: printMembers members ++ ['\x7d']

def printItems : List Json → List Char
  | [] => []
  | [item] => print item
  | item :: rest => print item ++ ',' :: printItems rest

def printMembers : List (String × Json) → List Char
  | [] => []
  | [(name, value)] => quote name ++ ':' :: print value
  | (name, value) :: rest =>
      quote name ++ ':' :: print value ++ ',' :: printMembers rest

end

def render (json : Json) : String :=
  String.ofList json.print

end GatewayPolicy.Json
