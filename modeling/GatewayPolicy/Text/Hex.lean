/-!
# Hexadecimal digits

Digits are read in either case and written in lower case.
-/

set_option autoImplicit false

namespace GatewayPolicy.Hex

def value? (c : Char) : Option Nat :=
  if c.isDigit then some (c.toNat - '0'.toNat)
  else if 'a' ≤ c && c ≤ 'f' then some (c.toNat - 'a'.toNat + 10)
  else if 'A' ≤ c && c ≤ 'F' then some (c.toNat - 'A'.toNat + 10)
  else none

def isDigit (c : Char) : Bool :=
  (value? c).isSome

def ofDigits? (digits : List Char) : Option Nat :=
  digits.foldlM (fun n digit => (value? digit).map (16 * n + ·)) 0

def bytes? : List Char → Option (List UInt8)
  | [] => some []
  | high :: low :: rest => do
      let byte ← ofDigits? [high, low]
      return UInt8.ofNat byte :: (← bytes? rest)
  | _ => none

def digits (n : Nat) : List Char :=
  Nat.toDigits 16 n

end GatewayPolicy.Hex
