import GatewayPolicy.Text.Hex
import GatewayPolicy.Text.Utf8

/-!
# Percent encoding

A percent sign and two hexadecimal digits stand for one byte of UTF-8; any
other percent sign stands for itself.
-/

set_option autoImplicit false

namespace GatewayPolicy.Percent

def bytes : List Char → List UInt8
  | '%' :: high :: low :: rest =>
      match Hex.ofDigits? [high, low] with
      | some byte => UInt8.ofNat byte :: bytes rest
      | none => String.utf8EncodeChar '%' ++ bytes (high :: low :: rest)
  | c :: rest => String.utf8EncodeChar c ++ bytes rest
  | [] => []

def ofBytes? (bytes : List UInt8) : Option String :=
  String.fromUTF8? (ByteArray.mk bytes.toArray)

def decode? (cs : List Char) : Option String :=
  ofBytes? (bytes cs)

end GatewayPolicy.Percent
