import GatewayPolicy.Number.Numeral
import GatewayPolicy.Text.Percent

/-!
# File urls

A file url has the scheme `file`, an authority that may only name the own
machine, and a path.  Options follow a question mark and are divided by
ampersands; a number sign ends the url.

Escapes stand for bytes, which need not be UTF-8.  An escaped zero ends the
path, name or value that it stands in.  An option without a name is ignored,
and one without a value has an empty one.
-/

set_option autoImplicit false

namespace GatewayPolicy

structure FileUrl where
  path : List UInt8
  options : List (List UInt8 × List UInt8)
  deriving DecidableEq, Repr

namespace FileUrl

def part (cs : List Char) : List UInt8 :=
  (Percent.bytes cs).takeWhile (· != 0)

def afterAuthority? : List Char → Option (List Char)
  | '/' :: '/' :: rest =>
      let (authority, path) := rest.span (· != '/')
      if authority.isEmpty || authority == "localhost".toList then some path
      else none
  | cs => some cs

def option (cs : List Char) : List UInt8 × List UInt8 :=
  let (name, value) := cs.span (· != '=')
  (part name, part (value.drop 1))

def read? (cs : List Char) : Option FileUrl :=
  (afterAuthority? cs).map fun rest =>
    let (path, query) := (rest.takeWhile (· != '#')).span (· != '?')
    let options := ((query.drop 1).splitOnP (· == '&')).map option
    { path := part path
      options := options.filter fun entry => !entry.1.isEmpty }

def value? (url : FileUrl) (name : String) : Option (List UInt8) :=
  url.options.lookup (Text.utf8 name)

def values (url : FileUrl) (name : String) : List (List UInt8) :=
  (url.options.filter fun entry => entry.1 == Text.utf8 name).map Prod.snd

/-! ## Options that are on or off -/

/-- The number at the start of a text: decimal, or hexadecimal after `0x`. One
beyond a signed 32-bit integer counts as zero. -/
def leadingNumber (cs : List Char) : Nat :=
  let n :=
    match cs with
    | '0' :: mark :: digit :: rest =>
        if (mark == 'x' || mark == 'X') && Hex.isDigit digit then
          (Hex.ofDigits? ((digit :: rest).takeWhile Hex.isDigit)).getD 0
        else Numeral.ofDigits (cs.takeWhile Char.isDigit)
    | _ => Numeral.ofDigits (cs.takeWhile Char.isDigit)
  if n < 2147483648 then n else 0

/-- A number is on unless its last byte is zero; of words only three are. -/
def isOn (value : List UInt8) : Bool :=
  let cs := value.map fun byte => Char.ofNat byte.toNat
  if (cs.head?.map Char.isDigit).getD false then leadingNumber cs % 256 != 0
  else
    ["on", "yes", "true"].any fun word =>
      Text.eqIgnoringAsciiCase (String.ofList cs) word

end FileUrl

end GatewayPolicy
