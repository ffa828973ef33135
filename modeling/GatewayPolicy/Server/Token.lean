import GatewayPolicy.Server.Request
import GatewayPolicy.Text.Blank
import GatewayPolicy.Text.Scanner

/-!
# Admin tokens

A request shows its token in the first authorization header, after one of two
spellings of the scheme.  A header with any byte outside printable ASCII and
the tab counts as none.
-/

set_option autoImplicit false

namespace GatewayPolicy.AdminToken

def isHeaderByte (byte : UInt8) : Bool :=
  byte == 0x09 || (0x20 ≤ byte && byte ≤ 0x7E)

def headerText? (value : List UInt8) : Option (List Char) :=
  if value.all isHeaderByte then
    some (value.map fun byte => Char.ofNat byte.toNat)
  else none

def afterScheme? (cs : List Char) : Option (List Char) :=
  ((Scanner.word "Bearer " ()).orElse (Scanner.word "bearer " ()) cs).map
    Prod.snd

def ofHeader? (value : List UInt8) : Option String := do
  let rest ← afterScheme? (← headerText? value)
  Text.trimmed? (String.ofList rest)

def ofRequest? (request : Request) : Option String :=
  (request.header? "authorization").bind ofHeader?

/-- Without an expected token every request is let in. -/
def admits (expected : Option String) (request : Request) : Bool :=
  match expected with
  | none => true
  | some token => ofRequest? request == some (Text.trim token)

end GatewayPolicy.AdminToken
