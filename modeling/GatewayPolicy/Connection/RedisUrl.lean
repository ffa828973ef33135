import GatewayPolicy.Network.Url

/-!
# Redis connection strings

A url names a host, perhaps with user, password and port, and in its path the
number of a database.  A url with a scheme of local sockets names a path
instead, and in its query the database.
-/

set_option autoImplicit false

namespace GatewayPolicy

inductive RedisUrl where
  | host (host : UrlHost) (port : UInt16) (database : Int64)
  | socket (path : List UInt8) (database : Int64)
  deriving DecidableEq, Repr

namespace RedisUrl

def defaultPort : UInt16 := 6379

def number? (cs : List Char) : Option Int64 :=
  let (negative, digits) := Numeral.takeSign cs
  let n := Binary64.signed negative (Numeral.ofDigits digits)
  if !digits.isEmpty && digits.all Char.isDigit &&
      Int64.minValue.toInt ≤ n && n ≤ Int64.maxValue.toInt then
    some (Int64.ofInt n)
  else none

/-- The database named by a path; none named is the first. -/
def database? (path : List Char) : Option Int64 :=
  let isSlash (c : Char) : Bool := c == '/'
  let name := ((path.dropWhile isSlash).reverse.dropWhile isSlash).reverse
  if name.isEmpty then some 0 else number? name

def ofHostUrl? (url : Url) : Option RedisUrl := do
  let place ← url.host
  let database ← database? url.path
  let _ ← Percent.decode? url.user
  let _ ← Percent.decode? url.password
  return .host place (url.port.getD defaultPort) database

/-- The host of a local socket is the own one, which goes by one name. -/
def isOwnHost : Option UrlHost → Bool
  | none => true
  | some place => place == .name "localhost".toList

def ofSocketUrl? (url : Url) : Option RedisUrl := do
  let database ←
    match url.parameter? "db" with
    | some bytes => (Percent.ofBytes? bytes).bind fun db => number? db.toList
    | none => some 0
  if isOwnHost url.host && url.path.head? == some '/' then
    return .socket (Percent.bytes url.path) database
  else none

def read? (text : String) : Option RedisUrl := do
  let url ← Url.read? text
  match url.scheme with
  | "redis" => ofHostUrl? url
  | "unix" | "redis+unix" => ofSocketUrl? url
  | _ => none

end RedisUrl

end GatewayPolicy
