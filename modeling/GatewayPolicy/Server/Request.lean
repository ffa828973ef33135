import GatewayPolicy.Json.Basic
import GatewayPolicy.Text.Ascii

/-!
# Requests and responses

Of the target of a request only the path counts, as it is written.
-/

set_option autoImplicit false

namespace GatewayPolicy

structure Request where
  method : String
  /-- A path, perhaps with a query, or a whole url. -/
  target : String
  headers : List (String × List UInt8)
  body : List UInt8
  deriving DecidableEq, Repr

namespace Request

def isPathEnd (c : Char) : Bool :=
  c == '?' || c == '#'

def isSchemeChar (c : Char) : Bool :=
  c.isAlphanum || c == '+' || c == '-' || c == '.' || c == '~'

def afterScheme? (target : List Char) : Option (List Char) :=
  match target.dropWhile isSchemeChar with
  | ':' :: '/' :: '/' :: rest => some rest
  | _ => none

/-- The path of a target: of a url what follows its host, where nothing stands
for a slash.  A target that is neither path nor url has none. -/
def pathOf (target : List Char) : List Char :=
  if target.head? == some '/' then target.takeWhile (!isPathEnd ·)
  else
    match afterScheme? target with
    | none => []
    | some rest =>
        let path := rest.dropWhile fun c => c != '/' && !isPathEnd c
        if path.head? == some '/' then path.takeWhile (!isPathEnd ·) else ['/']

def path (request : Request) : String :=
  String.ofList (pathOf request.target.toList)

/-- The first header of that name, in any case. -/
def header? (request : Request) (name : String) : Option (List UInt8) :=
  (request.headers.find? fun header =>
    Text.eqIgnoringAsciiCase header.1 name).map Prod.snd

def isHead (request : Request) : Bool :=
  request.method == "HEAD"

end Request

structure Response where
  status : Nat
  contentType : Option String
  /-- The methods that the path accepts, where another one was used. -/
  allow : Option String
  body : Option Json

namespace Response

def withoutBody (status : Nat) : Response :=
  { status := status, contentType := none, allow := none, body := none }

def ofJson (status : Nat) (json : Json) : Response :=
  { status := status
    contentType := some "application/json"
    allow := none
    body := some json }

def headOnly (response : Response) : Response :=
  { response with body := none }

end Response

end GatewayPolicy
