import GatewayPolicy.Row

/-!
# Public paths

An api is registered under a path of its service; the gateway publishes it
under the path of the service's route.  `compose` places a path below the
prefix of a route's pattern, unless it lies there already.  `resolve` is the
definition by search: the first active route of the service decides.
-/

set_option autoImplicit false

namespace GatewayPolicy.Path

def normalizeChars : List Char → List Char
  | '/' :: rest => '/' :: rest
  | cs => '/' :: cs

def normalize (path : String) : String :=
  String.ofList (normalizeChars path.toList)

def dropEnding? (ending cs : List Char) : Option (List Char) :=
  if ending.isSuffixOf cs then some (cs.take (cs.length - ending.length))
  else none

/-- The text every path below the pattern starts with: one trailing wildcard
goes, and after it every trailing slash. -/
def prefixChars (pattern : List Char) : List Char :=
  let stem := (dropEnding? ['/', '*', '*'] pattern).getD pattern
  (stem.reverse.dropWhile (· == '/')).reverse

def isUnder (root path : List Char) : Bool :=
  path == root || (root ++ ['/']).isPrefixOf path

def composeChars (pattern path : List Char) : List Char :=
  let root := prefixChars pattern
  if root.isEmpty || isUnder root path then path else root ++ path

def compose (pattern path : String) : String :=
  String.ofList (composeChars pattern.toList path.toList)

/-- The public path of `path` as the first active route of the service gives
it; without such a route, the normalized path itself. -/
def resolve (rules : List RouteRule) (serviceId path : String) : String :=
  match rules.find? fun rule => rule.serves serviceId with
  | some rule => compose rule.path (normalize path)
  | none => normalize path

end GatewayPolicy.Path
