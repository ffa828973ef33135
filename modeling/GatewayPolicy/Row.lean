import GatewayPolicy.Text.Blank

/-!
# Configuration rows

What a store hands out: route rules, rate limit bindings, authority grants and
entries of the two address lists.  Every row names the service it belongs to.
-/

set_option autoImplicit false

namespace GatewayPolicy

structure RouteRule where
  routeId : Int64
  routeName : String
  serviceId : Option String
  url : Option String
  path : String
  stripPrefix : Int64
  retryable : Bool
  persist : Bool
  status : Int64
  deriving DecidableEq, Repr

/-- Rules of any other status take no part in anything. -/
def RouteRule.isActive (rule : RouteRule) : Bool :=
  rule.status == 1

def RouteRule.serves (rule : RouteRule) (serviceId : String) : Bool :=
  rule.isActive && rule.serviceId == some serviceId

structure LimitPolicy where
  policyId : Int64
  policyName : String
  limitQuota : Int64
  intervalUnit : String
  policyType : String
  deriving DecidableEq, Repr

/-- One api bound to one policy, with the url of the route of its service. -/
structure LimitBinding where
  policyId : Int64
  policyName : String
  limitQuota : Int64
  intervalUnit : String
  apiId : Int64
  apiCode : String
  apiName : String
  apiCategory : String
  serviceId : String
  path : String
  url : Option String
  deriving DecidableEq, Repr

/-- A token that the api under `path` demands of its callers. -/
structure AuthorityGrant where
  authorityId : Int64
  authority : String
  serviceId : String
  path : Option String
  deriving DecidableEq, Repr

inductive ListKind where
  | black
  | white
  deriving DecidableEq, Repr

namespace ListKind

def name : ListKind → String
  | .black => "black"
  | .white => "white"

def policyType : ListKind → Int64
  | .black => 0
  | .white => 1

end ListKind

structure AddressEntry where
  policyId : Int64
  policyName : String
  kind : ListKind
  addresses : List String
  apiId : Int64
  serviceId : String
  path : Option String
  deriving DecidableEq, Repr

/-! ## Address lists in one text -/

def isAddressSeparator (c : Char) : Bool :=
  c == ',' || c == ';' || c == '\n'

def addressPieces (cs : List Char) : List (List Char) :=
  cs.splitOnP isAddressSeparator

/-- Splits a written list at commas, semicolons and newlines; the pieces are
trimmed, and those that are empty then are no addresses. -/
def splitAddresses (written : String) : List String :=
  (((addressPieces written.toList).map Text.trimChars).filter fun piece =>
    !piece.isEmpty).map String.ofList

end GatewayPolicy
