import GatewayPolicy.Row
import GatewayPolicy.RateLimit

/-!
# Gateway routes

A resolved route is what the proxy evaluates: a predicate on the path, a
target to forward to and a chain of filters.  Routes that carry a rate limit
also carry the facts the limit was made from.
-/

set_option autoImplicit false

namespace GatewayPolicy

inductive RouteTarget where
  | loadBalanced (serviceId : String)
  | url (url : String)
  deriving DecidableEq, Repr

namespace RouteTarget

/-- A literal url goes before the service, unless it is blank. -/
def select (url : Option String) (serviceId : String) : RouteTarget :=
  match url.bind Text.trimmed? with
  | some literal => .url literal
  | none => .loadBalanced serviceId

def uri : RouteTarget → String
  | .loadBalanced serviceId => "lb://" ++ serviceId
  | .url literal => literal

end RouteTarget

inductive RouteFilter where
  | stripPrefix (parts : UInt32)
  | requestRateLimiter (replenishRate burstCapacity : UInt64)
      (keyResolver : String)
  deriving DecidableEq, Repr

namespace RouteFilter

def name : RouteFilter → String
  | .stripPrefix _ => "StripPrefix"
  | .requestRateLimiter _ _ _ => "RequestRateLimiter"

def parameters : RouteFilter → List (String × String)
  | .stripPrefix parts => [("parts", toString parts.toNat)]
  | .requestRateLimiter replenishRate burstCapacity keyResolver =>
      [("burst_capacity", toString burstCapacity.toNat),
        ("key_resolver", keyResolver),
        ("replenish_rate", toString replenishRate.toNat)]

end RouteFilter

structure PathPredicate where
  pattern : String
  name : String
  rateLimited : Bool
  deriving DecidableEq, Repr

structure RouteLimit where
  policyId : Int64
  policyName : String
  apiCode : String
  apiCategory : String
  unit : IntervalUnit
  quota : UInt64
  bucket : TokenBucket
  ttlSeconds : UInt64
  deriving DecidableEq, Repr

structure ResolvedRoute where
  id : String
  /-- Evaluation rank; the lower is matched first. -/
  order : UInt64
  predicate : PathPredicate
  target : RouteTarget
  filters : List RouteFilter
  limit : Option RouteLimit
  retryable : Bool
  deriving DecidableEq, Repr

def ResolvedRoute.uri (route : ResolvedRoute) : String :=
  route.target.uri

structure ResolverSettings where
  /-- Name of the key resolver that limiters bucket requests by. -/
  keyResolver : String
  deriving DecidableEq, Repr

def ResolverSettings.defaultKeyResolver : String := "path"

end GatewayPolicy
