import GatewayPolicy.Outcome
import GatewayPolicy.PathIndex
import GatewayPolicy.Route

/-!
# Routing

The route list starts with one route per rate limit binding, in the order of
the bindings; a binding whose interval unit is unknown is skipped with its
issue.  Then follows one plain route per active rule, unless a limited route
has the very same pattern.  Each route is ranked by the number of routes that
stand before it.
-/

set_option autoImplicit false

namespace GatewayPolicy.Routing

/-- Every route drops the first segment, which names the route. -/
def stripRoutePrefix : RouteFilter :=
  .stripPrefix 1

def limitedRoute (index : PathIndex) (settings : ResolverSettings)
    (order : UInt64) (binding : LimitBinding) : Except Issue ResolvedRoute :=
  (IntervalUnit.parse binding.intervalUnit).map fun unit =>
    let quota := TokenBucket.quotaOfLimit binding.limitQuota
    let bucket := TokenBucket.forQuota unit quota
    { id := toString binding.apiId.toInt
      order := order
      predicate :=
        { pattern := index.fullPath binding.serviceId binding.path
          name := binding.apiName
          rateLimited := true }
      target := RouteTarget.select binding.url binding.serviceId
      filters :=
        [stripRoutePrefix,
          .requestRateLimiter bucket.replenishRate bucket.burstCapacity
            settings.keyResolver]
      limit := some
        { policyId := binding.policyId
          policyName := binding.policyName
          apiCode := binding.apiCode
          apiCategory := binding.apiCategory
          unit := unit
          quota := quota
          bucket := bucket
          ttlSeconds := unit.ttlSeconds }
      retryable := false }

def ruleName (rule : RouteRule) : String :=
  (Text.nonBlank? rule.routeName).getD (toString rule.routeId.toInt)

def plainRoute (order : UInt64) (rule : RouteRule) : ResolvedRoute :=
  { id := ruleName rule
    order := order
    predicate :=
      { pattern := rule.path
        name := ruleName rule
        rateLimited := false }
    target := RouteTarget.select rule.url (rule.serviceId.getD "")
    filters := [stripRoutePrefix]
    limit := none
    retryable := rule.retryable }

def nextOrder (routes : List ResolvedRoute) : UInt64 :=
  UInt64.ofNat routes.length

structure LimitPass where
  routes : List ResolvedRoute
  skipped : List Issue

def LimitPass.add (index : PathIndex) (settings : ResolverSettings)
    (pass : LimitPass) (binding : LimitBinding) : LimitPass :=
  match limitedRoute index settings (nextOrder pass.routes) binding with
  | .ok route => { pass with routes := pass.routes ++ [route] }
  | .error issue => { pass with skipped := pass.skipped ++ [issue] }

def limitPass (index : PathIndex) (settings : ResolverSettings)
    (bindings : List LimitBinding) : LimitPass :=
  bindings.foldl (LimitPass.add index settings) { routes := [], skipped := [] }

def addPlain (claimed : List String) (routes : List ResolvedRoute)
    (rule : RouteRule) : List ResolvedRoute :=
  if rule.isActive && !claimed.contains rule.path then
    routes ++ [plainRoute (nextOrder routes) rule]
  else routes

def resolve (rules : List RouteRule) (bindings : List LimitBinding)
    (index : PathIndex) (settings : ResolverSettings) :
    Resolution (List ResolvedRoute) :=
  let pass := limitPass index settings bindings
  let claimed := pass.routes.map fun route => route.predicate.pattern
  .loaded (rules.foldl (addPlain claimed) pass.routes) pass.skipped

end GatewayPolicy.Routing
