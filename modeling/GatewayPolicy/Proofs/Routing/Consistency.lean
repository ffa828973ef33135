import GatewayPolicy.Proofs.Routing.Ranks

/-!
# Consistent routes

A resolved route says three times whether it is limited: by its flag, by its
limit and by its filters.  Limited and plain routes are made by different
functions, and ranked by a third, and still the three always agree; so do the
bucket of the limiter, the bucket of the limit and the quota it was made from.
-/

set_option autoImplicit false

namespace GatewayPolicy

structure ResolvedRoute.Consistent (settings : ResolverSettings)
    (route : ResolvedRoute) : Prop where
  flag_iff : route.predicate.rateLimited = true ↔ route.limit.isSome = true
  chain_iff : route.limit.isSome = true ↔
    ∃ rate burst keyResolver, route.filters =
      [.stripPrefix 1, .requestRateLimiter rate burst keyResolver]
  plain : route.limit = none → route.filters = [.stripPrefix 1]
  limited : ∀ limit, route.limit = some limit →
    route.filters =
      [.stripPrefix 1,
        .requestRateLimiter limit.bucket.replenishRate
          limit.bucket.burstCapacity settings.keyResolver] ∧
    limit.bucket = .forQuota limit.unit limit.quota ∧
    limit.ttlSeconds = limit.unit.ttlSeconds

structure Routing.WellFormed (settings : ResolverSettings)
    (routes : List ResolvedRoute) : Prop where
  /-- A route's order is its place, as a machine word. -/
  order : ∀ place route, routes[place]? = some route →
    route.order = UInt64.ofNat place
  consistent : ∀ route ∈ routes, route.Consistent settings
  limited_first : routes.filter (fun route => route.limit.isSome) <+: routes
  unclaimed : ∀ limited ∈ routes, ∀ plain ∈ routes,
    limited.limit.isSome = true → plain.limit = none →
    plain.predicate.pattern ≠ limited.predicate.pattern

namespace Routing

variable {settings : ResolverSettings}

/-! ## Each route by itself -/

theorem consistent_limitedRoute {index : PathIndex} {binding : LimitBinding}
    {order : UInt64} {route : ResolvedRoute}
    (made : limitedRoute index settings order binding = .ok route) :
    route.Consistent settings := by
  unfold limitedRoute at made
  cases parsed : IntervalUnit.parse binding.intervalUnit with
  | error issue =>
      rw [parsed] at made
      cases made
  | ok unit =>
      rw [parsed] at made
      cases made
      exact
        { flag_iff := Iff.rfl
          chain_iff := ⟨fun _ => ⟨_, _, _, rfl⟩, fun _ => rfl⟩
          plain := nofun
          limited := by
            rintro limit ⟨⟩
            exact ⟨rfl, rfl, rfl⟩ }

theorem consistent_plainRoute (order : UInt64) (rule : RouteRule) :
    (plainRoute order rule).Consistent settings where
  flag_iff := by simp [plainRoute]
  chain_iff := by simp [plainRoute]
  plain := fun _ => rfl
  limited := nofun

theorem consistent_of_mem_rankFrom {start : Nat} {routes : List ResolvedRoute}
    (consistent : ∀ route ∈ routes, route.Consistent settings) :
    ∀ route ∈ rankFrom start routes, route.Consistent settings := by
  intro route ranked
  obtain ⟨base, member, _, rfl⟩ := mem_rankFrom ranked
  have kept := consistent base member
  exact
    { flag_iff := kept.flag_iff
      chain_iff := kept.chain_iff
      plain := kept.plain
      limited := kept.limited }

theorem consistent_of_mem_limitedRoutes (index : PathIndex)
    (bindings : List LimitBinding) :
    ∀ route ∈ limitedRoutes index settings bindings,
      route.Consistent settings := by
  intro route limited
  obtain ⟨binding, _, made⟩ := List.mem_filterMap.mp limited
  cases result : limitedRoute index settings 0 binding with
  | error issue =>
      rw [result] at made
      cases made
  | ok other =>
      rw [result] at made
      obtain rfl : other = route := Option.some.inj made
      exact consistent_limitedRoute result

/-! ## The list -/

theorem pattern_ne_of_mem_unclaimedRules {limited : List ResolvedRoute}
    {rules : List RouteRule} {rule : RouteRule}
    (unclaimed : rule ∈ unclaimedRules limited rules) :
    ∀ route ∈ limited, rule.path ≠ route.predicate.pattern := by
  intro route member same
  have kept := (List.mem_filter.mp unclaimed).2
  simp only [Bool.and_eq_true, Bool.not_eq_true', List.any_eq_false] at kept
  exact kept.2 route member (beq_iff_eq.mpr same.symm)

theorem wellFormed_routes (rules : List RouteRule)
    (bindings : List LimitBinding) (index : PathIndex)
    (settings : ResolverSettings) :
    WellFormed settings (routes rules bindings index settings) := by
  let limited := limitedRoutes index settings bindings
  let plain := (unclaimedRules limited rules).map (plainRoute 0)
  have split : routes rules bindings index settings =
      rank limited ++ rankFrom limited.length plain :=
    routes_eq_append rules bindings index settings
  refine ⟨?order, ?consistent, ?limited_first, ?unclaimed⟩
  case order =>
    intro place route found
    unfold routes at found
    rw [getElem?_rank] at found
    obtain ⟨base, _, rfl⟩ := Option.map_eq_some_iff.mp found
    rfl
  case consistent =>
    intro route member
    rw [split, rank_eq_rankFrom] at member
    rcases List.mem_append.mp member with member | member
    · exact consistent_of_mem_rankFrom
        (consistent_of_mem_limitedRoutes index bindings) route member
    · refine consistent_of_mem_rankFrom ?_ route member
      intro route member
      obtain ⟨rule, _, rfl⟩ := List.mem_map.mp member
      exact consistent_plainRoute 0 rule
  case limited_first =>
    rw [filter_limited_routes, split]
    exact List.prefix_append _ _
  case unclaimed =>
    intro claiming claimed other member limit none
    have inLimited : claiming ∈ rank limited := by
      rw [← filter_limited_routes rules bindings index settings]
      exact List.mem_filter.mpr ⟨claimed, limit⟩
    have inPlain : other ∈ rankFrom limited.length plain := by
      rw [← filter_plain_routes rules bindings index settings]
      exact List.mem_filter.mpr ⟨member, by rw [none]; rfl⟩
    rw [rank_eq_rankFrom] at inLimited
    obtain ⟨base, baseLimited, _, rfl⟩ := mem_rankFrom inLimited
    obtain ⟨made, madePlain, _, rfl⟩ := mem_rankFrom inPlain
    obtain ⟨rule, unclaimed, rfl⟩ := List.mem_map.mp madePlain
    exact pattern_ne_of_mem_unclaimedRules unclaimed base baseLimited

end Routing

end GatewayPolicy
