import GatewayPolicy.Proofs.Routing.Limited

/-!
# Ranked routes

The routes of a refresh come in two parts, of which the limited one stands
first.  Ranking numbers them through and changes nothing else about them, so
that either part can be told from the other by its limits.
-/

set_option autoImplicit false

namespace GatewayPolicy.Routing

def unranked (route : ResolvedRoute) : ResolvedRoute :=
  { route with order := 0 }

theorem getElem?_rank (routes : List ResolvedRoute) (place : Nat) :
    (rank routes)[place]? =
      routes[place]?.map fun route =>
        { route with order := UInt64.ofNat place } := by
  simp only [rank, List.getElem?_mapIdx]

theorem mem_rankFrom {start : Nat} {routes : List ResolvedRoute}
    {route : ResolvedRoute} (ranked : route ∈ rankFrom start routes) :
    ∃ base ∈ routes, ∃ order, route = { base with order := order } := by
  obtain ⟨place, inside, rfl⟩ := List.mem_mapIdx.mp ranked
  exact ⟨routes[place], List.getElem_mem inside, _, rfl⟩

theorem map_unranked_rankFrom (start : Nat) (routes : List ResolvedRoute) :
    (rankFrom start routes).map unranked = routes.map unranked :=
  map_numbered (fun _ _ => rfl) _ routes

/-! ## The two parts -/

section Parts

variable (rules : List RouteRule) (bindings : List LimitBinding)
  (index : PathIndex) (settings : ResolverSettings)

theorem routes_eq_append :
    let limited := limitedRoutes index settings bindings
    routes rules bindings index settings =
      rank limited ++
        rankFrom limited.length ((unclaimedRules limited rules).map (plainRoute 0)) :=
  rank_append _ _

theorem limit_of_mem_rank_limitedRoutes {route : ResolvedRoute}
    (ranked : route ∈ rank (limitedRoutes index settings bindings)) :
    route.limit.isSome := by
  rw [rank_eq_rankFrom] at ranked
  obtain ⟨base, limited, _, rfl⟩ := mem_rankFrom ranked
  have limit : base.limit.isSome :=
    limit_of_mem_limitedRoutes index settings limited
  exact limit

theorem limit_of_mem_rankFrom_plainRoute {start : Nat} {route : ResolvedRoute}
    (ranked : route ∈ rankFrom start (rules.map (plainRoute 0))) :
    route.limit = none := by
  obtain ⟨base, plain, _, rfl⟩ := mem_rankFrom ranked
  obtain ⟨rule, _, rfl⟩ := List.mem_map.mp plain
  rfl

theorem filter_limited_routes :
    (routes rules bindings index settings).filter
        (fun route => route.limit.isSome) =
      rank (limitedRoutes index settings bindings) := by
  rw [routes_eq_append, List.filter_append, List.filter_eq_self.mpr,
    List.filter_eq_nil_iff.mpr, List.append_nil]
  · intro route plain
    simp [limit_of_mem_rankFrom_plainRoute _ plain]
  · intro route limited
    exact limit_of_mem_rank_limitedRoutes bindings index settings limited

theorem filter_plain_routes :
    let limited := limitedRoutes index settings bindings
    (routes rules bindings index settings).filter
        (fun route => route.limit.isNone) =
      rankFrom limited.length
        ((unclaimedRules limited rules).map (plainRoute 0)) := by
  intro limited
  rw [routes_eq_append, List.filter_append, List.filter_eq_nil_iff.mpr,
    List.filter_eq_self.mpr, List.nil_append]
  · intro route plain
    rw [limit_of_mem_rankFrom_plainRoute _ plain]
    rfl
  · intro route member
    have limit :=
      limit_of_mem_rank_limitedRoutes bindings index settings member
    simp [Option.isSome_iff_ne_none.mp limit]

end Parts

end GatewayPolicy.Routing
