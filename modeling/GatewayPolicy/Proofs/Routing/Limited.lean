import GatewayPolicy.Proofs.Routing.Listing

/-!
# Limited routes and their bindings

Every binding is accounted for: it makes one route with a limit or one issue.
No other route has a limit, so the two can be counted in what the routes
resolve to.
-/

set_option autoImplicit false

namespace GatewayPolicy.Routing

variable (index : PathIndex) (settings : ResolverSettings)

theorem limit_of_mem_limitedRoutes {bindings : List LimitBinding}
    {route : ResolvedRoute}
    (limited : route ∈ limitedRoutes index settings bindings) :
    route.limit.isSome := by
  obtain ⟨binding, _, made⟩ := List.mem_filterMap.mp limited
  rcases limitedRoute_cases index settings binding with
    ⟨_, _, _, eq, limit⟩ | ⟨_, _, eq⟩
  · rw [eq] at made
    rwa [← Option.some.inj made]
  · rw [eq] at made
    cases made

theorem length_limitedRoutes_add_skippedBindings
    (bindings : List LimitBinding) :
    (limitedRoutes index settings bindings).length +
      (skippedBindings bindings).length = bindings.length := by
  induction bindings with
  | nil => rfl
  | cons binding rest ih =>
      simp only [limitedRoutes, skippedBindings, Except.toOption] at ih
      rcases limitedRoute_cases index settings binding with
        ⟨unit, route, parsed, made, _⟩ | ⟨issue, parsed, made⟩
      · simp only [limitedRoutes, skippedBindings, List.filterMap_cons, made,
          parsed, Except.toOption, List.length_cons]
        omega
      · simp only [limitedRoutes, skippedBindings, List.filterMap_cons, made,
          parsed, Except.toOption, List.length_cons]
        omega

theorem countP_limit_routes (rules : List RouteRule)
    (bindings : List LimitBinding) :
    (routes rules bindings index settings).countP
        (fun route => route.limit.isSome) =
      (limitedRoutes index settings bindings).length := by
  have counted (list : List ResolvedRoute) :
      list.countP (fun route => route.limit.isSome) =
        (list.map ResolvedRoute.limit).countP Option.isSome := by
    rw [List.countP_map]
    rfl
  let limited := limitedRoutes index settings bindings
  have all : limited.countP (fun route => route.limit.isSome) =
      limited.length :=
    List.countP_eq_length.mpr fun _ =>
      limit_of_mem_limitedRoutes index settings
  have none (rules : List RouteRule) :
      (rules.map (plainRoute 0)).countP (fun route => route.limit.isSome) = 0 := by
    rw [List.countP_map]
    exact List.countP_eq_zero.mpr fun _ _ => by simp [plainRoute]
  rw [routes, counted, rank, map_numbered fun _ _ => rfl, ← counted,
    List.countP_append, all, none]
  rfl

end GatewayPolicy.Routing
