import GatewayPolicy.Routing

/-!
# The routes as a list

The two passes of the resolution fill one list of routes, and each route is
ranked when it is appended.  The same list can be told without the passes: the
bindings that make a route and then the unclaimed rules, numbered through.
-/

set_option autoImplicit false

namespace GatewayPolicy.Routing

def limitedRoutes (index : PathIndex) (settings : ResolverSettings)
    (bindings : List LimitBinding) : List ResolvedRoute :=
  bindings.filterMap fun binding =>
    (limitedRoute index settings 0 binding).toOption

def skippedBindings (bindings : List LimitBinding) : List Issue :=
  bindings.filterMap fun binding =>
    match IntervalUnit.parse binding.intervalUnit with
    | .ok _ => none
    | .error issue => some issue

def unclaimedRules (limited : List ResolvedRoute) (rules : List RouteRule) :
    List RouteRule :=
  rules.filter fun rule =>
    rule.isActive &&
      !limited.any fun route => route.predicate.pattern == rule.path

def rankFrom (start : Nat) (routes : List ResolvedRoute) :
    List ResolvedRoute :=
  routes.mapIdx fun place route =>
    { route with order := UInt64.ofNat (start + place) }

def rank (routes : List ResolvedRoute) : List ResolvedRoute :=
  routes.mapIdx fun place route => { route with order := UInt64.ofNat place }

def routes (rules : List RouteRule) (bindings : List LimitBinding)
    (index : PathIndex) (settings : ResolverSettings) : List ResolvedRoute :=
  let limited := limitedRoutes index settings bindings
  rank (limited ++ (unclaimedRules limited rules).map (plainRoute 0))

/-! ## Ranking -/

theorem rank_eq_rankFrom (routes : List ResolvedRoute) :
    rank routes = rankFrom 0 routes := by
  simp only [rank, rankFrom, Nat.zero_add]

theorem rank_append (first second : List ResolvedRoute) :
    rank (first ++ second) = rank first ++ rankFrom first.length second := by
  simp only [rank, rankFrom, List.mapIdx_append, Nat.add_comm]

theorem rankFrom_cons (start : Nat) (route : ResolvedRoute)
    (rest : List ResolvedRoute) :
    rankFrom start (route :: rest) =
      { route with order := UInt64.ofNat start } ::
        rankFrom (start + 1) rest := by
  simp only [rankFrom, List.mapIdx_cons, Nat.add_zero, Nat.add_right_comm,
    ← Nat.add_assoc]

theorem length_rank (routes : List ResolvedRoute) :
    (rank routes).length = routes.length :=
  List.length_mapIdx

/-- Whatever does not look at the order of a route stays the same, however the
routes are numbered. -/
theorem map_numbered {α : Type} {view : ResolvedRoute → α}
    (blind : ∀ route order, view { route with order := order } = view route)
    (order : Nat → UInt64) (routes : List ResolvedRoute) :
    (routes.mapIdx fun place route =>
      { route with order := order place }).map view = routes.map view := by
  refine List.ext_getElem (by simp) ?_
  intro place _ _
  simp [blind]

theorem map_pattern_rank (routes : List ResolvedRoute) :
    (rank routes).map (fun route => route.predicate.pattern) =
      routes.map fun route => route.predicate.pattern :=
  map_numbered (fun _ _ => rfl) _ routes

/-! ## The pass over the bindings -/

section Limited

variable (index : PathIndex) (settings : ResolverSettings)

theorem limitedRoute_cases (binding : LimitBinding) :
    (∃ unit route,
      IntervalUnit.parse binding.intervalUnit = .ok unit ∧
      limitedRoute index settings 0 binding = .ok route ∧
      route.limit.isSome) ∨
    (∃ issue,
      IntervalUnit.parse binding.intervalUnit = .error issue ∧
      limitedRoute index settings 0 binding = .error issue) := by
  simp only [limitedRoute]
  cases IntervalUnit.parse binding.intervalUnit with
  | ok unit => exact Or.inl ⟨unit, _, rfl, rfl, rfl⟩
  | error issue => exact Or.inr ⟨issue, rfl, rfl⟩

theorem limitedRoute_eq_map (order : UInt64) (binding : LimitBinding) :
    limitedRoute index settings order binding =
      (limitedRoute index settings 0 binding).map fun route =>
        { route with order := order } := by
  simp only [limitedRoute]
  cases IntervalUnit.parse binding.intervalUnit <;> rfl

theorem foldl_add (pass : LimitPass) (bindings : List LimitBinding) :
    bindings.foldl (LimitPass.add index settings) pass =
      { routes := pass.routes ++
          rankFrom pass.routes.length (limitedRoutes index settings bindings)
        skipped := pass.skipped ++ skippedBindings bindings } := by
  induction bindings generalizing pass with
  | nil => simp [limitedRoutes, skippedBindings, rankFrom]
  | cons binding rest ih =>
      rw [List.foldl_cons, ih]
      rcases limitedRoute_cases index settings binding with
        ⟨unit, route, parsed, made, _⟩ | ⟨issue, parsed, made⟩
      · have added : pass.add index settings binding =
            { pass with routes := pass.routes ++
                [{ route with order := nextOrder pass.routes }] } := by
          rw [LimitPass.add, limitedRoute_eq_map, made]
          rfl
        simp [added, limitedRoutes, skippedBindings, made, parsed,
          Except.toOption, rankFrom_cons, nextOrder]
      · have added : pass.add index settings binding =
            { pass with skipped := pass.skipped ++ [issue] } := by
          rw [LimitPass.add, limitedRoute_eq_map, made]
          rfl
        simp [added, limitedRoutes, skippedBindings, made, parsed,
          Except.toOption]

theorem limitPass_eq (bindings : List LimitBinding) :
    limitPass index settings bindings =
      { routes := rank (limitedRoutes index settings bindings)
        skipped := skippedBindings bindings } := by
  rw [limitPass, foldl_add, rank_eq_rankFrom]
  rfl

end Limited

/-! ## The pass over the rules -/

theorem contains_patterns (limited : List ResolvedRoute) (pattern : String) :
    ((rank limited).map fun route => route.predicate.pattern).contains pattern =
      limited.any fun route => route.predicate.pattern == pattern := by
  rw [map_pattern_rank, List.contains_eq_any_beq, List.any_map]
  exact congrArg limited.any (funext fun _ => BEq.comm)

theorem unclaimedRules_cons (limited : List ResolvedRoute) (rule : RouteRule)
    (rest : List RouteRule) :
    unclaimedRules limited (rule :: rest) =
      if rule.isActive &&
          !limited.any fun route => route.predicate.pattern == rule.path then
        rule :: unclaimedRules limited rest
      else unclaimedRules limited rest :=
  List.filter_cons

theorem foldl_addPlain (limited routes : List ResolvedRoute)
    (rules : List RouteRule) :
    rules.foldl
        (addPlain ((rank limited).map fun route => route.predicate.pattern))
        routes =
      routes ++
        rankFrom routes.length
          ((unclaimedRules limited rules).map (plainRoute 0)) := by
  induction rules generalizing routes with
  | nil => simp [unclaimedRules, rankFrom]
  | cons rule rest ih =>
      rw [List.foldl_cons, ih, addPlain, contains_patterns,
        unclaimedRules_cons]
      split
      · rw [List.map_cons, rankFrom_cons, List.append_assoc,
          List.length_append]
        rfl
      · rfl

theorem resolve_eq (rules : List RouteRule) (bindings : List LimitBinding)
    (index : PathIndex) (settings : ResolverSettings) :
    resolve rules bindings index settings =
      .loaded (routes rules bindings index settings)
        (skippedBindings bindings) := by
  simp only [resolve, limitPass_eq, foldl_addPlain, length_rank, routes,
    rank_append]

end GatewayPolicy.Routing
