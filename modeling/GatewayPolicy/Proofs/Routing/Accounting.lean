import GatewayPolicy.Proofs.Routing.Consistency
import Mathlib.Data.List.Forall2

/-!
# Every row is accounted for

Resolving routes goes through the bindings and then through the rules, and the
second pass looks at what the first one made.  Each binding comes to one limited
route or to one issue; each active rule comes to one plain route, unless a
limited route has its pattern.  Nothing else is made, and a row that comes to
nothing leaves no gap in the ranks.
-/

set_option autoImplicit false

namespace GatewayPolicy.Routing

structure IsLimitedBy (index : PathIndex) (binding : LimitBinding)
    (route : ResolvedRoute) : Prop where
  id : route.id = toString binding.apiId.toInt
  pattern : route.predicate.pattern =
    index.fullPath binding.serviceId binding.path
  bucket : ∃ limit, route.limit = some limit ∧
    TokenBucket.ofLimit binding.intervalUnit binding.limitQuota =
      .ok limit.bucket

structure IsPlainFor (rule : RouteRule) (route : ResolvedRoute) : Prop where
  pattern : route.predicate.pattern = rule.path
  unlimited : route.limit = none

/-- The bindings come to these routes and these issues, in their order. -/
inductive Accounted (index : PathIndex) :
    List LimitBinding → List ResolvedRoute → List Issue → Prop where
  | nil : Accounted index [] [] []
  | limited {binding : LimitBinding} {route : ResolvedRoute}
      {bindings : List LimitBinding} {routes : List ResolvedRoute}
      {issues : List Issue} (made : IsLimitedBy index binding route)
      (rest : Accounted index bindings routes issues) :
      Accounted index (binding :: bindings) (route :: routes) issues
  | skipped {binding : LimitBinding} {issue : Issue}
      {bindings : List LimitBinding} {routes : List ResolvedRoute}
      {issues : List Issue}
      (failed : TokenBucket.ofLimit binding.intervalUnit binding.limitQuota =
        .error issue)
      (rest : Accounted index bindings routes issues) :
      Accounted index (binding :: bindings) routes (issue :: issues)

def isAdmitted (binding : LimitBinding) : Bool :=
  (TokenBucket.ofLimit binding.intervalUnit binding.limitQuota).isOk

variable (index : PathIndex) (settings : ResolverSettings)

/-! ## One binding -/

theorem isLimitedBy_limitedRoute {binding : LimitBinding}
    {route : ResolvedRoute}
    (made : limitedRoute index settings 0 binding = .ok route) :
    IsLimitedBy index binding route := by
  unfold limitedRoute at made
  cases parsed : IntervalUnit.parse binding.intervalUnit with
  | error issue =>
      rw [parsed] at made
      cases made
  | ok unit =>
      rw [parsed] at made
      cases made
      exact
        { id := rfl
          pattern := rfl
          bucket := ⟨_, rfl, by rw [TokenBucket.ofLimit, parsed]; rfl⟩ }

/-- A binding makes a route if its limit comes to a bucket, and is skipped for
the issue of its limit otherwise. -/
theorem binding_cases (binding : LimitBinding) :
    (∃ route, limitedRoute index settings 0 binding = .ok route ∧
      skippedBindings [binding] = [] ∧ isAdmitted binding = true) ∨
    (∃ issue, limitedRoute index settings 0 binding = .error issue ∧
      skippedBindings [binding] = [issue] ∧
      TokenBucket.ofLimit binding.intervalUnit binding.limitQuota =
        .error issue ∧ isAdmitted binding = false) := by
  rcases limitedRoute_cases index settings binding with
    ⟨unit, route, parsed, made, _⟩ | ⟨issue, parsed, made⟩
  · refine Or.inl ⟨route, made, ?_, ?_⟩
    · simp [skippedBindings, parsed]
    · rw [isAdmitted, TokenBucket.ofLimit, parsed]
      rfl
  · have failed : TokenBucket.ofLimit binding.intervalUnit
        binding.limitQuota = .error issue := by
      rw [TokenBucket.ofLimit, parsed]
      rfl
    refine Or.inr ⟨issue, made, ?_, failed, ?_⟩
    · simp [skippedBindings, parsed]
    · rw [isAdmitted, failed]
      rfl

theorem skippedBindings_cons (binding : LimitBinding)
    (rest : List LimitBinding) :
    skippedBindings (binding :: rest) =
      skippedBindings [binding] ++ skippedBindings rest := by
  rw [skippedBindings, ← List.singleton_append, List.filterMap_append]
  rfl

theorem limitedRoutes_cons_of_ok {binding : LimitBinding}
    {route : ResolvedRoute}
    (made : limitedRoute index settings 0 binding = .ok route)
    (rest : List LimitBinding) :
    limitedRoutes index settings (binding :: rest) =
      route :: limitedRoutes index settings rest := by
  simp [limitedRoutes, made, Except.toOption]

theorem limitedRoutes_cons_of_error {binding : LimitBinding} {issue : Issue}
    (failed : limitedRoute index settings 0 binding = .error issue)
    (rest : List LimitBinding) :
    limitedRoutes index settings (binding :: rest) =
      limitedRoutes index settings rest := by
  simp [limitedRoutes, failed, Except.toOption]

/-! ## All bindings -/

theorem accounted_limitedRoutes (bindings : List LimitBinding) :
    Accounted index bindings (limitedRoutes index settings bindings)
      (skippedBindings bindings) := by
  induction bindings with
  | nil => exact .nil
  | cons binding rest ih =>
      rw [skippedBindings_cons]
      rcases binding_cases index settings binding with
        ⟨route, made, none, _⟩ | ⟨issue, made, one, failed, _⟩
      · rw [limitedRoutes_cons_of_ok index settings made, none]
        exact .limited (isLimitedBy_limitedRoute index settings made) ih
      · rw [limitedRoutes_cons_of_error index settings made, one]
        exact .skipped failed ih

theorem limitedRoutes_filter_isAdmitted (bindings : List LimitBinding) :
    limitedRoutes index settings (bindings.filter isAdmitted) =
      limitedRoutes index settings bindings ∧
    skippedBindings (bindings.filter isAdmitted) = [] := by
  induction bindings with
  | nil => exact ⟨rfl, rfl⟩
  | cons binding rest ih =>
      obtain ⟨routes, issues⟩ := ih
      rcases binding_cases index settings binding with
        ⟨route, made, none, admitted⟩ | ⟨issue, made, _, _, refused⟩
      · rw [List.filter_cons_of_pos admitted, skippedBindings_cons, none,
          issues, limitedRoutes_cons_of_ok index settings made,
          limitedRoutes_cons_of_ok index settings made, routes]
        exact ⟨rfl, rfl⟩
      · rw [List.filter_cons_of_neg (by simp [refused]),
          limitedRoutes_cons_of_error index settings made]
        exact ⟨routes, issues⟩

theorem unclaimedRules_filter_isActive (limited : List ResolvedRoute)
    (rules : List RouteRule) :
    unclaimedRules limited (rules.filter RouteRule.isActive) =
      unclaimedRules limited rules := by
  simp only [unclaimedRules, List.filter_filter]
  refine List.filter_congr fun rule _ => ?_
  cases rule.isActive <;> simp

/-! ## Ranked rows -/

variable {index} in
theorem Accounted.rankFrom {bindings : List LimitBinding}
    {routes : List ResolvedRoute} {issues : List Issue}
    (accounted : Accounted index bindings routes issues) (start : Nat) :
    Accounted index bindings (rankFrom start routes) issues := by
  induction accounted generalizing start with
  | nil => exact .nil
  | limited made _ ih =>
      rw [rankFrom_cons]
      exact .limited
        { id := made.id, pattern := made.pattern, bucket := made.bucket }
        (ih (start + 1))
  | skipped failed _ ih => exact .skipped failed (ih start)

theorem isPlainFor_rankFrom (rules : List RouteRule) (start : Nat) :
    List.Forall₂ IsPlainFor rules (rankFrom start (rules.map (plainRoute 0))) := by
  induction rules generalizing start with
  | nil => exact .nil
  | cons rule rest ih =>
      rw [List.map_cons, rankFrom_cons]
      exact .cons { pattern := rfl, unlimited := rfl } (ih (start + 1))

theorem unclaimedRules_eq (limited : List ResolvedRoute)
    (rules : List RouteRule) :
    unclaimedRules limited rules =
      rules.filter fun rule => rule.isActive ∧
        ∀ route ∈ rank limited, route.predicate.pattern ≠ rule.path := by
  refine List.filter_congr fun rule _ => ?_
  have claimed : (∃ route ∈ rank limited,
        route.predicate.pattern = rule.path) ↔
      ∃ route ∈ limited, route.predicate.pattern = rule.path := by
    rw [← List.mem_map, ← List.mem_map, map_pattern_rank]
  rw [Bool.eq_iff_iff]
  simp only [Bool.and_eq_true, Bool.not_eq_true', List.any_eq_false,
    beq_iff_eq, decide_eq_true_eq]
  refine and_congr_right fun _ => ?_
  simpa only [not_exists, not_and] using (not_congr claimed).symm

/-! ## The whole list -/

/-- No row is lost and none is invented.  The bindings come to the limited
routes and to the issues of their limits; after the limited routes stand the
plain ones, one for each active rule whose pattern no limited route has.  The
ranks count through both parts.  Without the rows that come to nothing the same
routes result. -/
theorem routes_account_for_every_row (rules : List RouteRule)
    (bindings : List LimitBinding) (index : PathIndex)
    (settings : ResolverSettings) :
    ∃ limited plain issues,
      resolve rules bindings index settings =
        .loaded (limited ++ plain) issues ∧
      Accounted index bindings limited issues ∧
      List.Forall₂ IsPlainFor
        (rules.filter fun rule => rule.isActive ∧
          ∀ route ∈ limited, route.predicate.pattern ≠ rule.path)
        plain ∧
      (∀ place route, (limited ++ plain)[place]? = some route →
        route.order = UInt64.ofNat place) ∧
      resolve (rules.filter RouteRule.isActive) (bindings.filter isAdmitted)
          index settings =
        .loaded (limited ++ plain) [] := by
  let base := limitedRoutes index settings bindings
  have split := routes_eq_append rules bindings index settings
  have ordered := (wellFormed_routes rules bindings index settings).order
  obtain ⟨sameRoutes, noIssues⟩ :=
    limitedRoutes_filter_isAdmitted index settings bindings
  refine ⟨rank base,
    rankFrom base.length ((unclaimedRules base rules).map (plainRoute 0)),
    skippedBindings bindings, ?_, ?_, ?_, ?_, ?_⟩
  · rw [resolve_eq, split]
  · rw [rank_eq_rankFrom]
    exact (accounted_limitedRoutes index settings bindings).rankFrom 0
  · rw [← unclaimedRules_eq]
    exact isPlainFor_rankFrom _ _
  · rwa [split] at ordered
  · rw [resolve_eq, noIssues, ← split, routes, sameRoutes,
      unclaimedRules_filter_isActive, ← routes]

end GatewayPolicy.Routing
