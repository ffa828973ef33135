import GatewayPolicy.Proofs.Number.Digits
import GatewayPolicy.Proofs.Routing.Accounting
import Mathlib.Data.List.Nodup

/-!
# The ids of routes

A limited route goes by the number of its api.  A plain route goes by the name
of its rule, or by the rule's number if the name is blank.  Apis, names and
rules are each told apart among themselves, but their ids are texts of one kind,
and nothing marks where an id was taken from.  So two routes share an id only if
they took it from different places: a plain route that is called like the number
of a limited api, or like the number of a rule without a name.
-/

set_option autoImplicit false

namespace GatewayPolicy.Routing

/-- The rule comes to a route of its own, beside the routes of these
bindings. -/
def MakesRoute (index : PathIndex) (bindings : List LimitBinding)
    (rule : RouteRule) : Prop :=
  rule.isActive = true ∧
    ∀ binding ∈ bindings, isAdmitted binding = true →
      index.fullPath binding.serviceId binding.path ≠ rule.path

instance (index : PathIndex) (bindings : List LimitBinding)
    (rule : RouteRule) : Decidable (MakesRoute index bindings rule) :=
  inferInstanceAs (Decidable (_ ∧ _))

/-! ## Ids of rules -/

theorem numeral_inj {n m : Int64}
    (same : toString n.toInt = toString m.toInt) : n = m :=
  Int64.toInt_inj.mp (Numeral.toString_int_inj same)

theorem ruleName_of_blank {rule : RouteRule}
    (blank : Text.isBlank rule.routeName = true) :
    ruleName rule = toString rule.routeId.toInt := by
  rw [ruleName, Text.nonBlank?, if_pos blank]
  rfl

theorem ruleName_of_visible {rule : RouteRule}
    (visible : Text.isBlank rule.routeName = false) :
    ruleName rule = rule.routeName := by
  rw [ruleName, Text.nonBlank?, if_neg (by simp [visible])]
  rfl

/-- Rules with names and numbers of their own share an id only where a name
spells the number of a rule without a name. -/
theorem nodup_ruleName_iff {rules : List RouteRule}
    (ids : (rules.map RouteRule.routeId).Nodup)
    (names : (rules.map RouteRule.routeName).Nodup) :
    (rules.map ruleName).Nodup ↔
      ∀ rule ∈ rules, Text.isBlank rule.routeName = true →
        ∀ other ∈ rules, Text.isBlank other.routeName = false →
          other.routeName ≠ toString rule.routeId.toInt := by
  constructor
  · intro distinct rule member blank other otherMember visible spelled
    have same : ruleName other = ruleName rule := by
      rw [ruleName_of_visible visible, ruleName_of_blank blank, spelled]
    have one := List.inj_on_of_nodup_map distinct otherMember member same
    rw [one, blank] at visible
    cases visible
  · intro apart
    have differ : rules.Pairwise fun rule other =>
        rule.routeId ≠ other.routeId ∧ rule.routeName ≠ other.routeName :=
      List.Pairwise.and (List.pairwise_map.mp ids) (List.pairwise_map.mp names)
    apply List.pairwise_map.mpr
    refine differ.imp_of_mem ?_
    rintro rule other member otherMember ⟨differentId, differentName⟩ same
    cases blank : Text.isBlank rule.routeName with
    | true =>
        rw [ruleName_of_blank blank] at same
        cases otherBlank : Text.isBlank other.routeName with
        | true =>
            rw [ruleName_of_blank otherBlank] at same
            exact differentId (numeral_inj same)
        | false =>
            rw [ruleName_of_visible otherBlank] at same
            exact apart rule member blank other otherMember otherBlank same.symm
    | false =>
        rw [ruleName_of_visible blank] at same
        cases otherBlank : Text.isBlank other.routeName with
        | true =>
            rw [ruleName_of_blank otherBlank] at same
            exact apart other otherMember otherBlank rule member blank same
        | false =>
            rw [ruleName_of_visible otherBlank] at same
            exact differentName same

/-! ## Ids of routes -/

section

variable (index : PathIndex) (settings : ResolverSettings)
  (bindings : List LimitBinding) (rules : List RouteRule)

theorem isLimitedBy_limitedRoutes :
    List.Forall₂ (IsLimitedBy index) (bindings.filter isAdmitted)
      (limitedRoutes index settings bindings) := by
  induction bindings with
  | nil => exact .nil
  | cons binding rest ih =>
      rcases binding_cases index settings binding with
        ⟨route, made, _, admitted⟩ | ⟨issue, made, _, _, refused⟩
      · rw [List.filter_cons_of_pos admitted,
          limitedRoutes_cons_of_ok index settings made]
        exact .cons (isLimitedBy_limitedRoute index settings made) ih
      · rw [List.filter_cons_of_neg (by simp [refused]),
          limitedRoutes_cons_of_error index settings made]
        exact ih

theorem map_limitedRoutes {α : Type} {ofRoute : ResolvedRoute → α}
    {ofBinding : LimitBinding → α}
    (same : ∀ binding route, IsLimitedBy index binding route →
      ofBinding binding = ofRoute route) :
    (limitedRoutes index settings bindings).map ofRoute =
      (bindings.filter isAdmitted).map ofBinding := by
  symm
  rw [← List.forall₂_eq_eq_eq, List.forall₂_map_left_iff,
    List.forall₂_map_right_iff]
  exact (isLimitedBy_limitedRoutes index settings bindings).imp same

theorem mem_unclaimedRules {rule : RouteRule} :
    rule ∈ unclaimedRules (limitedRoutes index settings bindings) rules ↔
      rule ∈ rules ∧ MakesRoute index bindings rule := by
  have claimed : (∃ route ∈ limitedRoutes index settings bindings,
        route.predicate.pattern = rule.path) ↔
      ∃ binding ∈ bindings, isAdmitted binding = true ∧
        index.fullPath binding.serviceId binding.path = rule.path := by
    rw [← List.mem_map, map_limitedRoutes index settings bindings
      fun _ _ made => made.pattern.symm, List.mem_map]
    simp only [List.mem_filter, and_assoc]
  rw [unclaimedRules, List.mem_filter, MakesRoute]
  simp only [Bool.and_eq_true, Bool.not_eq_true', List.any_eq_false,
    beq_iff_eq]
  refine and_congr_right fun _ => and_congr_right fun _ => ?_
  simpa only [not_exists, not_and] using not_congr claimed

theorem map_id_resolve :
    ((resolve rules bindings index settings).value []).map ResolvedRoute.id =
      ((bindings.filter isAdmitted).map fun binding =>
        toString binding.apiId.toInt) ++
      (unclaimedRules (limitedRoutes index settings bindings) rules).map
        ruleName := by
  rw [resolve_eq, Resolution.value, routes, rank,
    map_numbered fun _ _ => rfl, List.map_append,
    map_limitedRoutes index settings bindings fun _ _ made => made.id.symm,
    List.map_map]
  rfl

end

/-- The ids of the routes are pairwise distinct exactly if no rule that makes a
route goes by the number of an api whose binding makes one, and none is named
like the number of a rule that makes a route and has no name. -/
theorem route_ids_distinct_iff {rules : List RouteRule}
    {bindings : List LimitBinding}
    (ids : (rules.map RouteRule.routeId).Nodup)
    (names : (rules.map RouteRule.routeName).Nodup)
    (apis : (bindings.map LimitBinding.apiId).Nodup)
    (index : PathIndex) (settings : ResolverSettings) :
    let routes := (resolve rules bindings index settings).value []
    (routes.map ResolvedRoute.id).Nodup ↔
      (∀ binding ∈ bindings, isAdmitted binding = true →
        ∀ rule ∈ rules, MakesRoute index bindings rule →
          ruleName rule ≠ toString binding.apiId.toInt) ∧
      (∀ rule ∈ rules, MakesRoute index bindings rule →
        Text.isBlank rule.routeName = true →
        ∀ other ∈ rules, MakesRoute index bindings other →
          Text.isBlank other.routeName = false →
          other.routeName ≠ toString rule.routeId.toInt) := by
  intro routes
  let plain := unclaimedRules (limitedRoutes index settings bindings) rules
  have limitedIds : ((bindings.filter isAdmitted).map fun binding =>
      toString binding.apiId.toInt).Nodup := by
    have distinct : bindings.Pairwise fun binding other =>
        binding.apiId ≠ other.apiId := List.pairwise_map.mp apis
    apply List.pairwise_map.mpr
    refine (distinct.sublist List.filter_sublist).imp ?_
    intro binding other different same
    exact different (numeral_inj same)
  have plainIds : (plain.map ruleName).Nodup ↔ _ :=
    nodup_ruleName_iff
      ((List.filter_sublist.map RouteRule.routeId).nodup ids)
      ((List.filter_sublist.map RouteRule.routeName).nodup names)
  have member (rule : RouteRule) : rule ∈ plain ↔
      rule ∈ rules ∧ MakesRoute index bindings rule :=
    mem_unclaimedRules index settings bindings rules
  have split : routes.map ResolvedRoute.id = _ :=
    map_id_resolve index settings bindings rules
  rw [split, List.nodup_append, and_iff_right limitedIds, plainIds, and_comm]
  simp only [List.forall_mem_map, List.mem_filter, member, and_imp]
  refine and_congr_left fun _ => ?_
  constructor
  · intro apart binding bound admitted rule ruled makes same
    exact apart binding bound admitted rule
      ((member rule).mpr ⟨ruled, makes⟩) same.symm
  · intro apart binding bound admitted rule emitted same
    obtain ⟨ruled, makes⟩ := (member rule).mp emitted
    exact apart binding bound admitted rule ruled makes same.symm

def svcRule (routeId : Int64) (routeName : String) : RouteRule :=
  { routeId := routeId, routeName := routeName, serviceId := some "svc"
    url := none, path := "/svc/**", stripPrefix := 1, retryable := false
    persist := false, status := 1 }

def usersLimit (path : String) : LimitBinding :=
  { policyId := 1, policyName := "p", limitQuota := 60
    intervalUnit := "seconds", apiId := 10, apiCode := "users"
    apiName := "users", apiCategory := "", serviceId := "svc", path := path
    url := none }

/-- A rule that is named like the number of another makes no route where a
limited route has its pattern, so the routes go by 10 and 2. -/
theorem route_ids_of_claimed_rule_distinct :
    let rules :=
      [svcRule 1 "2", { svcRule 2 "" with path := "/other/**" }]
    let bindings := [usersLimit "/**"]
    let index := PathIndex.ofRules rules
    let settings : ResolverSettings := { keyResolver := "ip" }
    let ids :=
      ((resolve rules bindings index settings).value []).map ResolvedRoute.id
    ids = ["10", "2"] ∧ ids.Nodup := by
  intro rules bindings index settings ids
  have distinct : ids.Nodup ↔ _ :=
    route_ids_distinct_iff (by decide) (by decide) (by decide) index settings
  exact ⟨by decide, distinct.mpr ⟨by decide, by decide⟩⟩

/-- A rule may be named like the number of an api. -/
theorem route_ids_of_rule_named_like_api :
    let rules := [svcRule 1 "10"]
    let bindings := [usersLimit "/users"]
    (rules.map RouteRule.routeId).Nodup ∧
    (rules.map RouteRule.routeName).Nodup ∧
    (bindings.map LimitBinding.apiId).Nodup ∧
    ¬((resolve rules bindings (PathIndex.ofRules rules)
        { keyResolver := "ip" }).value [] |>.map ResolvedRoute.id).Nodup := by
  decide

end GatewayPolicy.Routing
