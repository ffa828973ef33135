import GatewayPolicy.Access
import GatewayPolicy.Proofs.Path.Ambiguity
import GatewayPolicy.Proofs.Routing.Ranks

/-!
# The order of the rules

The first active rule of a service decides where its apis are published, so the
order of the rules matters in general.  It does not matter where no rule is
reported as ambiguous: each category then resolves to the same under any order,
except that the plain routes stand in the order of their rules.
-/

set_option autoImplicit false

namespace GatewayPolicy

/-! ## An index is known by its public paths -/

section Congruence

variable {index other : PathIndex} (same : other.fullPath = index.fullPath)

include same

theorem Access.authorityMap_congr (grants : List AuthorityGrant) :
    authorityMap grants other = authorityMap grants index := by
  have step : grant other = grant index := by
    funext map row
    simp only [grant, publicPath?, same]
  simp only [authorityMap, step]

theorem Access.addressEntries_congr (entries : List AddressEntry) :
    addressEntries entries other = addressEntries entries index := by
  have step : publish? other = publish? index := by
    funext entry
    simp only [publish?, publicPath?, same]
  simp only [addressEntries, step]

theorem Routing.limitedRoutes_congr (settings : ResolverSettings)
    (bindings : List LimitBinding) :
    limitedRoutes other settings bindings =
      limitedRoutes index settings bindings := by
  have step : limitedRoute other settings = limitedRoute index settings := by
    funext order binding
    simp only [limitedRoute, same]
  simp only [limitedRoutes, step]

end Congruence

/-! ## Permuted rules -/

theorem Routing.unclaimedRules_perm {rules others : List RouteRule}
    (permuted : others.Perm rules) (limited : List ResolvedRoute) :
    (unclaimedRules limited others).Perm (unclaimedRules limited rules) :=
  permuted.filter _

/-- Rules of which none is ambiguous may stand in any order: neither the
ambiguities, the authorities, the address entries, the skipped bindings nor the
limited routes tell, and the plain routes are the same ones under other ranks. -/
theorem order_of_unambiguous_rules {rules others : List RouteRule}
    (permuted : others.Perm rules)
    (clear : (PathIndex.ofRules rules).ambiguities = [])
    (bindings : List LimitBinding) (grants : List AuthorityGrant)
    (entries : List AddressEntry) (settings : ResolverSettings) :
    let index := PathIndex.ofRules rules
    let other := PathIndex.ofRules others
    let before := Routing.resolve rules bindings index settings
    let after := Routing.resolve others bindings other settings
    let limited (resolved : Resolution (List ResolvedRoute)) :=
      (resolved.value []).filter fun route => route.limit.isSome
    let plain (resolved : Resolution (List ResolvedRoute)) :=
      (resolved.value []).filter fun route => route.limit.isNone
    other.ambiguities = [] ∧
    Access.authorityMap grants other = Access.authorityMap grants index ∧
    Access.addressEntries entries other = Access.addressEntries entries index ∧
    after.skipped = before.skipped ∧
    limited after = limited before ∧
    ((plain after).map Routing.unranked).Perm
      ((plain before).map Routing.unranked) := by
  intro index other before after limited plain
  have unambiguous : Unambiguous rules :=
    (PathIndex.ambiguities_ofRules_eq_nil_iff rules).mp clear
  have same : other.fullPath = index.fullPath :=
    PathIndex.fullPath_of_perm unambiguous permuted
  have limitedSame := Routing.limitedRoutes_congr same settings bindings
  have skipped : after.skipped = before.skipped := by
    simp only [before, after, Routing.resolve_eq, Resolution.skipped]
  refine ⟨?_, Access.authorityMap_congr same grants,
    Access.addressEntries_congr same entries, skipped, ?_, ?_⟩
  · exact (PathIndex.ambiguities_ofRules_eq_nil_iff others).mpr
      (unambiguous.of_perm permuted)
  · simp only [limited, before, after, Routing.resolve_eq, Resolution.value,
      Routing.filter_limited_routes, limitedSame]
  · simp only [plain, before, after, Routing.resolve_eq, Resolution.value,
      Routing.filter_plain_routes, Routing.map_unranked_rankFrom, limitedSame]
    exact ((Routing.unclaimedRules_perm permuted _).map _).map _

theorem order_of_two_services :
    let rule (name service path : String) : RouteRule :=
      { routeId := 1, routeName := name, serviceId := some service
        url := none, path := path, stripPrefix := 1
        retryable := false, persist := false, status := 1 }
    let rules :=
      [rule "users" "users" "/users/**", rule "old" "users" "/users/**",
        rule "orders" "orders" "/orders/**"]
    let others :=
      [rule "old" "users" "/users/**", rule "users" "users" "/users/**",
        rule "orders" "orders" "/orders/**"]
    let grant : AuthorityGrant :=
      { authorityId := 1, authority := "ROLE", serviceId := "users"
        path := some "list" }
    others.Perm rules ∧
    (PathIndex.ofRules rules).ambiguities = [] ∧
    (PathIndex.ofRules others).ambiguities = [] ∧
    Access.authorityMap [grant] (PathIndex.ofRules others) =
      Access.authorityMap [grant] (PathIndex.ofRules rules) := by
  intro rule rules others grant
  have permuted : others.Perm rules := .swap _ _ _
  have clear : (PathIndex.ofRules rules).ambiguities = [] := by decide
  obtain ⟨stillClear, authorities, _⟩ :=
    order_of_unambiguous_rules permuted clear [] [grant] []
      { keyResolver := "path" }
  exact ⟨permuted, clear, stillClear, authorities⟩

end GatewayPolicy
