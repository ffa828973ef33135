import GatewayPolicy.Proofs.Path.KeptRules

/-!
# What the index holds

The index is built in one pass, which enters a service with the first active
rule that claims it.  Later rules find the service there and never enter it
again.  So each service stands in the index once, with the rule that a search
through all rules would find, and a path is made public alike by both.
-/

set_option autoImplicit false

namespace GatewayPolicy

theorem nodup_keys_keep {kept : List (String × RouteRule)}
    (once : (Keyed.keys kept).Nodup) (rule : RouteRule) :
    (Keyed.keys (keep kept rule)).Nodup := by
  unfold keep
  split
  · next serviceId _ _ =>
      split
      · exact once
      · next unclaimed =>
          rw [Option.not_isSome_iff_eq_none, Keyed.find?_eq_none_iff]
            at unclaimed
          rw [Keyed.keys, List.map_append]
          refine List.nodup_append.mpr ⟨once, List.pairwise_singleton _ _, ?_⟩
          intro claimed member new same
          rw [List.mem_singleton.mp same]
          exact ne_of_mem_of_not_mem member unclaimed
  · exact once

theorem nodup_keys_keptRules (rules : List RouteRule) :
    (Keyed.keys (keptRules rules)).Nodup := by
  have run (rules : List RouteRule) (kept : List (String × RouteRule))
      (once : (Keyed.keys kept).Nodup) :
      (Keyed.keys (rules.foldl keep kept)).Nodup := by
    induction rules generalizing kept with
    | nil => exact once
    | cons rule rest ih => exact ih _ (nodup_keys_keep once rule)
  exact run rules [] List.nodup_nil

theorem mem_keptRules_iff (rules : List RouteRule) (serviceId : String)
    (rule : RouteRule) :
    (serviceId, rule) ∈ keptRules rules ↔
      rules.find? (fun rule => rule.serves serviceId) = some rule := by
  rw [← Keyed.find?_eq_some_iff (nodup_keys_keptRules rules), find?_keptRules]

theorem mem_map_keptRules_iff {β : Type} (f : RouteRule → β)
    (rules : List RouteRule) (serviceId : String) (value : β) :
    (serviceId, value) ∈
        (keptRules rules).map (fun entry => (entry.1, f entry.2)) ↔
      ∃ rule, rules.find? (fun rule => rule.serves serviceId) = some rule ∧
        f rule = value := by
  simp only [← mem_keptRules_iff, List.mem_map, Prod.mk.injEq, Prod.exists]
  constructor
  · rintro ⟨_, rule, member, rfl, rfl⟩
    exact ⟨rule, member, rfl⟩
  · rintro ⟨rule, member, rfl⟩
    exact ⟨serviceId, rule, member, rfl, rfl⟩

namespace PathIndex

def services (index : PathIndex) : List String :=
  Keyed.keys index.patterns

/-- The index of the rules gives every path the place that the search through
them gives it.  It holds a service exactly if the search finds an active rule
for it, holds it once, and has the pattern of that rule.  While it is built,
the names stay in step: they are the names of the same rules, so that there is
a name for every service that has a pattern. -/
theorem index_agrees_with_search (rules : List RouteRule) :
    let index := ofRules rules
    let draft := Draft.ofRules rules
    (∀ serviceId path,
      index.fullPath serviceId path = Path.resolve rules serviceId path) ∧
    index.services.Nodup ∧
    (∀ serviceId pattern, (serviceId, pattern) ∈ index.patterns ↔
      ∃ rule, rules.find? (fun rule => rule.serves serviceId) = some rule ∧
        rule.path = pattern) ∧
    (∀ serviceId name, (serviceId, name) ∈ draft.keptNames ↔
      ∃ rule, rules.find? (fun rule => rule.serves serviceId) = some rule ∧
        rule.routeName = name) ∧
    Keyed.keys draft.keptNames = index.services := by
  intro index draft
  have keeps : draft.Keeps (keptRules rules) := Draft.keeps_ofRules rules
  have patterns : index.patterns = _ := keeps.patterns
  have services : index.services = Keyed.keys (keptRules rules) := by
    simp only [PathIndex.services, patterns, Keyed.keys, List.map_map,
      Function.comp_def]
  refine ⟨?_, ?_, ?_, ?_, ?_⟩
  · intro serviceId path
    exact (Path.resolve_eq_fullPath rules serviceId path).symm
  · rw [services]
    exact nodup_keys_keptRules rules
  · rw [patterns]
    exact mem_map_keptRules_iff RouteRule.path rules
  · rw [keeps.names]
    exact mem_map_keptRules_iff RouteRule.routeName rules
  · rw [services, keeps.names]
    simp only [Keyed.keys, List.map_map, Function.comp_def]

end PathIndex

end GatewayPolicy
