import GatewayPolicy.Proofs.Path.KeptRules
import Mathlib.Data.List.Basic
import Mathlib.Data.List.Induction

/-!
# Rejected claims

A service belongs to the first active rule that claims it.  An active rule that
claims it later and under another path is rejected, and the index reports each
rejected rule once, in the order of the rules.  Which rules are rejected can be
told from the list alone: the owner of a service does not change while the
index is built, so a rule may as well be judged after all rules have been seen.
-/

set_option autoImplicit false

namespace GatewayPolicy

/-- The rule is active and claims the service, but the first active rule that
claims it, its owner, has another path.  So the rule comes after the owner. -/
structure Contests (rules : List RouteRule) (rule : RouteRule)
    (serviceId : String) (owner : RouteRule) : Prop where
  active : rule.isActive = true
  service : rule.serviceId = some serviceId
  owned : rules.find? (fun other => other.serves serviceId) = some owner
  path : owner.path ≠ rule.path

def rejection? (rules : List RouteRule) (rule : RouteRule) : Option Issue :=
  match rule.isActive, rule.serviceId with
  | true, some serviceId =>
      match rules.find? fun other => other.serves serviceId with
      | some owner =>
          if owner.path = rule.path then none
          else some (.ambiguousRoute serviceId owner.routeName rule.routeName)
      | none => none
  | _, _ => none

section

variable {rules : List RouteRule} {rule : RouteRule}

theorem rejection?_eq_some_iff {issue : Issue} :
    rejection? rules rule = some issue ↔
      ∃ serviceId owner, Contests rules rule serviceId owner ∧
        issue = .ambiguousRoute serviceId owner.routeName rule.routeName := by
  constructor
  · intro reported
    unfold rejection? at reported
    split at reported
    · next serviceId active service =>
        split at reported
        · next owner owned =>
            split at reported
            · cases reported
            · next path =>
                cases reported
                exact ⟨serviceId, owner, ⟨active, service, owned, path⟩, rfl⟩
        · cases reported
    · cases reported
  · rintro ⟨serviceId, owner, contests, rfl⟩
    simp only [rejection?, contests.active, contests.service, contests.owned,
      if_neg contests.path]

theorem Contests.serves {serviceId : String} {owner : RouteRule}
    (contests : Contests rules rule serviceId owner) :
    rule.serves serviceId = true := by
  simp [RouteRule.serves, contests.active, contests.service]

theorem Contests.of_serves {serviceId : String} {owner : RouteRule}
    (serves : rule.serves serviceId = true)
    (owned : rules.find? (fun other => other.serves serviceId) = some owner)
    (path : owner.path ≠ rule.path) :
    Contests rules rule serviceId owner := by
  simp only [RouteRule.serves, Bool.and_eq_true, beq_iff_eq] at serves
  exact ⟨serves.1, serves.2, owned, path⟩

/-- A further rule changes nothing for those before it, whose services have
their owners, and it owns what these leave. -/
theorem contests_append_singleton_iff {last owner : RouteRule}
    {serviceId : String} (member : rule ∈ rules ++ [last]) :
    Contests (rules ++ [last]) rule serviceId owner ↔
      Contests rules rule serviceId owner := by
  constructor
  · intro contests
    have owned := contests.owned
    rw [List.find?_append] at owned
    cases found : rules.find? (fun other => other.serves serviceId) with
    | some first =>
        rw [found, Option.some_or] at owned
        exact { contests with owned := found.trans owned }
    | none =>
        -- nobody has claimed the service, so that the rule is its own owner
        have unseen : rule ∉ rules := fun seen =>
          List.find?_eq_none.mp found rule seen contests.serves
        have added := (List.mem_append.mp member).resolve_left unseen
        obtain rfl : rule = last := List.mem_singleton.mp added
        rw [found, Option.none_or] at owned
        have same := List.mem_singleton.mp (List.mem_of_find?_eq_some owned)
        exact absurd (congrArg RouteRule.path same) contests.path
  · intro contests
    refine { contests with owned := ?_ }
    rw [List.find?_append, contests.owned, Option.some_or]

theorem rejection?_append_singleton {last : RouteRule}
    (member : rule ∈ rules ++ [last]) :
    rejection? (rules ++ [last]) rule = rejection? rules rule := by
  apply Option.ext
  intro issue
  simp only [rejection?_eq_some_iff, contests_append_singleton_iff member]

theorem PathIndex.Draft.report?_keptRules :
    report? (keptRules rules) rule = rejection? rules rule := by
  simp only [report?, find?_keptRules]
  rfl

end

theorem PathIndex.Draft.ofRules_append_singleton (rules : List RouteRule)
    (last : RouteRule) :
    ofRules (rules ++ [last]) = (ofRules rules).add last := by
  simp only [ofRules, List.foldl_append, List.foldl_cons, List.foldl_nil]

/-- The index judges a rule by the rules before it. -/
theorem PathIndex.ambiguities_append_singleton (rules : List RouteRule)
    (last : RouteRule) :
    (ofRules (rules ++ [last])).ambiguities =
      (ofRules rules).ambiguities ++ (rejection? rules last).toList := by
  rw [← Draft.report?_keptRules]
  simp only [ofRules, Draft.ofRules_append_singleton]
  exact ((Draft.keeps_ofRules rules).add last).2

theorem PathIndex.ambiguities_ofRules (rules : List RouteRule) :
    (ofRules rules).ambiguities = rules.filterMap (rejection? rules) := by
  induction rules using List.reverseRecOn with
  | nil => rfl
  | append_singleton rules last ih =>
      have judged : (rules ++ [last]).filterMap (rejection? (rules ++ [last])) =
          (rules ++ [last]).filterMap (rejection? rules) :=
        List.filterMap_congr fun rule member =>
          rejection?_append_singleton member
      rw [judged, ambiguities_append_singleton, ih, List.filterMap_append]
      cases report : rejection? rules last <;> simp [report]

end GatewayPolicy
