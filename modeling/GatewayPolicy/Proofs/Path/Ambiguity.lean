import GatewayPolicy.Proofs.Path.Rejections

/-!
# Unambiguous rules

The index reports a rule that claims a service under another path than the rule
that owns it.  It reports none exactly if all active rules of each service have
the same path, and that does not depend on the order of the rules.  Where it
reports none, it does not matter either which of the rules of a service comes
first, so that the order is not seen in any public path.
-/

set_option autoImplicit false

namespace GatewayPolicy

def Unambiguous (rules : List RouteRule) : Prop :=
  ∀ first ∈ rules, ∀ second ∈ rules, ∀ serviceId,
    first.serves serviceId = true → second.serves serviceId = true →
    first.path = second.path

theorem Unambiguous.of_perm {rules others : List RouteRule}
    (clear : Unambiguous rules) (permuted : others.Perm rules) :
    Unambiguous others := by
  intro first firstMember second secondMember
  exact clear first (permuted.subset firstMember) second
    (permuted.subset secondMember)

theorem exists_find?_serves {rules : List RouteRule} {rule : RouteRule}
    {serviceId : String} (member : rule ∈ rules)
    (serves : rule.serves serviceId = true) :
    ∃ first, rules.find? (fun rule => rule.serves serviceId) = some first := by
  rw [← Option.isSome_iff_exists, List.find?_isSome]
  exact ⟨rule, member, serves⟩

theorem serves_of_find?_eq_some {rules : List RouteRule} {first : RouteRule}
    {serviceId : String}
    (found : rules.find? (fun rule => rule.serves serviceId) = some first) :
    first ∈ rules ∧ first.serves serviceId = true := by
  have serves :=
    List.find?_some (p := fun rule => RouteRule.serves rule serviceId) found
  exact ⟨List.mem_of_find?_eq_some found, serves⟩

/-! ## What the index reports -/

theorem PathIndex.ambiguities_ofRules_eq_nil_iff (rules : List RouteRule) :
    (ofRules rules).ambiguities = [] ↔ Unambiguous rules := by
  rw [ambiguities_ofRules, List.filterMap_eq_nil_iff]
  constructor
  · intro silent first firstMember second secondMember serviceId firstServes
      secondServes
    obtain ⟨owner, owned⟩ := exists_find?_serves firstMember firstServes
    -- each of the two has the path of the owner, since none is rejected
    have agrees {rule : RouteRule} (member : rule ∈ rules)
        (serves : rule.serves serviceId = true) : owner.path = rule.path := by
      by_contra path
      have reported := rejection?_eq_some_iff.mpr
        ⟨serviceId, owner, .of_serves serves owned path, rfl⟩
      rw [silent rule member] at reported
      cases reported
    exact (agrees firstMember firstServes).symm.trans
      (agrees secondMember secondServes)
  · intro clear rule member
    cases report : rejection? rules rule with
    | none => rfl
    | some issue =>
        obtain ⟨serviceId, owner, contests, _⟩ :=
          rejection?_eq_some_iff.mp report
        obtain ⟨ownerMember, ownerServes⟩ :=
          serves_of_find?_eq_some contests.owned
        exact absurd (clear owner ownerMember rule member serviceId ownerServes
          contests.serves) contests.path

/-- The index reports the rejected rules, in the order of the rules and each as
often as it stands there, and reports nothing else.  A rule is rejected that is
active and has a service whose first active rule has another path; the issue
names the service, that first rule and the rejected one.  So nothing is
reported exactly if all active rules of each service have one path. -/
theorem ambiguities_report_rejected_rules (rules : List RouteRule) :
    let reported := (PathIndex.ofRules rules).ambiguities
    reported = rules.filterMap (rejection? rules) ∧
    (∀ rule issue, rejection? rules rule = some issue ↔
      ∃ serviceId owner, Contests rules rule serviceId owner ∧
        issue = .ambiguousRoute serviceId owner.routeName rule.routeName) ∧
    (reported = [] ↔ Unambiguous rules) := by
  intro reported
  exact ⟨PathIndex.ambiguities_ofRules rules,
    fun rule issue => rejection?_eq_some_iff,
    PathIndex.ambiguities_ofRules_eq_nil_iff rules⟩

/-! ## Public paths of unambiguous rules -/

theorem Path.patternOf?_eq_some_iff {rules : List RouteRule}
    (clear : Unambiguous rules) (serviceId pattern : String) :
    patternOf? rules serviceId = some pattern ↔
      ∃ rule ∈ rules, rule.serves serviceId = true ∧ rule.path = pattern := by
  constructor
  · intro known
    obtain ⟨first, found, rfl⟩ := Option.map_eq_some_iff.mp known
    obtain ⟨member, serves⟩ := serves_of_find?_eq_some found
    exact ⟨first, member, serves, rfl⟩
  · rintro ⟨rule, member, serves, rfl⟩
    obtain ⟨first, found⟩ := exists_find?_serves member serves
    obtain ⟨firstMember, firstServes⟩ := serves_of_find?_eq_some found
    rw [patternOf?, found, Option.map_some,
      clear first firstMember rule member serviceId firstServes serves]

theorem PathIndex.fullPath_of_perm {rules others : List RouteRule}
    (clear : Unambiguous rules) (permuted : others.Perm rules) :
    (ofRules others).fullPath = (ofRules rules).fullPath := by
  have patterns (serviceId : String) :
      Path.patternOf? others serviceId = Path.patternOf? rules serviceId := by
    apply Option.ext
    intro pattern
    rw [Path.patternOf?_eq_some_iff clear,
      Path.patternOf?_eq_some_iff (clear.of_perm permuted)]
    simp only [permuted.mem_iff]
  funext serviceId path
  rw [fullPath_eq_place, fullPath_eq_place, pattern_ofRules, pattern_ofRules,
    patterns]

end GatewayPolicy
