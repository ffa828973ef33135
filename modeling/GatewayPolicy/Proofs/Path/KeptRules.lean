import GatewayPolicy.PathIndex
import GatewayPolicy.Proofs.Keyed.Lookup
import GatewayPolicy.Proofs.Path.Composition

/-!
# The rules that the index keeps

While the index is built, the pattern and the name of the rule that owns a
service are entered in two maps at once.  So the maps stay in step: both are
about one list of kept rules, which are the first active rules of their
services, and a service that is found in one of them is found in the other.
-/

set_option autoImplicit false

namespace GatewayPolicy

/-- One more rule: it is kept if nobody has claimed its service yet. -/
def keep (kept : List (String × RouteRule)) (rule : RouteRule) :
    List (String × RouteRule) :=
  match rule.isActive, rule.serviceId with
  | true, some serviceId =>
      if (Keyed.find? serviceId kept).isSome then kept
      else kept ++ [(serviceId, rule)]
  | _, _ => kept

def keptRules (rules : List RouteRule) : List (String × RouteRule) :=
  rules.foldl keep []

namespace PathIndex.Draft

/-- Both maps are about these rules, service by service. -/
structure Keeps (draft : Draft) (kept : List (String × RouteRule)) : Prop where
  patterns : draft.patterns = kept.map fun entry => (entry.1, entry.2.path)
  names : draft.keptNames = kept.map fun entry => (entry.1, entry.2.routeName)

variable {draft : Draft} {kept : List (String × RouteRule)}

theorem Keeps.find?_patterns (keeps : draft.Keeps kept) (serviceId : String) :
    Keyed.find? serviceId draft.patterns =
      (Keyed.find? serviceId kept).map RouteRule.path := by
  rw [keeps.patterns, Keyed.find?_map]

theorem Keeps.find?_names (keeps : draft.Keeps kept) (serviceId : String) :
    Keyed.find? serviceId draft.keptNames =
      (Keyed.find? serviceId kept).map RouteRule.routeName := by
  rw [keeps.names, Keyed.find?_map]

def report? (kept : List (String × RouteRule)) (rule : RouteRule) :
    Option Issue :=
  match rule.isActive, rule.serviceId with
  | true, some serviceId =>
      match Keyed.find? serviceId kept with
      | some owner =>
          if owner.path = rule.path then none
          else some (.ambiguousRoute serviceId owner.routeName rule.routeName)
      | none => none
  | _, _ => none

/-- One rule changes both maps or none, and a report names the rule that is
kept. -/
theorem Keeps.add (keeps : draft.Keeps kept) (rule : RouteRule) :
    (draft.add rule).Keeps (keep kept rule) ∧
    (draft.add rule).ambiguities =
      draft.ambiguities ++ (report? kept rule).toList := by
  unfold Draft.add keep report?
  cases rule.isActive with
  | false => exact ⟨keeps, (List.append_nil _).symm⟩
  | true =>
      cases rule.serviceId with
      | none => exact ⟨keeps, (List.append_nil _).symm⟩
      | some serviceId =>
          dsimp only
          rw [register, keeps.find?_patterns, keeps.find?_names]
          cases Keyed.find? serviceId kept with
          | none =>
              refine ⟨⟨?_, ?_⟩, (List.append_nil _).symm⟩
              · simp [keeps.patterns]
              · simp [keeps.names]
          | some owner =>
              by_cases same : owner.path = rule.path
              · simp [same, keeps]
              · simp only [Option.map_some, if_neg same]
                exact ⟨⟨keeps.patterns, keeps.names⟩, rfl⟩

theorem keeps_ofRules (rules : List RouteRule) :
    (Draft.ofRules rules).Keeps (keptRules rules) := by
  have run (rules : List RouteRule) (draft : Draft)
      (kept : List (String × RouteRule)) (keeps : draft.Keeps kept) :
      (rules.foldl Draft.add draft).Keeps (rules.foldl keep kept) := by
    induction rules generalizing draft kept with
    | nil => exact keeps
    | cons rule rest ih => exact ih _ _ (keeps.add rule).1
  exact run rules Draft.empty [] ⟨rfl, rfl⟩

end PathIndex.Draft

/-! ## The kept rules are those that a search finds -/

theorem find?_keep (kept : List (String × RouteRule)) (rule : RouteRule)
    (serviceId : String) :
    Keyed.find? serviceId (keep kept rule) =
      (Keyed.find? serviceId kept).or
        (if rule.serves serviceId then some rule else none) := by
  unfold keep RouteRule.serves
  cases rule.isActive with
  | false => simp
  | true =>
      cases rule.serviceId with
      | none => simp
      | some claimed =>
          dsimp only
          cases owned : Keyed.find? claimed kept with
          | none =>
              rw [if_neg (by simp), Keyed.find?_append, Keyed.find?_cons]
              simp [Keyed.find?]
          | some owner =>
              by_cases same : claimed = serviceId
              · subst same
                simp [owned]
              · simp [same]

theorem find?_keptRules (rules : List RouteRule) (serviceId : String) :
    Keyed.find? serviceId (keptRules rules) =
      rules.find? fun rule => rule.serves serviceId := by
  have run (rules : List RouteRule) (kept : List (String × RouteRule)) :
      Keyed.find? serviceId (rules.foldl keep kept) =
        (Keyed.find? serviceId kept).or
          (rules.find? fun rule => rule.serves serviceId) := by
    induction rules generalizing kept with
    | nil => simp
    | cons rule rest ih =>
        rw [List.foldl_cons, ih, find?_keep, Option.or_assoc]
        cases serves : rule.serves serviceId <;> simp [serves]
  rw [keptRules, run]
  exact Option.none_or

/-! ## Public paths -/

namespace PathIndex

theorem pattern_ofRules (rules : List RouteRule) (serviceId : String) :
    Keyed.find? serviceId (ofRules rules).patterns =
      Path.patternOf? rules serviceId := by
  rw [Path.patternOf?, ← find?_keptRules]
  exact (Draft.keeps_ofRules rules).find?_patterns serviceId

theorem fullPath_eq_place (index : PathIndex) (serviceId path : String) :
    index.fullPath serviceId path =
      Path.place (Keyed.find? serviceId index.patterns) path := by
  unfold fullPath
  cases Keyed.find? serviceId index.patterns <;> rfl

end PathIndex

theorem Path.resolve_eq_fullPath (rules : List RouteRule)
    (serviceId path : String) :
    resolve rules serviceId path =
      (PathIndex.ofRules rules).fullPath serviceId path := by
  rw [resolve_eq_place, PathIndex.fullPath_eq_place, PathIndex.pattern_ofRules]

end GatewayPolicy
