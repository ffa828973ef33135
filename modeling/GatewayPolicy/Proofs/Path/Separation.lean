import GatewayPolicy.Proofs.Access.Demands
import GatewayPolicy.Proofs.Path.Categories

/-!
# Services with separate roots

The root of a service is what its first active pattern leaves when its wildcard
and its trailing slashes are gone.  Where it is not empty, all that the service
publishes stands at the root or below it, after a slash.  Two roots are apart
if they differ and neither lies below the other; `/svc1` and `/svc1x` are.
Nothing stands below both, so that services with such roots have no public path
in common, and none of them touches what stands under a path of the other.
-/

set_option autoImplicit false

namespace GatewayPolicy

namespace Path

structure Apart (root other : List Char) : Prop where
  ne : root ≠ other
  not_below : ¬root ++ ['/'] <+: other
  not_above : ¬other ++ ['/'] <+: root

theorem Apart.symm {root other : List Char} (apart : Apart root other) :
    Apart other root :=
  ⟨apart.ne.symm, apart.not_above, apart.not_below⟩

/-- A root whose slash begins another root and its slash is that root, or the
other one lies below it. -/
theorem Apart.not_slashed_prefix {root other : List Char}
    (apart : Apart root other) : ¬root ++ ['/'] <+: other ++ ['/'] := by
  intro begins
  rcases List.prefix_concat_iff.mp begins with same | below
  · exact apart.ne (List.append_cancel_right same)
  · exact apart.not_below below

theorem Apart.not_isUnder {root other path : List Char}
    (apart : Apart root other) (under : isUnder root path = true) :
    isUnder other path = false := by
  rw [Bool.eq_false_iff]
  intro otherUnder
  rcases isUnder_iff.mp under with rfl | below <;>
    rcases isUnder_iff.mp otherUnder with same | otherBelow
  · exact apart.ne same
  · exact apart.not_above otherBelow
  · exact apart.not_below (same ▸ below)
  · -- of two beginnings of one path, one begins the other
    rcases List.prefix_or_prefix_of_prefix below otherBelow with begins | begins
    · exact apart.not_slashed_prefix begins
    · exact apart.symm.not_slashed_prefix begins

def rootOf? (rules : List RouteRule) (serviceId : String) :
    Option (List Char) :=
  (patternOf? rules serviceId).map fun pattern => prefixChars pattern.toList

theorem isUnder_composeChars {pattern path : List Char}
    (nonempty : prefixChars pattern ≠ [])
    (rooted : path.head? = some '/') :
    isUnder (prefixChars pattern) (composeChars pattern path) = true := by
  cases under : isUnder (prefixChars pattern) path with
  | true => rwa [composeChars_of_isUnder under]
  | false =>
      rw [composeChars_of_outside nonempty under]
      exact isUnder_append rooted

/-- What a service publishes stands at its root or below it. -/
theorem isUnder_place {rules : List RouteRule} {serviceId : String}
    {root : List Char} (known : rootOf? rules serviceId = some root)
    (nonempty : root ≠ []) (path : String) :
    isUnder root (place (patternOf? rules serviceId) path).toList = true := by
  obtain ⟨pattern, found, rfl⟩ := Option.map_eq_some_iff.mp known
  rw [found, toList_place_some]
  exact isUnder_composeChars nonempty (head?_normalizeChars _)

end Path

theorem Access.exists_fullPath_of_publicPath? {index : PathIndex}
    {serviceId key : String} {path : Option String}
    (placed : publicPath? index serviceId path = some key) :
    ∃ usable, key = index.fullPath serviceId usable := by
  obtain ⟨usable, _, rfl⟩ := Option.map_eq_some_iff.mp placed
  exact ⟨usable, rfl⟩

section

variable {rules : List RouteRule} {first second : String}
  {root other : List Char}

theorem PathIndex.fullPath_ne_of_apart
    (firstRoot : Path.rootOf? rules first = some root)
    (secondRoot : Path.rootOf? rules second = some other)
    (nonempty : root ≠ []) (otherNonempty : other ≠ [])
    (apart : Path.Apart root other) (path path' : String) :
    (ofRules rules).fullPath first path ≠
      (ofRules rules).fullPath second path' := by
  rw [fullPath_eq_place, fullPath_eq_place, pattern_ofRules, pattern_ofRules]
  intro same
  have under := Path.isUnder_place firstRoot nonempty path
  have outside := apart.not_isUnder under
  rw [same, Path.isUnder_place secondRoot otherNonempty path'] at outside
  cases outside

/-- Two active services whose roots are not empty and apart never meet.  No
path of the one is resolved as a path of the other is, by search or by index.
No key of the map of authorities has tokens of both: their grants are published
under different keys, and under each key those of one of the two can be left
out.  No published address entry of the one has a path of the other. -/
theorem services_with_roots_apart_never_meet
    (firstRoot : Path.rootOf? rules first = some root)
    (secondRoot : Path.rootOf? rules second = some other)
    (nonempty : root ≠ []) (otherNonempty : other ≠ [])
    (apart : Path.Apart root other) :
    let index := PathIndex.ofRules rules
    let without (serviceId : String) (grants : List AuthorityGrant) :=
      grants.filter fun row => row.serviceId != serviceId
    (∀ path path',
      Path.resolve rules first path ≠ Path.resolve rules second path' ∧
      index.fullPath first path ≠ index.fullPath second path') ∧
    (∀ grant grant' : AuthorityGrant,
      grant.serviceId = first → grant'.serviceId = second →
      ∀ key ∈ grant.publicPaths index, key ∉ grant'.publicPaths index) ∧
    (∀ (grants : List AuthorityGrant) (key : String),
      let demanded := Keyed.find? key (Access.authorityMap grants index)
      demanded =
          Keyed.find? key (Access.authorityMap (without first grants) index) ∨
        demanded =
          Keyed.find? key
            (Access.authorityMap (without second grants) index)) ∧
    (∀ entries : List AddressEntry,
      ∀ entry ∈ Access.addressEntries entries index,
        (entry.serviceId = first →
          ∀ path, entry.path ≠ some (index.fullPath second path)) ∧
        (entry.serviceId = second →
          ∀ path, entry.path ≠ some (index.fullPath first path))) := by
  intro index without
  have never (path path' : String) :
      index.fullPath first path ≠ index.fullPath second path' :=
    PathIndex.fullPath_ne_of_apart firstRoot secondRoot nonempty otherNonempty
      apart path path'
  have unshared {path path' : Option String} {key : String}
      (placed : Access.publicPath? index first path = some key) :
      Access.publicPath? index second path' ≠ some key := by
    intro placed'
    obtain ⟨usable, here⟩ := Access.exists_fullPath_of_publicPath? placed
    obtain ⟨usable', there⟩ := Access.exists_fullPath_of_publicPath? placed'
    exact never usable usable' (here.symm.trans there)
  refine ⟨?_, ?_, ?_, ?_⟩
  · intro path path'
    refine ⟨?_, never path path'⟩
    rw [Path.resolve_eq_fullPath, Path.resolve_eq_fullPath]
    exact never path path'
  · rintro grant grant' rfl rfl key here there
    rw [AuthorityGrant.publicPaths_eq, Option.mem_toList] at here there
    exact unshared here there
  · intro grants key demanded
    by_cases met : ∃ row ∈ grants, row.serviceId = first ∧
        Access.publicPath? index row.serviceId row.path = some key
    · obtain ⟨row, _, rfl, placed⟩ := met
      right
      symm
      apply Access.find?_authorityMap_filter
      intro row' _ dropped
      have service : row'.serviceId = second := by simpa using dropped
      rw [service]
      exact unshared placed
    · left
      symm
      apply Access.find?_authorityMap_filter
      intro row' member dropped placed
      have service : row'.serviceId = first := by simpa using dropped
      exact met ⟨row', member, service, placed⟩
  · intro entries entry member
    obtain ⟨row, _, published⟩ := List.mem_filterMap.mp member
    obtain ⟨key, placed, rfl⟩ := Option.map_eq_some_iff.mp published
    obtain ⟨usable, rfl⟩ := Access.exists_fullPath_of_publicPath? placed
    constructor
    · rintro rfl path same
      exact never usable path (Option.some.inj same)
    · rintro rfl path same
      exact never path usable (Option.some.inj same).symm

end

/-- Roots with a common beginning, and a path that already lies below the other
one: `/svc1x/users` of the first service is published below `/svc1`. -/
theorem svc1_and_svc1x_never_meet :
    let rule (name path : String) : RouteRule :=
      { routeId := 1, routeName := name, serviceId := some name
        url := none, path := path, stripPrefix := 1
        retryable := false, persist := false, status := 1 }
    let rules := [rule "svc1" "/svc1/**", rule "svc1x" "/svc1x/**"]
    let index := PathIndex.ofRules rules
    index.fullPath "svc1" "/svc1x/users" = "/svc1/svc1x/users" ∧
    index.fullPath "svc1x" "/svc1x/users" = "/svc1x/users" ∧
    ∀ path path', index.fullPath "svc1" path ≠ index.fullPath "svc1x" path' := by
  intro rule rules index
  have firstRoot : Path.rootOf? rules "svc1" = some "/svc1".toList := by decide
  have secondRoot : Path.rootOf? rules "svc1x" = some "/svc1x".toList := by
    decide
  have apart : Path.Apart "/svc1".toList "/svc1x".toList :=
    ⟨by decide, by decide, by decide⟩
  obtain ⟨never, _⟩ :=
    services_with_roots_apart_never_meet firstRoot secondRoot (by decide)
      (by decide) apart
  exact ⟨by decide, by decide, fun path path' => (never path path').2⟩

end GatewayPolicy
