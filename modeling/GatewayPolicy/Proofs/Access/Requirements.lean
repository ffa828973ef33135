import GatewayPolicy.Proofs.Access.Demands
import GatewayPolicy.Proofs.Access.Publication
import GatewayPolicy.Proofs.Path.Categories

/-!
# What the authority map requires

Under a path stand the tokens of the grants that are published there.  The map
lists its paths and the tokens of each in ascending order, and lists no path
without a token, so that it is known by which token is demanded where.  That
does not depend on the order of the grants or on how often one is repeated, and
further grants only add to it.
-/

set_option autoImplicit false

namespace GatewayPolicy

namespace AuthorityMap

/-- Paths and tokens ascend, and every path has a token. -/
structure Canonical (map : AuthorityMap) : Prop where
  paths : Keyed.Sorted map
  nonempty : ∀ entry ∈ map, entry.2 ≠ []
  tokens : ∀ entry ∈ map, entry.2.Pairwise (· < ·)

/-- The map has the paths of both maps, and under each of them the tokens that
the two demand there. -/
structure IsUnion (map first second : AuthorityMap) : Prop where
  paths : ∀ path, path ∈ Keyed.keys map ↔
    path ∈ Keyed.keys first ∨ path ∈ Keyed.keys second
  tokens : ∀ path token, token ∈ map.tokens path ↔
    token ∈ first.tokens path ∨ token ∈ second.tokens path

/-! ## Sets of tokens -/

/-- A set of tokens is a keyed list that holds nothing under its keys. -/
theorem insertToken_eq_keys_update (token : String) (tokens : List String) :
    insertToken token tokens =
      Keyed.keys (Keyed.update token (fun _ => ())
        (tokens.map fun token => (token, ()))) := by
  induction tokens with
  | nil => rfl
  | cons head rest ih =>
      unfold insertToken
      rw [List.map_cons, Keyed.update]
      split
      · simp [Keyed.keys, Function.comp_def]
      · split
        · simp [Keyed.keys, Function.comp_def]
        · rw [ih]
          rfl

theorem keys_map_unit (tokens : List String) :
    Keyed.keys (tokens.map fun token => (token, ())) = tokens := by
  simp [Keyed.keys, Function.comp_def]

theorem mem_insertToken {token other : String} {tokens : List String} :
    other ∈ insertToken token tokens ↔ other = token ∨ other ∈ tokens := by
  rw [insertToken_eq_keys_update, Keyed.mem_keys_update, keys_map_unit]

theorem pairwise_insertToken (token : String) {tokens : List String}
    (ascending : tokens.Pairwise (· < ·)) :
    (insertToken token tokens).Pairwise (· < ·) := by
  have sorted : Keyed.Sorted (tokens.map fun token => (token, ())) :=
    List.pairwise_map.mpr ascending
  rw [insertToken_eq_keys_update]
  exact List.pairwise_map.mpr (Keyed.sorted_update sorted)

/-! ## Canonical maps -/

namespace Canonical

variable {map other : AuthorityMap}

theorem find?_eq (canonical : map.Canonical) (path : String) :
    Keyed.find? path map =
      if map.tokens path = [] then none else some (map.tokens path) := by
  unfold AuthorityMap.tokens
  cases found : Keyed.find? path map with
  | none => rfl
  | some tokens =>
      have member := Keyed.mem_of_find?_eq_some found
      exact (if_neg (canonical.nonempty _ member)).symm

theorem mem_keys_iff (canonical : map.Canonical) {path : String} :
    path ∈ Keyed.keys map ↔ ∃ token, token ∈ map.tokens path := by
  have absent : path ∉ Keyed.keys map ↔ map.tokens path = [] := by
    rw [← Keyed.find?_eq_none_iff, canonical.find?_eq]
    split <;> simp [*]
  rw [← not_iff_not, absent, List.eq_nil_iff_forall_not_mem, not_exists]

theorem pairwise_tokens (canonical : map.Canonical) (path : String) :
    (map.tokens path).Pairwise (· < ·) := by
  unfold AuthorityMap.tokens
  cases found : Keyed.find? path map with
  | none => exact List.Pairwise.nil
  | some tokens =>
      exact canonical.tokens _ (Keyed.mem_of_find?_eq_some found)

theorem eq_of_tokens (canonical : map.Canonical)
    (otherCanonical : other.Canonical)
    (same : ∀ path token,
      token ∈ map.tokens path ↔ token ∈ other.tokens path) :
    map = other := by
  apply Keyed.eq_of_find?_eq canonical.paths otherCanonical.paths
  intro path
  have tokens : map.tokens path = other.tokens path :=
    List.Pairwise.eq_of_mem_iff (canonical.pairwise_tokens path)
      (otherCanonical.pairwise_tokens path) (same path)
  rw [canonical.find?_eq, otherCanonical.find?_eq, tokens]

end Canonical

end AuthorityMap

/-! ## The map of the grants -/

namespace Access

variable {index : PathIndex}

theorem mem_collect {grants : List AuthorityGrant}
    {tokens : Option (List String)} {token : String} :
    token ∈ (collect grants tokens).getD [] ↔
      token ∈ tokens.getD [] ∨ ∃ row ∈ grants, row.authority = token := by
  induction grants generalizing tokens with
  | nil => simp [collect]
  | cons row rest ih =>
      rw [collect, List.foldl_cons, ← collect, ih, Option.getD_some,
        AuthorityMap.mem_insertToken, List.exists_mem_cons_iff, or_assoc,
        or_left_comm, eq_comm]

theorem pairwise_collect (grants : List AuthorityGrant)
    (tokens : Option (List String))
    (ascending : (tokens.getD []).Pairwise (· < ·)) :
    ((collect grants tokens).getD []).Pairwise (· < ·) := by
  induction grants generalizing tokens with
  | nil => exact ascending
  | cons row rest ih =>
      exact ih _ (AuthorityMap.pairwise_insertToken _ ascending)

theorem tokens_authorityMap (grants : List AuthorityGrant) (path : String) :
    (authorityMap grants index).tokens path =
      (collect (publishedAt index path grants) none).getD [] := by
  rw [AuthorityMap.tokens, find?_authorityMap]

theorem mem_tokens_authorityMap {grants : List AuthorityGrant}
    {path token : String} :
    token ∈ (authorityMap grants index).tokens path ↔
      ∃ row ∈ grants, row.authority = token ∧
        publicPath? index row.serviceId row.path = some path := by
  rw [tokens_authorityMap, mem_collect]
  simp only [publishedAt, List.mem_filter, beq_iff_eq, Option.getD_none,
    List.not_mem_nil, false_or, and_assoc]
  exact exists_congr fun row => and_congr_right fun _ => and_comm

theorem canonical_authorityMap (grants : List AuthorityGrant) :
    (authorityMap grants index).Canonical where
  paths := sorted_authorityMap grants
  nonempty := tokens_ne_nil_of_mem_authorityMap grants
  tokens := by
    rintro ⟨path, tokens⟩ member
    have found : Keyed.find? path (authorityMap grants index) = some tokens :=
      (Keyed.find?_eq_some_iff (sorted_authorityMap grants).nodup_keys).mpr
        member
    have ascending := pairwise_collect (publishedAt index path grants) none
      List.Pairwise.nil
    rwa [← find?_authorityMap, found] at ascending

theorem publicPath?_eq_some_iff {serviceId key : String}
    {path : Option String} :
    publicPath? index serviceId path = some key ↔
      ∃ given, path = some given ∧ Text.isBlank given = false ∧
        index.fullPath serviceId (Text.trim given) = key := by
  cases path with
  | none => simp [publicPath?, usablePath?]
  | some given =>
      rw [publicPath?_some]
      cases blank : Text.isBlank given <;> simp [blank]

end Access

/-- The map demands a token under a path exactly if some grant has that token
and a path that is there, is not blank and is published as that path once
trimmed.  It is canonical, so that none of its paths is without a token.  Grants
that come in two parts make the union of the maps of the parts; the same grants
in any order and any number make the same map, and more of them take nothing
away. -/
theorem authority_map_demands_what_grants_require (index : PathIndex)
    (grants : List AuthorityGrant) :
    let mapOf (grants : List AuthorityGrant) := Access.authorityMap grants index
    (∀ key token, token ∈ (mapOf grants).tokens key ↔
      ∃ row ∈ grants, row.authority = token ∧
        ∃ given, row.path = some given ∧ Text.isBlank given = false ∧
          index.fullPath row.serviceId (Text.trim given) = key) ∧
    (mapOf grants).Canonical ∧
    (∀ more, (mapOf (grants ++ more)).IsUnion (mapOf grants) (mapOf more)) ∧
    (∀ others, (∀ row, row ∈ others ↔ row ∈ grants) →
      mapOf others = mapOf grants) ∧
    (∀ others, grants ⊆ others →
      Keyed.keys (mapOf grants) ⊆ Keyed.keys (mapOf others) ∧
      ∀ key, (mapOf grants).tokens key ⊆ (mapOf others).tokens key) := by
  intro mapOf
  have canonical (grants : List AuthorityGrant) : (mapOf grants).Canonical :=
    Access.canonical_authorityMap grants
  have demanded (grants : List AuthorityGrant) (key token : String) :
      token ∈ (mapOf grants).tokens key ↔
        ∃ row ∈ grants, row.authority = token ∧
          Access.publicPath? index row.serviceId row.path = some key :=
    Access.mem_tokens_authorityMap
  have wider {grants others : List AuthorityGrant} (held : grants ⊆ others)
      (key : String) :
      (mapOf grants).tokens key ⊆ (mapOf others).tokens key := by
    intro token member
    obtain ⟨row, granted, required⟩ := (demanded grants key token).mp member
    exact (demanded others key token).mpr ⟨row, held granted, required⟩
  have united (more : List AuthorityGrant) (key token : String) :
      token ∈ (mapOf (grants ++ more)).tokens key ↔
        token ∈ (mapOf grants).tokens key ∨
          token ∈ (mapOf more).tokens key := by
    simp only [demanded, List.mem_append, or_and_right, exists_or]
  refine ⟨?_, canonical grants, ?_, ?_, ?_⟩
  · intro key token
    simp only [demanded, Access.publicPath?_eq_some_iff]
  · intro more
    refine { paths := fun key => ?_, tokens := united more }
    simp only [(canonical _).mem_keys_iff, united, exists_or]
  · intro others same
    apply (canonical others).eq_of_tokens (canonical grants)
    intro key token
    simp only [demanded, same]
  · intro others held
    refine ⟨?_, wider held⟩
    intro key member
    obtain ⟨token, here⟩ := (canonical grants).mem_keys_iff.mp member
    exact (canonical others).mem_keys_iff.mpr ⟨token, wider held key here⟩

theorem swapped_and_repeated_grants_require_the_same :
    let rule : RouteRule :=
      { routeId := 1, routeName := "svc1", serviceId := some "svc1"
        url := none, path := "/svc1/**", stripPrefix := 1
        retryable := false, persist := false, status := 1 }
    let index := PathIndex.ofRules [rule]
    let grant (authority path : String) : AuthorityGrant :=
      { authorityId := 1, authority := authority, serviceId := "svc1"
        path := some path }
    let grants := [grant "A" "/users", grant "B" " users "]
    let others := [grant "B" " users ", grant "A" "/users", grant "A" "/users"]
    (∀ row, row ∈ others ↔ row ∈ grants) ∧ grants ⊆ others ∧
    Access.authorityMap others index = Access.authorityMap grants index ∧
    (Access.authorityMap others index).tokens "/svc1/users" = ["A", "B"] := by
  intro rule index grant grants others
  have same (row : AuthorityGrant) : row ∈ others ↔ row ∈ grants := by
    simp only [others, grants, List.mem_cons, List.not_mem_nil, or_false,
      or_self]
    exact or_comm
  obtain ⟨_, _, _, unchanged, _⟩ :=
    authority_map_demands_what_grants_require index grants
  refine ⟨same, fun row => (same row).mpr, unchanged others same, ?_⟩
  decide +kernel

end GatewayPolicy
