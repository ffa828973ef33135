import GatewayPolicy.Access
import GatewayPolicy.Proofs.Keyed.Lookup

/-!
# What stands under one path

The map of authorities is built from all grants at once, but what stands under
one of its paths comes from the grants that are published there and from no
others.
-/

set_option autoImplicit false

namespace GatewayPolicy.Access

def collect (grants : List AuthorityGrant) (tokens : Option (List String)) :
    Option (List String) :=
  grants.foldl
    (fun tokens row =>
      some (AuthorityMap.insertToken row.authority (tokens.getD [])))
    tokens

def publishedAt (index : PathIndex) (path : String)
    (grants : List AuthorityGrant) : List AuthorityGrant :=
  grants.filter fun row =>
    publicPath? index row.serviceId row.path == some path

variable {index : PathIndex} {map : AuthorityMap}

theorem sorted_grant (row : AuthorityGrant) (sorted : Keyed.Sorted map) :
    Keyed.Sorted (grant index map row) := by
  unfold grant
  split
  · exact Keyed.sorted_update sorted
  · exact sorted

theorem sorted_foldl_grant (grants : List AuthorityGrant)
    (sorted : Keyed.Sorted map) :
    Keyed.Sorted (grants.foldl (grant index) map) := by
  induction grants generalizing map with
  | nil => exact sorted
  | cons row rest ih => exact ih (sorted_grant row sorted)

theorem sorted_authorityMap (grants : List AuthorityGrant) :
    Keyed.Sorted (authorityMap grants index) :=
  sorted_foldl_grant grants List.Pairwise.nil

theorem find?_grant (row : AuthorityGrant) (path : String)
    (sorted : Keyed.Sorted map) :
    Keyed.find? path (grant index map row) =
      if publicPath? index row.serviceId row.path = some path then
        collect [row] (Keyed.find? path map)
      else Keyed.find? path map := by
  unfold grant
  cases placed : publicPath? index row.serviceId row.path with
  | none => rfl
  | some key =>
      simp only [Option.some.injEq, AuthorityMap.demand]
      by_cases same : key = path
      · subst same
        rw [Keyed.find?_update_self _ sorted, if_pos rfl]
        rfl
      · rw [Keyed.find?_update_of_ne _ (Ne.symm same), if_neg same]

theorem find?_foldl_grant (grants : List AuthorityGrant) (path : String)
    (sorted : Keyed.Sorted map) :
    Keyed.find? path (grants.foldl (grant index) map) =
      collect (publishedAt index path grants) (Keyed.find? path map) := by
  induction grants generalizing map with
  | nil => rfl
  | cons row rest ih =>
      rw [List.foldl_cons, ih (sorted_grant row sorted),
        find?_grant row path sorted]
      by_cases here : publicPath? index row.serviceId row.path = some path
      · simp [publishedAt, here, collect]
      · simp [publishedAt, here]

theorem find?_authorityMap (grants : List AuthorityGrant) (path : String) :
    Keyed.find? path (authorityMap grants index) =
      collect (publishedAt index path grants) none :=
  find?_foldl_grant grants path List.Pairwise.nil

/-- Grants that are not published under a path can be left out there. -/
theorem find?_authorityMap_filter {grants : List AuthorityGrant}
    {path : String} {kept : AuthorityGrant → Bool}
    (others : ∀ row ∈ grants, kept row = false →
      publicPath? index row.serviceId row.path ≠ some path) :
    Keyed.find? path (authorityMap (grants.filter kept) index) =
      Keyed.find? path (authorityMap grants index) := by
  have same : publishedAt index path (grants.filter kept) =
      publishedAt index path grants := by
    rw [publishedAt, List.filter_filter]
    refine List.filter_congr fun row member => ?_
    cases held : kept row with
    | true => simp
    | false => simp [others row member held]
  rw [find?_authorityMap, find?_authorityMap, same]

end GatewayPolicy.Access
