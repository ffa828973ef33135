import GatewayPolicy.Access
import GatewayPolicy.Proofs.Keyed.Lookup

/-!
# What access policies publish

Every path in the map of authorities demands a token, and every published
address entry is one of the rows it was made from, under a path.
-/

set_option autoImplicit false

namespace GatewayPolicy

theorem AuthorityMap.insertToken_ne_nil (token : String)
    (tokens : List String) : insertToken token tokens ≠ [] := by
  cases tokens with
  | nil => exact List.cons_ne_nil _ _
  | cons head rest =>
      unfold insertToken
      split
      · exact List.cons_ne_nil _ _
      · split <;> exact List.cons_ne_nil _ _

namespace Access

variable {index : PathIndex}

theorem tokens_ne_nil_grant {map : AuthorityMap} (row : AuthorityGrant)
    (held : ∀ entry ∈ map, entry.2 ≠ []) :
    ∀ entry ∈ grant index map row, entry.2 ≠ [] := by
  unfold grant
  split
  · exact Keyed.forall_update (P := fun tokens => tokens ≠ [])
      (fun _ => AuthorityMap.insertToken_ne_nil _ _) _ held
  · exact held

theorem tokens_ne_nil_of_mem_authorityMap (grants : List AuthorityGrant) :
    ∀ entry ∈ authorityMap grants index, entry.2 ≠ [] := by
  have kept (map : AuthorityMap) (held : ∀ entry ∈ map, entry.2 ≠ []) :
      ∀ entry ∈ grants.foldl (grant index) map, entry.2 ≠ [] := by
    induction grants generalizing map with
    | nil => exact held
    | cons row rest ih => exact ih _ (tokens_ne_nil_grant row held)
  exact kept [] (fun _ => nofun)

theorem eq_of_publish?_eq_some {entry published : AddressEntry}
    (made : publish? index entry = some published) :
    ∃ path, published = { entry with path := some path } := by
  obtain ⟨path, _, rfl⟩ := Option.map_eq_some_iff.mp made
  exact ⟨path, rfl⟩

theorem kind_of_mem_addressEntries {entries : List AddressEntry}
    {kind : ListKind} (listed : ∀ entry ∈ entries, entry.kind = kind) :
    ∀ entry ∈ addressEntries entries index,
      entry.kind = kind ∧ entry.path.isSome = true := by
  intro published member
  obtain ⟨entry, present, made⟩ := List.mem_filterMap.mp member
  obtain ⟨path, rfl⟩ := eq_of_publish?_eq_some made
  exact ⟨listed entry present, rfl⟩

end Access

end GatewayPolicy
