import GatewayPolicy.Proofs.Toml.Order

/-!
# The leaves of a table

A leaf is a value that is no table.  It is known by the names on the way to it,
the outermost first: in a table in order no two leaves are reached by the same
names.
-/

set_option autoImplicit false

namespace GatewayPolicy.Toml

structure Leaf where
  names : List String
  value : Value

def Leaf.below (name : String) (leaf : Leaf) : Leaf :=
  { leaf with names := name :: leaf.names }

mutual

/-- The leaves of a value; a value that is no table is one itself. -/
def leavesOfValue : Value → List Leaf
  | .table entries => leavesOfEntries entries
  | value => [{ names := [], value := value }]

def leavesOfEntries : List (String × Value) → List Leaf
  | [] => []
  | (name, value) :: rest =>
      (leavesOfValue value).map (Leaf.below name) ++ leavesOfEntries rest

end

/-! ## Each leaf has names of its own -/

theorem exists_name_of_mem_leavesOfEntries {entries : List (String × Value)}
    {leaf : Leaf} (member : leaf ∈ leavesOfEntries entries) :
    ∃ entry ∈ entries, ∃ inner ∈ leavesOfValue entry.2,
      leaf = inner.below entry.1 := by
  induction entries with
  | nil => cases member
  | cons entry rest ih =>
      obtain ⟨name, value⟩ := entry
      rw [leavesOfEntries] at member
      rcases List.mem_append.mp member with here | later
      · obtain ⟨inner, present, rfl⟩ := List.mem_map.mp here
        exact ⟨(name, value), .head _, inner, present, rfl⟩
      · obtain ⟨other, present, found⟩ := ih later
        exact ⟨other, .tail _ present, found⟩

mutual

theorem nodup_names_leavesOfValue (value : Value) (ordered : value.Ordered) :
    ((leavesOfValue value).map Leaf.names).Nodup := by
  match value with
  | .table entries =>
      cases ordered with
      | table sorted inner =>
          exact nodup_names_leavesOfEntries entries sorted inner
      | leaf no_table => exact absurd rfl (no_table entries)
  | .array _ | .string _ | .integer _ | .float _ | .boolean _ | .datetime _ =>
      exact List.pairwise_singleton _ _

theorem nodup_names_leavesOfEntries (entries : List (String × Value))
    (sorted : Keyed.Sorted entries)
    (ordered : ∀ entry ∈ entries, entry.2.Ordered) :
    ((leavesOfEntries entries).map Leaf.names).Nodup := by
  match entries with
  | [] => exact List.Pairwise.nil
  | (name, value) :: rest =>
      obtain ⟨below, later⟩ := List.pairwise_cons.mp sorted
      obtain ⟨here, others⟩ := List.forall_mem_cons.mp ordered
      rw [leavesOfEntries, List.map_append, List.map_map]
      refine List.nodup_append.mpr ⟨?_, ?_, ?_⟩
      · have inner := nodup_names_leavesOfValue value here
        have outer : (((leavesOfValue value).map Leaf.names).map
            (name :: ·)).Nodup :=
          List.Pairwise.map (name :: ·)
            (fun names names' apart same =>
              apart (List.tail_eq_of_cons_eq same)) inner
        rwa [List.map_map] at outer
      · exact nodup_names_leavesOfEntries rest later others
      · rintro names first names' second rfl
        obtain ⟨leaf, _, rfl⟩ := List.mem_map.mp first
        obtain ⟨other, found, same⟩ := List.mem_map.mp second
        obtain ⟨entry, present, inner, _, rfl⟩ :=
          exists_name_of_mem_leavesOfEntries found
        have keys : entry.1 = name := List.head_eq_of_cons_eq same
        exact String.lt_irrefl name (keys ▸ below entry present)

end

end GatewayPolicy.Toml
