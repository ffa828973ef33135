import GatewayPolicy.Proofs.Access.Requirements
import GatewayPolicy.Proofs.Refresh.StandAlone
import GatewayPolicy.Store.Tables
import Mathlib.Data.List.Forall2

/-!
# The two address lists

The tables hold the entries of both lists in one table.  Each list picks its own
entries, drops those without a usable path and moves the others to their public
paths.  Three functions share this work, and together they part the table: an
entry that can be used stands on the list of its kind as often as it is stored,
in the order of the table and changed in its path only.
-/

set_option autoImplicit false

namespace GatewayPolicy

namespace AddressEntry

def isUsable (entry : AddressEntry) : Bool :=
  entry.path.any fun written => !Text.isBlank written

/-- The stored entry with its trimmed path made public, and nothing else
changed. -/
def IsPublishedAs (index : PathIndex) (stored published : AddressEntry) :
    Prop :=
  ∃ written, stored.path = some written ∧
    published =
      { stored with
        path := some (index.fullPath stored.serviceId (Text.trim written)) }

theorem isUsable_iff {entry : AddressEntry} :
    entry.isUsable = true ↔
      ∃ written, entry.path = some written ∧
        Text.isBlank written = false := by
  cases stored : entry.path <;> simp [isUsable, stored]

end AddressEntry

namespace Access

open AddressEntry

variable (index : PathIndex)

/-! ## One entry -/

theorem publish?_of_isUsable {entry : AddressEntry}
    (usable : entry.isUsable = true) :
    ∃ published, publish? index entry = some published ∧
      entry.IsPublishedAs index published := by
  obtain ⟨written, stored, visible⟩ := isUsable_iff.mp usable
  have moved : publicPath? index entry.serviceId entry.path =
      some (index.fullPath entry.serviceId (Text.trim written)) :=
    publicPath?_eq_some_iff.mpr ⟨written, stored, visible, rfl⟩
  refine ⟨_, ?_, written, stored, rfl⟩
  rw [publish?, moved]
  rfl

theorem publish?_of_not_isUsable {entry : AddressEntry}
    (unusable : entry.isUsable = false) : publish? index entry = none := by
  have unmoved : publicPath? index entry.serviceId entry.path = none := by
    by_contra moved
    obtain ⟨path, found⟩ := Option.ne_none_iff_exists'.mp moved
    obtain ⟨written, stored, visible, _⟩ := publicPath?_eq_some_iff.mp found
    have usable := isUsable_iff.mpr ⟨written, stored, visible⟩
    rw [unusable] at usable
    cases usable
  rw [publish?, unmoved]
  rfl

/-! ## A list of entries -/

theorem forall₂_addressEntries (entries : List AddressEntry) :
    List.Forall₂ (AddressEntry.IsPublishedAs index)
      (entries.filter isUsable) (addressEntries entries index) := by
  induction entries with
  | nil => exact .nil
  | cons entry rest ih =>
      by_cases usable : entry.isUsable = true
      · obtain ⟨published, made, moved⟩ := publish?_of_isUsable index usable
        rw [List.filter_cons_of_pos usable, addressEntries,
          List.filterMap_cons_some made]
        exact .cons moved ih
      · have dropped := publish?_of_not_isUsable index
          (Bool.eq_false_iff.mpr usable)
        rw [List.filter_cons_of_neg usable, addressEntries,
          List.filterMap_cons_none dropped]
        exact ih

end Access

theorem Resolve.loadAddresses_tables (tables : PolicyTables)
    (kind : ListKind) :
    loadAddresses (m := Id) tables.reading kind =
      .loaded
        (Access.addressEntries
          (tables.addresses.filter fun entry => entry.kind == kind)
          (PathIndex.ofRules (tables.routes.filter RouteRule.isActive)))
        [] :=
  loadAddresses_of_ok kind rfl

/-- The entries that are published come from two subsequences of the table.  An
entry whose path is there and not blank stands in the one of its kind as often
as in the table, and no entry stands anywhere else.  Each list is that of its
subsequence, entry by entry under its public path. -/
theorem address_lists_part_the_table (tables : PolicyTables) :
    let index := PathIndex.ofRules (tables.routes.filter RouteRule.isActive)
    ∃ stored : ListKind → List AddressEntry,
      (∀ kind, (stored kind).Sublist tables.addresses) ∧
      (∀ kind entry, (stored kind).count entry =
        if entry.kind = kind ∧
            ∃ written, entry.path = some written ∧
              Text.isBlank written = false
        then tables.addresses.count entry else 0) ∧
      ∀ kind, ∃ published,
        Resolve.loadAddresses (m := Id) tables.reading kind =
          .loaded published [] ∧
        List.Forall₂ (AddressEntry.IsPublishedAs index) (stored kind)
          published := by
  intro index
  let ofKind (kind : ListKind) :=
    tables.addresses.filter fun entry => entry.kind == kind
  refine ⟨fun kind => (ofKind kind).filter AddressEntry.isUsable, ?_, ?_, ?_⟩
  · intro kind
    exact List.filter_sublist.trans List.filter_sublist
  · intro kind entry
    dsimp only [ofKind]
    rw [List.filter_filter]
    split
    · next belongs =>
        obtain ⟨ofKind, usable⟩ := belongs
        apply List.count_filter
        rw [AddressEntry.isUsable_iff.mpr usable, ofKind, beq_self_eq_true]
        rfl
    · next outside =>
        apply List.count_eq_zero.mpr
        intro member
        obtain ⟨_, both⟩ := List.mem_filter.mp member
        obtain ⟨usable, ofKind⟩ := Bool.and_eq_true_iff.mp both
        exact outside
          ⟨beq_iff_eq.mp ofKind, AddressEntry.isUsable_iff.mp usable⟩
  · intro kind
    exact ⟨_, Resolve.loadAddresses_tables tables kind,
      Access.forall₂_addressEntries index (ofKind kind)⟩

end GatewayPolicy
