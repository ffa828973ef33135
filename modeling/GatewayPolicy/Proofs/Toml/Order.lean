import GatewayPolicy.Proofs.Keyed.Lookup
import GatewayPolicy.Toml.Document

/-!
# The order of a table's entries

The table that a document denotes has its entries in ascending order of their
keys, and so has every table in it that is reached through tables.  Each key
therefore occurs once in its table.
-/

set_option autoImplicit false

namespace GatewayPolicy.Toml

/-- In a value that is a table all tables that are reached through tables are
in ascending order of their keys. -/
inductive Value.Ordered : Value → Prop where
  | table {entries : List (String × Value)} (sorted : Keyed.Sorted entries)
      (ordered : ∀ entry ∈ entries, Ordered entry.2) :
      Ordered (.table entries)
  | leaf {value : Value} (no_table : ∀ entries, value ≠ .table entries) :
      Ordered value

theorem Value.Ordered.insert {table : Table} {value : Value} (key : String)
    (ordered : (Value.table table).Ordered) (valueOrdered : value.Ordered) :
    (Value.table (Keyed.insert key value table)).Ordered := by
  cases ordered with
  | table sorted entries =>
      exact .table (Keyed.sorted_update sorted)
        (Keyed.forall_update (fun _ => valueOrdered) key entries)
  | leaf no_table => exact absurd rfl (no_table table)

theorem ordered_of_moment?_eq_some {value resolved : Value}
    (meaning : moment? value = some resolved) : resolved.Ordered := by
  unfold moment? at meaning
  split at meaning
  · split at meaning
    · obtain rfl := Option.some.inj meaning
      exact .leaf (fun _ => nofun)
    · cases meaning
  · cases meaning

mutual

theorem ordered_of_resolve?_eq_some (value : Value) {resolved : Value}
    (meaning : value.resolve? = some resolved) : resolved.Ordered := by
  match value with
  | .table entries =>
      rw [Value.resolve?] at meaning
      split at meaning
      · exact ordered_of_moment?_eq_some meaning
      · obtain ⟨table, found, rfl⟩ := Option.map_eq_some_iff.mp meaning
        exact ordered_of_resolveEntries?_eq_some entries found
  | .array items =>
      rw [Value.resolve?] at meaning
      obtain ⟨resolvedItems, _, rfl⟩ := Option.map_eq_some_iff.mp meaning
      exact .leaf (fun _ => nofun)
  | .string _ | .integer _ | .float _ | .boolean _ | .datetime _ =>
      obtain rfl := Option.some.inj meaning
      exact .leaf (fun _ => nofun)

theorem ordered_of_resolveEntries?_eq_some (entries : List (String × Value))
    {table : Table} (meaning : resolveEntries? entries = some table) :
    (Value.table table).Ordered := by
  match entries with
  | [] =>
      obtain rfl := Option.some.inj meaning
      exact .table List.Pairwise.nil nofun
  | (key, value) :: rest =>
      rw [resolveEntries?] at meaning
      obtain ⟨resolved, valueMeaning, meaning⟩ :=
        Option.bind_eq_some_iff.mp meaning
      obtain ⟨others, restMeaning, meaning⟩ :=
        Option.bind_eq_some_iff.mp meaning
      obtain rfl := Option.some.inj meaning
      exact (ordered_of_resolveEntries?_eq_some rest restMeaning).insert key
        (ordered_of_resolve?_eq_some value valueMeaning)

end

theorem ordered_of_read?_eq_some {text : String} {table : Table}
    (denoted : read? text = some table) : (Value.table table).Ordered := by
  unfold read? at denoted
  obtain ⟨_, _, denoted⟩ := Option.bind_eq_some_iff.mp denoted
  obtain ⟨tree, _, denoted⟩ := Option.bind_eq_some_iff.mp denoted
  exact ordered_of_resolveEntries?_eq_some tree denoted

end GatewayPolicy.Toml
