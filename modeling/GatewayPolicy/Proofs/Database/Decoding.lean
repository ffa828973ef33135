import GatewayPolicy.Database.Query
import Mathlib.Data.List.Perm.Basic

/-!
# Decoded rows

A query that succeeds has decoded every row it selected, in order, and a row
that decodes has a cell of the right kind in every column.
-/

set_option autoImplicit false

namespace GatewayPolicy.Database

variable {α β : Type}

theorem exists_of_bind_eq_ok {first : Except StoreFault α}
    {next : α → Except StoreFault β} {result : β}
    (succeeded : (first >>= next) = .ok result) :
    ∃ value, first = .ok value ∧ next value = .ok result := by
  cases first with
  | error fault => cases succeeded
  | ok value => exact ⟨value, rfl, succeeded⟩

theorem map_eq_of_mapM_eq_ok {decode : α → Except StoreFault β}
    {rows : List α} {values : List β}
    (decoded : rows.mapM decode = .ok values) :
    rows.map decode = values.map .ok := by
  induction rows generalizing values with
  | nil =>
      obtain rfl : [] = values := Except.ok.inj decoded
      rfl
  | cons row rest ih =>
      rw [List.mapM_cons] at decoded
      obtain ⟨value, here, decoded⟩ := exists_of_bind_eq_ok decoded
      obtain ⟨others, later, decoded⟩ := exists_of_bind_eq_ok decoded
      obtain rfl : value :: others = values := Except.ok.inj decoded
      rw [List.map_cons, List.map_cons, here, ih later]

theorem length_eq_of_mapM_eq_ok {decode : α → Except StoreFault β}
    {rows : List α} {values : List β}
    (decoded : rows.mapM decode = .ok values) :
    values.length = rows.length := by
  have lengths := congrArg List.length (map_eq_of_mapM_eq_ok decoded)
  rw [List.length_map, List.length_map] at lengths
  exact lengths.symm

theorem exists_row_of_mem_values {decode : α → Except StoreFault β}
    {rows : List α} {values : List β}
    (decoded : rows.mapM decode = .ok values) {value : β}
    (member : value ∈ values) : ∃ row ∈ rows, decode row = .ok value := by
  have present : .ok value ∈ rows.map decode := by
    rw [map_eq_of_mapM_eq_ok decoded]
    exact List.mem_map_of_mem member
  exact List.mem_map.mp present

theorem exists_value_of_mem_rows {decode : α → Except StoreFault β}
    {rows : List α} {values : List β}
    (decoded : rows.mapM decode = .ok values) {row : α}
    (member : row ∈ rows) : ∃ value ∈ values, decode row = .ok value := by
  have present : decode row ∈ values.map .ok := by
    rw [← map_eq_of_mapM_eq_ok decoded]
    exact List.mem_map_of_mem member
  obtain ⟨value, inside, same⟩ := List.mem_map.mp present
  exact ⟨value, inside, same.symm⟩

theorem countP_of_mapM_eq_ok {decode : α → Except StoreFault β}
    {rows : List α} {values : List β}
    (decoded : rows.mapM decode = .ok values) {p : α → Bool} {q : β → Bool}
    (told : ∀ row ∈ rows, ∀ value, decode row = .ok value → q value = p row) :
    values.countP q = rows.countP p := by
  let r : Except StoreFault β → Bool := fun result => result.toOption.any q
  calc values.countP q
      = (values.map .ok).countP r := by
        rw [List.countP_map]
        rfl
    _ = (rows.map decode).countP r := by rw [map_eq_of_mapM_eq_ok decoded]
    _ = rows.countP p := by
        rw [List.countP_map]
        refine List.countP_congr fun row member => ?_
        obtain ⟨value, _, same⟩ := exists_value_of_mem_rows decoded member
        simp [r, same, Except.toOption, told row member value same]

/-- What rows are to each other in pairs, their values are too, if it can be
told of the values. -/
theorem pairwise_of_mapM_eq_ok {decode : α → Except StoreFault β}
    {rows : List α} {values : List β} {R : α → α → Prop} {S : β → β → Prop}
    (decoded : rows.mapM decode = .ok values) (ordered : rows.Pairwise R)
    (told : ∀ a b, R a b → ∀ value other,
      decode a = .ok value → decode b = .ok other → S value other) :
    values.Pairwise S := by
  have results : (rows.map decode).Pairwise fun first next =>
      ∀ value other, first = .ok value → next = .ok other → S value other :=
    List.pairwise_map.mpr (ordered.imp fun {a b} => told a b)
  rw [map_eq_of_mapM_eq_ok decoded] at results
  exact (List.pairwise_map.mp results).imp fun both => both _ _ rfl rfl

theorem perm_of_mapM_eq_ok {decode : α → Except StoreFault β}
    {rows others : List α} {values otherValues : List β}
    (decoded : rows.mapM decode = .ok values)
    (decodedOthers : others.mapM decode = .ok otherValues)
    (perm : rows.Perm others) : values.Perm otherValues := by
  have results := perm.map decode
  rw [map_eq_of_mapM_eq_ok decoded, map_eq_of_mapM_eq_ok decodedOthers]
    at results
  exact (List.map_perm_map_iff fun _ _ => Except.ok.inj).mp results

/-! ## Columns -/

theorem Selected.int64_eq_ok {column : Selected} {n : Int64}
    (decoded : column.int64 = .ok n) : column.cell = .integer n := by
  unfold Selected.int64 at decoded
  split at decoded
  · next m holds =>
      obtain rfl : m = n := Except.ok.inj decoded
      exact holds
  · cases decoded

theorem kind_of_decodeAddresses {kind : ListKind}
    {row : Table.Record .address × Table.Record .api} {entry : AddressEntry}
    (decoded : decodeAddresses kind row = .ok entry) : entry.kind = kind := by
  unfold decodeAddresses at decoded
  iterate 6 obtain ⟨_, _, decoded⟩ := exists_of_bind_eq_ok decoded
  obtain rfl := Except.ok.inj decoded
  rfl

theorem decodeBinding_eq_ok {bound : BoundLimit} {binding : LimitBinding}
    (decoded : decodeBinding bound = .ok binding) :
    bound.pair .policyId = .integer binding.policyId ∧
      bound.api .apiId = .integer binding.apiId := by
  unfold decodeBinding at decoded
  obtain ⟨policyId, policy, decoded⟩ := exists_of_bind_eq_ok decoded
  iterate 3 obtain ⟨_, _, decoded⟩ := exists_of_bind_eq_ok decoded
  obtain ⟨apiId, api, decoded⟩ := exists_of_bind_eq_ok decoded
  iterate 6 obtain ⟨_, _, decoded⟩ := exists_of_bind_eq_ok decoded
  obtain rfl := Except.ok.inj decoded
  exact ⟨Selected.int64_eq_ok policy, Selected.int64_eq_ok api⟩

end GatewayPolicy.Database
