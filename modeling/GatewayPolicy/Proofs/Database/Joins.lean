import GatewayPolicy.Proofs.Database.Ascending
import GatewayPolicy.Proofs.Database.Columns
import Mathlib.Data.List.Forall2

/-!
# Rows that are joined once

A query selects rows of one table and joins them to others.  Where each selected
row is joined to one row only, the load gives exactly one value for each of
them, in the order of the keys; if any of them cannot be decoded, the load fails
as a whole.
-/

set_option autoImplicit false

namespace GatewayPolicy.Database

/-- The load gives one value for each of the rows, all of them in ascending
order; where a row does not fit, it gives no value at all. -/
structure LoadsExactly {ρ β : Type} (rows : List ρ) (rowFits : ρ → Prop)
    (reads : ρ → β → Prop) (precedes : β → β → Prop)
    (loaded : Except StoreFault (List β)) : Prop where
  one_each : (∀ row ∈ rows, rowFits row) →
    ∃ values each, loaded = .ok values ∧ values.Perm each ∧
      List.Forall₂ reads rows each ∧ values.Pairwise precedes
  no_part : (∃ row ∈ rows, ¬rowFits row) →
    ∃ reason, loaded = .error (.mapping reason)

variable {ρ α β : Type} {join : ρ → List α} {decode : α → Except StoreFault β}
  {rowFits : ρ → Prop} {reads : ρ → β → Prop}

theorem exists_values {rows : List α}
    (decodes : ∀ row ∈ rows, ∃ value, decode row = .ok value) :
    ∃ values, rows.mapM decode = .ok values := by
  induction rows with
  | nil => exact ⟨[], rfl⟩
  | cons row rest ih =>
      obtain ⟨value, here⟩ := decodes row List.mem_cons_self
      obtain ⟨values, later⟩ :=
        ih fun other member => decodes other (List.mem_cons_of_mem _ member)
      refine ⟨value :: values, ?_⟩
      rw [List.mapM_cons, here, later]
      rfl

theorem forall₂_of_joined_once {rows : List ρ} {each : List β}
    (once : ∀ row ∈ rows, ∃ joined, join row = [joined])
    (gives : ∀ row, ∀ joined ∈ join row, ∀ value,
      decode joined = .ok value → reads row value)
    (decoded : (rows.flatMap join).mapM decode = .ok each) :
    List.Forall₂ reads rows each := by
  induction rows generalizing each with
  | nil =>
      obtain rfl : [] = each := Except.ok.inj decoded
      exact .nil
  | cons row rest ih =>
      obtain ⟨joined, only⟩ := once row List.mem_cons_self
      have inside : joined ∈ join row := only ▸ List.mem_singleton_self joined
      rw [List.flatMap_cons, only, List.singleton_append, List.mapM_cons]
        at decoded
      obtain ⟨value, here, decoded⟩ := exists_of_bind_eq_ok decoded
      obtain ⟨others, later, decoded⟩ := exists_of_bind_eq_ok decoded
      obtain rfl : value :: others = each := Except.ok.inj decoded
      exact .cons (gives row joined inside value here)
        (ih (fun other member => once other (List.mem_cons_of_mem _ member))
          later)

/-- A query that joins each selected row once, to a row that tells whether it
fits and what it reads as. -/
theorem loadsExactly_of_joined_once {keys : List (α → Cell)}
    (idsOf : β → List Int64) {precedes : β → β → Prop} {rows : List ρ}
    (once : ∀ row ∈ rows, ∃ joined, join row = [joined])
    (fits_iff : ∀ row, rowFits row ↔
      ∃ joined ∈ join row, ∃ value, decode joined = .ok value)
    (gives : ∀ row, ∀ joined ∈ join row, ∀ value,
      decode joined = .ok value → reads row value)
    (apart : rows.Pairwise fun row other =>
      ∀ a ∈ join row, ∀ b ∈ join other, equalKeys keys a b = false)
    (keyed : ∀ joined value, decode joined = .ok value →
      HasKeys keys joined (idsOf value))
    (fails : ∀ joined, FailsByMapping (decode joined))
    (ascends : ∀ value other, idsOf value < idsOf other →
      precedes value other) :
    LoadsExactly rows rowFits reads precedes
      ((inOrder keys (rows.flatMap join)).mapM decode) where
  one_each := by
    intro fit
    have decodes : ∀ joined ∈ rows.flatMap join,
        ∃ value, decode joined = .ok value := by
      intro joined member
      obtain ⟨row, ofRow, inside⟩ := List.mem_flatMap.mp member
      obtain ⟨one, only⟩ := once row ofRow
      obtain ⟨other, also, value⟩ := (fits_iff row).mp (fit row ofRow)
      rw [only, List.mem_singleton] at inside also
      rwa [inside, ← also]
    have distinct : (rows.flatMap join).Pairwise fun a b =>
        equalKeys keys a b = false := by
      refine List.pairwise_flatMap.mpr ⟨fun row ofRow => ?_, apart⟩
      obtain ⟨one, only⟩ := once row ofRow
      rw [only]
      exact List.pairwise_singleton _ one
    have perm : (inOrder keys (rows.flatMap join)).Perm (rows.flatMap join) :=
      List.mergeSort_perm _ _
    obtain ⟨each, decodedEach⟩ := exists_values decodes
    obtain ⟨values, decoded⟩ := exists_values fun joined member =>
      decodes joined (perm.mem_iff.mp member)
    exact ⟨values, each, decoded, perm_of_mapM_eq_ok decoded decodedEach perm,
      forall₂_of_joined_once once gives decodedEach,
      (pairwise_of_mapM_inOrder decoded keyed distinct).imp (ascends _ _)⟩
  no_part := by
    rintro ⟨row, member, misfit⟩
    obtain ⟨joined, only⟩ := once row member
    have inside : joined ∈ join row := only ▸ List.mem_singleton_self joined
    have selected : joined ∈ inOrder keys (rows.flatMap join) :=
      List.mem_mergeSort.mpr (List.mem_flatMap.mpr ⟨row, member, inside⟩)
    cases loaded : (inOrder keys (rows.flatMap join)).mapM decode with
    | ok values =>
        obtain ⟨value, _, decoded⟩ := exists_value_of_mem_rows loaded selected
        exact absurd ((fits_iff row).mpr ⟨joined, inside, value, decoded⟩)
          misfit
    | error fault =>
        obtain ⟨reason, rfl⟩ := FailsByMapping.mapM fails _ fault loaded
        exact ⟨reason, rfl⟩

theorem flatMap_filter_of_joined {rows : List ρ} {selected : ρ → Bool}
    (taken : ∀ row ∈ rows, ∀ joined ∈ join row, selected row = true) :
    (rows.filter selected).flatMap join = rows.flatMap join := by
  induction rows with
  | nil => rfl
  | cons row rest ih =>
      have later := ih fun other member =>
        taken other (List.mem_cons_of_mem _ member)
      cases here : selected row with
      | true =>
          rw [List.filter_cons_of_pos here, List.flatMap_cons,
            List.flatMap_cons, later]
      | false =>
          have none : join row = [] :=
            List.eq_nil_iff_forall_not_mem.mpr fun joined member =>
              Bool.eq_false_iff.mp here (taken row List.mem_cons_self _ member)
          rw [List.filter_cons_of_neg (Bool.eq_false_iff.mp here), later,
            List.flatMap_cons, none, List.nil_append]

end GatewayPolicy.Database
