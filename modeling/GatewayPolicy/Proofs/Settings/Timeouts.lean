import GatewayPolicy.Proofs.Number.ExactIntegers
import GatewayPolicy.Proofs.Store.Opening
import Mathlib

/-!
# Timeouts written as integers

An integer of a configuration is kept as its decimal text, whatever its size,
but it is read back as a double.  So the number of a setting is the integer that
was written only if a double keeps it, and a positive timeout is in force as it
was written under the same condition.
-/

set_option autoImplicit false

namespace GatewayPolicy

open Settings (Admitted keyedLeaves lastUnder)

namespace Settings

/-! ## Integers of loaded settings -/

theorem exists_read_of_admitted {text : String} {table : Toml.Table}
    (denoted : Toml.read? text = some table)
    (admitted : ∀ leaf ∈ keyedLeaves table, Admitted leaf) :
    ∃ settings, read text = .ok settings ∧
      Entered (keyedLeaves table) empty settings := by
  obtain ⟨settings, loaded, entered⟩ := exists_ofTable_of_admitted admitted
  refine ⟨settings, ?_, entered⟩
  simp only [read, denoted, loaded]

section Integer

variable {leaves : List KeyedLeaf} {settings : Settings} {key : String}
  {n : Int64}

theorem number_of_integer (entered : Entered leaves empty settings)
    (last : lastUnder key leaves = some (.integer n)) :
    settings.number key =
      (Binary64.ofDecimal (decide (n.toInt < 0)) n.toInt.natAbs 0).toInt64 := by
  have kept : settings.get? key = some (toString n.toInt) := by
    rw [entered.texts key, last]
    rfl
  rw [number, text?, kept, Option.some_or, Option.bind_some,
    Numeral.read?_toString_int, Option.map_some, Option.getD_some]

theorem number_eq_iff (entered : Entered leaves empty settings)
    (last : lastUnder key leaves = some (.integer n)) :
    settings.number key = n ↔ Binary64.IsKept n := by
  rw [number_of_integer entered last]
  exact Binary64.toInt64_ofDecimal_eq_iff n

/-- Rounding makes no positive integer less than one. -/
theorem number_pos_iff (entered : Entered leaves empty settings)
    (last : lastUnder key leaves = some (.integer n)) :
    0 < settings.number key ↔ 0 < n := by
  have zero : (0 : Int64).toInt = 0 := rfl
  have reached := @Binary64.le_toInt64_ofDecimal_iff 1 one_pos (by decide)
    n.toInt n.le_toInt n.toInt_lt
  rw [← number_of_integer entered last] at reached
  rw [Int64.lt_iff_toInt_lt, Int64.lt_iff_toInt_lt, zero]
  omega

end Integer

end Settings

/-! ## Timeouts -/

theorem toNat_timeoutOfNumber_eq_iff {number n : Int64}
    (positive : 0 < number) :
    ((Settings.timeoutOfNumber number).toNat : Int) = n.toInt ↔
      number = n := by
  have zero : (0 : Int64).toInt = 0 := rfl
  rw [toNat_timeoutOfNumber positive, ← Int64.toInt_inj]
  rw [Int64.lt_iff_toInt_lt, zero] at positive
  omega

/-- A configuration without faults whose last value under the key of the timeout
is an integer is loaded.  Its number is that integer, and so is its timeout if
the integer is positive, exactly if a double keeps the integer. -/
theorem integer_timeout_kept_iff (text : String) (table : Toml.Table)
    (n : Int64) (denoted : Toml.read? text = some table)
    (admitted : ∀ leaf ∈ keyedLeaves table, Admitted leaf)
    (last : lastUnder timeoutKey (keyedLeaves table) = some (.integer n)) :
    ∃ settings, Settings.read text = .ok settings ∧
      (settings.number timeoutKey = n ↔ Binary64.IsKept n) ∧
      (0 < n → ((settings.store.queryTimeoutMs.toNat : Int) = n.toInt ↔
        Binary64.IsKept n)) := by
  obtain ⟨settings, loaded, entered⟩ :=
    Settings.exists_read_of_admitted denoted admitted
  have number := Settings.number_eq_iff entered last
  refine ⟨settings, loaded, number, fun written => ?_⟩
  have positive := (Settings.number_pos_iff entered last).mpr written
  rw [← number]
  exact toNat_timeoutOfNumber_eq_iff positive

/-- The greatest integer, written in hexadecimal, is read as two to the 63rd and
cut back to what it was. -/
theorem greatest_timeout_kept :
    let text := "storage.query_timeout_ms = 0x7fff_ffff_ffff_ffff\n"
    let table : Toml.Table :=
      [("storage", .table [("query_timeout_ms",
        .integer 9223372036854775807)])]
    Toml.read? text = some table ∧
    (∀ leaf ∈ keyedLeaves table, Admitted leaf) ∧
    lastUnder timeoutKey (keyedLeaves table) =
      some (.integer 9223372036854775807) ∧
    ∃ settings, Settings.read text = .ok settings ∧
      settings.number timeoutKey = 9223372036854775807 ∧
      (settings.store.queryTimeoutMs.toNat : Int) = 9223372036854775807 := by
  intro text table
  have denoted : Toml.read? text = some table := by
    -- values have no decidable equality, so the reader itself is evaluated
    dsimp only [text, table]
    cbv
  have admitted : ∀ leaf ∈ keyedLeaves table, Admitted leaf :=
    List.forall_mem_singleton.mpr ⟨_, rfl, rfl⟩
  have last : lastUnder timeoutKey (keyedLeaves table) =
      some (.integer 9223372036854775807) := rfl
  have kept : Binary64.IsKept 9223372036854775807 := Or.inr rfl
  obtain ⟨settings, loaded, number, timeout⟩ := integer_timeout_kept_iff text
    table 9223372036854775807 denoted admitted last
  exact ⟨denoted, admitted, last, settings, loaded, number.mpr kept,
    (timeout (by decide)).mpr kept⟩

/-- The least positive integer that no double holds is rounded down.  Its text
is kept, but neither the number nor the timeout is the integer that was
written. -/
theorem odd_timeout_is_rounded :
    let text := "[storage]\nquery_timeout_ms = 9007199254740993\n"
    let table : Toml.Table :=
      [("storage", .table [("query_timeout_ms", .integer 9007199254740993)])]
    let settings : Settings :=
      { values := [("storage.query_timeout_ms", "9007199254740993")] }
    Toml.read? text = some table ∧
    lastUnder timeoutKey (keyedLeaves table) =
      some (.integer 9007199254740993) ∧
    Settings.read text = .ok settings ∧
    settings.number timeoutKey = 9007199254740992 ∧
    settings.store.queryTimeoutMs = 9007199254740992 ∧
    ¬(settings.number timeoutKey = 9007199254740993 ∧
      settings.store.queryTimeoutMs = 9007199254740993) := by
  intro text table settings
  have denoted : Toml.read? text = some table := by
    dsimp only [text, table]
    cbv
  have number : settings.number timeoutKey = 9007199254740992 := by
    decide +kernel
  have timeout : settings.store.queryTimeoutMs = 9007199254740992 := by
    decide +kernel
  refine ⟨denoted, rfl, ?_, number, timeout, ?_⟩
  · exact eq_ok_of_toOption (by decide +kernel)
  · rw [number]
    decide

end GatewayPolicy
