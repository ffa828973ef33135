import GatewayPolicy.Proofs.Number.Integers
import GatewayPolicy.Proofs.Number.ShortestText
import GatewayPolicy.Proofs.Settings.Loading
import GatewayPolicy.Proofs.Toml.Doubles

/-!
# Numbers of a configuration

A number is kept as text and read back as a double.  A float comes back as it
was; an integer may be rounded, but it still reaches the same bounds, as far as
integers are doubles.
-/

set_option autoImplicit false

namespace GatewayPolicy

def Toml.Value.AtLeast (bound : Nat) : Toml.Value → Prop
  | .integer n => bound ≤ n.toInt
  | .float x => bound * (x.toRatio.2 : Int) ≤ x.toRatio.1
  | _ => False

namespace Settings

/-! ## Texts of numbers -/

section Bound

variable {bound : Nat}

/-- The text that is kept of a number is read as a number that reaches the same
bounds. -/
theorem exists_reading_of_number (positive : 0 < bound)
    (inside : bound ≤ 2 ^ 53) {value : Toml.Value}
    (canonical : value.Canonical) (number : valueKind? value = some .number) :
    ∃ text x, valueText? value = some text ∧ Numeral.read? text = some x ∧
      (bound ≤ x.toInt64.toInt ↔ value.AtLeast bound) := by
  cases canonical with
  | integer n =>
      refine ⟨toString n.toInt, _, rfl, Numeral.read?_toString_int n.toInt, ?_⟩
      exact Binary64.le_toInt64_ofDecimal_iff positive inside n.le_toInt
        n.toInt_lt
  | @float x canonical =>
      refine ⟨x.text, x, rfl, Binary64.read?_text canonical, ?_⟩
      exact Binary64.le_toInt64_iff positive (by omega) x
  | string | boolean | datetime | array | table => cases number

/-! ## Numbers of loaded settings -/

theorem exists_table_of_read {text : String} {settings : Settings}
    (loaded : read text = .ok settings) :
    ∃ table, Toml.read? text = some table ∧ ofTable table = .ok settings := by
  unfold read at loaded
  split at loaded
  · next table denoted => exact ⟨table, denoted, loaded⟩
  · cases loaded

theorem canonical_of_lastUnder {text key : String} {table : Toml.Table}
    {value : Toml.Value} (denoted : Toml.read? text = some table)
    (last : lastUnder key (keyedLeaves table) = some value) :
    value.Canonical := by
  obtain ⟨leaf, member, same⟩ :=
    List.mem_map.mp (mem_of_lastUnder_eq_some last)
  obtain ⟨_, rfl⟩ := Prod.mk.inj same
  cases Toml.canonical_of_read? denoted with
  | table canonical =>
      exact Toml.canonical_of_mem_leavesOfEntries table canonical leaf member

/-- The number under a key reaches a bound beyond the default exactly if the
last value that the text sets under the key does. -/
theorem le_number_iff {text key : String} {table : Toml.Table}
    {settings : Settings} {rule : SettingRule}
    (denoted : Toml.read? text = some table)
    (loaded : ofTable table = .ok settings)
    (registered : SettingRule.find? key = some rule)
    (number : rule.kind = .number) (positive : 0 < bound)
    (inside : bound ≤ 2 ^ 53)
    (beyond : (((Numeral.read? rule.default).map
      Binary64.toInt64).getD 0).toInt < bound) :
    bound ≤ (settings.number key).toInt ↔
      ∃ value, lastUnder key (keyedLeaves table) = some value ∧
        value.AtLeast bound := by
  obtain ⟨admitted, _⟩ := entered_of_ofTable loaded
  unfold Settings.number text?
  rw [get?_of_ofTable loaded, registered]
  cases last : lastUnder key (keyedLeaves table) with
  | none =>
      rw [Option.bind_none, Option.none_or, Option.map_some, Option.bind_some]
      constructor
      · intro reached
        omega
      · rintro ⟨_, ⟨⟩, _⟩
  | some value =>
      obtain ⟨other, found, kind⟩ :=
        admitted _ (mem_of_lastUnder_eq_some last)
      obtain rfl := Option.some.inj (registered.symm.trans found)
      rw [number] at kind
      obtain ⟨text, x, kept, reading, reached⟩ := exists_reading_of_number
        positive inside (canonical_of_lastUnder denoted last) kind
      rw [Option.bind_some, kept, Option.some_or, Option.bind_some, reading,
        Option.map_some, Option.getD_some, reached]
      simp

end Bound

end Settings

end GatewayPolicy
