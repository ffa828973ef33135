import GatewayPolicy.Proofs.Database.Decoding
import GatewayPolicy.Proofs.Text.Utf8
import Mathlib.Data.List.TakeDrop

/-!
# Keys

Two cells are equal if they hold one and the same value; null holds none.  A
row enters a table only if its key is new there, so a database that was made
by changes has no two rows with equal keys in a table, and a condition that
only rows with one key can meet selects at most one row of it.
-/

set_option autoImplicit false

namespace GatewayPolicy.Database

/-! ## Equal cells -/

/-- What a cell holds; an integer and a real may hold the same number. -/
inductive Value where
  | number (q : Rat)
  | text (s : String)
  | malformed (s : MalformedText)
  | bytes (bytes : List UInt8)

namespace Cell

def value? : Cell → Option Value
  | null => none
  | text s => some (.text s)
  | malformed s => some (.malformed s)
  | blob bytes => some (.bytes bytes)
  | number => some (.number (mkRat number.ratio.1 number.ratio.2))

theorem ratio_den_ne_zero (cell : Cell) : cell.ratio.2 ≠ 0 := by
  cases cell with
  | real x =>
      cases x with
      | finite negative significand exponent =>
          exact Nat.ne_of_gt (Nat.pow_pos (by decide))
      | nan | infinite => exact Nat.one_ne_zero
  | null | integer | text | malformed | blob => exact Nat.one_ne_zero

theorem compareRatio_eq_iff (a b : Cell) :
    compareRatio a.ratio b.ratio = .eq ↔
      mkRat a.ratio.1 a.ratio.2 = mkRat b.ratio.1 b.ratio.2 := by
  rw [compareRatio, Std.compare_eq_iff_eq,
    Rat.mkRat_eq_iff a.ratio_den_ne_zero b.ratio_den_ne_zero]

theorem compareBytes_eq_iff (a b : List UInt8) :
    compareBytes a b = .eq ↔ a = b := by
  have inj : a.map UInt8.toNat = b.map UInt8.toNat ↔ a = b :=
    List.map_inj_right fun _ _ => UInt8.toNat_inj.mp
  rw [compareBytes, compareOfLessAndEq, ← inj]
  split
  · next less =>
    refine ⟨nofun, fun same => ?_⟩
    rw [same] at less
    exact absurd less (List.lt_irrefl _)
  · split
    · next same => exact ⟨fun _ => same, fun _ => rfl⟩
    · next differ => exact ⟨nofun, fun same => absurd same differ⟩

theorem compare_eq_iff (a b : Cell) :
    a.compare b = .eq ↔ a.value? = b.value? := by
  cases a with
  | null => cases b <;> simp [compare, kindRank, value?, ratio, compareRatio]
  | text s =>
      cases b with
      | text t =>
          simp [compare, value?,
            compareOfLessAndEq_eq_eq String.le_refl String.not_le]
      | malformed text =>
          simp [compare, value?, compareBytes_eq_iff,
            (text.bytes_ne_utf8 s).symm]
      | null | integer | real | blob => simp [compare, kindRank, value?]
  | malformed text =>
      cases b with
      | text s =>
          simp [compare, value?, compareBytes_eq_iff, text.bytes_ne_utf8 s]
      | malformed other =>
          simp [compare, value?, compareBytes_eq_iff,
            MalformedText.eq_iff_bytes]
      | null | integer | real | blob => simp [compare, kindRank, value?]
  | blob bytes =>
      cases b with
      | blob others => simp [compare, value?, compareBytes_eq_iff]
      | null | integer | real | text | malformed =>
          simp [compare, kindRank, value?]
  | integer | real =>
      cases b with
      | integer | real =>
          simp [compare, kindRank, value?, compareRatio_eq_iff]
      | null | text | malformed | blob => simp [compare, kindRank, value?]

theorem equals_iff {a b : Cell} :
    a.equals b = true ↔ ∃ value, a.value? = some value ∧
      b.value? = some value := by
  have holds : a ≠ null ↔ ∃ value, a.value? = some value := by
    cases a <;> simp [value?]
  rw [equals, Bool.and_eq_true, bne_iff_ne, beq_iff_eq, compare_eq_iff, holds]
  constructor
  · rintro ⟨⟨value, held⟩, same⟩
    exact ⟨value, held, same.symm.trans held⟩
  · rintro ⟨value, held, other⟩
    exact ⟨⟨value, held⟩, held.trans other.symm⟩

theorem equals_symm {a b : Cell} (same : a.equals b = true) :
    b.equals a = true := by
  obtain ⟨value, left, right⟩ := equals_iff.mp same
  exact equals_iff.mpr ⟨value, right, left⟩

theorem equals_trans {a b c : Cell} (first : a.equals b = true)
    (next : b.equals c = true) : a.equals c = true := by
  obtain ⟨value, left, middle⟩ := equals_iff.mp first
  obtain ⟨other, again, right⟩ := equals_iff.mp next
  obtain rfl : value = other := Option.some.inj (middle.symm.trans again)
  exact equals_iff.mpr ⟨value, left, right⟩

theorem equals_integer_iff {cell : Cell} {n m : Int64}
    (same : cell.equals (integer n) = true) :
    cell.equals (integer m) = true ↔ m = n := by
  constructor
  · intro also
    obtain ⟨value, left, right⟩ :=
      equals_iff.mp (equals_trans (equals_symm also) same)
    have numbers := Value.number.inj
      (Option.some.inj (left.trans right.symm))
    rw [Rat.mkRat_eq_iff (ratio_den_ne_zero _) (ratio_den_ne_zero _)]
      at numbers
    simpa [ratio, Int64.toInt_inj] using numbers
  · rintro rfl
    exact same

end Cell

/-! ## Rows told apart by their keys -/

variable {table : Table}

theorem sameKey_symm {a b : table.Record} (same : sameKey table a b = true) :
    sameKey table b a = true :=
  List.all_eq_true.mpr fun column inKey =>
    Cell.equals_symm (List.all_eq_true.mp same column inKey)

def DistinctKeys (records : List table.Record) : Prop :=
  records.Pairwise fun a b => sameKey table a b = false

theorem distinctKeys_cons {record : table.Record}
    {records : List table.Record} :
    DistinctKeys (record :: records) ↔
      (∀ other ∈ records, sameKey table record other = false) ∧
        DistinctKeys records :=
  List.pairwise_cons

theorem DistinctKeys.perm {records others : List table.Record}
    (distinct : DistinctKeys records) (perm : others.Perm records) :
    DistinctKeys others := by
  refine (perm.pairwise_iff fun differ => ?_).mpr distinct
  exact Bool.eq_false_iff.mpr fun same =>
    Bool.eq_false_iff.mp differ (sameKey_symm same)

theorem DistinctKeys.filter_eq_singleton {records : List table.Record}
    (distinct : DistinctKeys records) {record : table.Record}
    (member : record ∈ records) {picks : table.Record → Bool}
    (picked : picks record = true)
    (alike : ∀ other, picks other = true → sameKey table record other = true) :
    records.filter picks = [record] := by
  induction records with
  | nil => cases member
  | cons first rest ih =>
      obtain ⟨apart, distinct⟩ := distinctKeys_cons.mp distinct
      rcases List.mem_cons.mp member with rfl | later
      · rw [List.filter_cons_of_pos picked, List.filter_eq_nil_iff.mpr]
        intro other inside also
        exact Bool.eq_false_iff.mp (apart other inside) (alike other also)
      · rw [List.filter_cons_of_neg, ih distinct later]
        intro also
        exact Bool.eq_false_iff.mp (apart record later)
          (sameKey_symm (alike first also))

theorem DistinctKeys.filter_eq_singleton_of_refers {records : List table.Record}
    (distinct : DistinctKeys records) {key : table.Column}
    (single : table.key = [key]) {record : table.Record}
    (member : record ∈ records) {cell : Cell} {picks : table.Record → Bool}
    (picked : picks record = true)
    (refers : ∀ other, picks other = true → cell.equals (other key) = true) :
    records.filter picks = [record] := by
  refine distinct.filter_eq_singleton member picked fun other also => ?_
  have same := Cell.equals_trans (Cell.equals_symm (refers record picked))
    (refers other also)
  simpa [sameKey, single] using same

theorem DistinctKeys.eq_of_refers {records : List table.Record}
    (distinct : DistinctKeys records) {key : table.Column}
    (single : table.key = [key]) {record other : table.Record}
    (member : record ∈ records) (otherMember : other ∈ records) {cell : Cell}
    (refers : cell.equals (record key) = true)
    (also : cell.equals (other key) = true) : other = record := by
  have one : (records.filter fun other => cell.equals (other key)) = [record] :=
    distinct.filter_eq_singleton_of_refers single member refers
      fun _ same => same
  exact List.mem_singleton.mp (one ▸ List.mem_filter.mpr ⟨otherMember, also⟩)

/-! ## What a change can do -/

theorem refusal?_eq_none {rows : List (NumberedRow table)}
    {given : Option Int64} {record : table.Record}
    (accepted : refusal? table rows given record = none) :
    missingValue? table record = none ∧
      (∀ row ∈ rows, given ≠ some row.number) ∧
      ∀ row ∈ rows, sameKey table record row.record = false := by
  unfold refusal? at accepted
  split at accepted
  · cases accepted
  next complete =>
  split at accepted
  · cases accepted
  next newNumber =>
  split at accepted
  · cases accepted
  next newKey =>
  refine ⟨complete, fun row member taken => ?_, fun row member => ?_⟩
  · exact newNumber (List.any_eq_true.mpr ⟨row, member, beq_iff_eq.mpr taken⟩)
  · exact Bool.eq_false_iff.mpr fun same =>
      newKey (List.any_eq_true.mpr ⟨row, member, same⟩)

theorem place_perm (row : NumberedRow table)
    (rows : List (NumberedRow table)) :
    (place row rows).Perm (row :: rows) := by
  rw [place, List.span_eq_takeWhile_dropWhile]
  have whole := List.takeWhile_append_dropWhile
    (p := fun other : NumberedRow table => decide (other.number < row.number))
    (l := rows)
  exact List.perm_middle.trans (List.Perm.of_eq (congrArg _ whole))

namespace Contents

variable {db next : Contents}

/-- A row that enters is complete, and its key is new. -/
theorem insert_eq_ok {name : String} {rows : List (NumberedRow table)}
    {given : List (String × Cell)}
    (inserted : db.insert name table rows given = .ok next) :
    ∃ row : NumberedRow table,
      row.record = makeRecord table given ∧
      missingValue? table row.record = none ∧
      (∀ other ∈ rows, sameKey table row.record other.record = false) ∧
      next = db.set table (some (place row rows)) := by
  unfold insert at inserted
  split at inserted
  · cases inserted
  obtain ⟨number, _, inserted⟩ := exists_of_bind_eq_ok inserted
  dsimp only at inserted
  split at inserted
  · cases inserted
  next accepted =>
  obtain ⟨complete, _, newKey⟩ := refusal?_eq_none accepted
  exact ⟨_, rfl, complete, newKey, (Except.ok.inj inserted).symm⟩

theorem changeTable_eq_ok {name forbidden : String}
    {change :
      (table : Table) → List (NumberedRow table) → Except StoreFault Contents}
    (changed : db.changeTable name forbidden change = .ok next) :
    ∃ table rows, Table.ofName? name = some table ∧
      db.rows? table = some rows ∧ change table rows = .ok next := by
  unfold changeTable at changed
  split at changed
  · cases changed
  · cases changed
  next table _ named =>
  split at changed
  · cases changed
  next rows present => exact ⟨table, rows, named, present, changed⟩

/-! ## Changes keep keys distinct -/

def KeysDistinct (db : Contents) : Prop :=
  ∀ table records, db.rows table = .ok records → DistinctKeys records

theorem KeysDistinct.set (distinct : db.KeysDistinct)
    {rows : Option (List (NumberedRow table))}
    (new : ∀ present, rows = some present →
      DistinctKeys (present.map NumberedRow.record)) :
    (db.set table rows).KeysDistinct := by
  intro other records read
  by_cases same : other = table
  · subst same
    rw [Contents.rows, rows?_set_self] at read
    cases rows with
    | none => cases read
    | some present =>
        rw [← Except.ok.inj read]
        exact new present rfl
  · rw [Contents.rows, rows?_set_of_ne db table other same] at read
    exact distinct other records read

theorem KeysDistinct.of_rows? (distinct : db.KeysDistinct)
    {rows : List (NumberedRow table)} (present : db.rows? table = some rows) :
    DistinctKeys (rows.map NumberedRow.record) :=
  distinct table _ (by rw [Contents.rows, present])

theorem KeysDistinct.ensureSchema (distinct : db.KeysDistinct) :
    db.ensureSchema.KeysDistinct := by
  unfold Contents.ensureSchema
  generalize Table.all = tables
  induction tables generalizing db with
  | nil => exact distinct
  | cons table rest ih =>
      refine ih (distinct.set fun present whole => ?_)
      cases held : db.rows? table with
      | none =>
          rw [held] at whole
          rw [← Option.some.inj whole]
          exact List.Pairwise.nil
      | some rows =>
          rw [held] at whole
          rw [← Option.some.inj whole]
          exact distinct.of_rows? held

theorem KeysDistinct.apply (distinct : db.KeysDistinct) {change : Change}
    (applied : db.apply change = .ok next) : next.KeysDistinct := by
  cases change with
  | insert name given =>
      obtain ⟨table, rows, _, present, inserted⟩ := changeTable_eq_ok applied
      obtain ⟨row, _, _, newKey, rfl⟩ := insert_eq_ok inserted
      refine distinct.set fun placed whole => ?_
      obtain rfl := Option.some.inj whole
      refine DistinctKeys.perm ?_ ((place_perm row rows).map _)
      refine distinctKeys_cons.mpr ⟨?_, distinct.of_rows? present⟩
      exact List.forall_mem_map.mpr newKey
  | clear name =>
      obtain ⟨table, rows, _, _, cleared⟩ := changeTable_eq_ok applied
      rw [← Except.ok.inj cleared]
      refine distinct.set fun present whole => ?_
      rw [← Option.some.inj whole]
      exact List.Pairwise.nil
  | drop name =>
      obtain ⟨table, rows, _, _, dropped⟩ := changeTable_eq_ok applied
      rw [← Except.ok.inj dropped]
      exact distinct.set nofun
  | ensureSchema =>
      rw [← Except.ok.inj applied]
      exact distinct.ensureSchema

/-- Every run of changes, the refused ones among them. -/
theorem KeysDistinct.applyAll (distinct : db.KeysDistinct)
    (changes : List Change) : (db.applyAll changes).2.KeysDistinct := by
  induction changes generalizing db with
  | nil => exact distinct
  | cons change rest ih =>
      unfold Contents.applyAll
      cases applied : db.apply change with
      | error fault => exact ih distinct
      | ok next => exact ih (distinct.apply applied)

theorem keysDistinct_blank : blank.KeysDistinct := by
  intro table records read
  cases table <;> cases read

theorem keysDistinct_empty : empty.KeysDistinct :=
  keysDistinct_blank.ensureSchema

end Contents

end GatewayPolicy.Database
