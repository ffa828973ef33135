import GatewayPolicy.Proofs.Database.Keys

/-!
# Rows in the order of their keys

Where the keys of all rows are integers, the rows of a query ascend in the
lexicographic order of these integers, and strictly so where no two rows have
equal keys.  What is decoded from them ascends alike.
-/

set_option autoImplicit false

namespace GatewayPolicy.Database

variable {α β : Type}

def HasKeys (keys : List (α → Cell)) (row : α) (ids : List Int64) : Prop :=
  keys.map (fun key => key row) = ids.map .integer

def equalKeys (keys : List (α → Cell)) (a b : α) : Bool :=
  keys.all fun key => (key a).equals (key b)

/-- The integer that a cell holds, or 0 if it holds none. -/
def Cell.int64 : Cell → Int64
  | .integer n => n
  | _ => 0

def integerKeys (keys : List (α → Cell)) (row : α) : List Int64 :=
  keys.map fun key => (key row).int64

variable {keys : List (α → Cell)} {a b row : α} {ids others : List Int64}

theorem HasKeys.integerKeys_eq (holds : HasKeys keys row ids) :
    integerKeys keys row = ids := by
  calc integerKeys keys row
      = (keys.map fun key => key row).map Cell.int64 := by
        rw [List.map_map]
        rfl
    _ = (ids.map Cell.integer).map Cell.int64 := by rw [holds]
    _ = ids := by
        rw [List.map_map]
        exact List.map_id ids

theorem Cell.compare_integer (n m : Int64) :
    (Cell.integer n).compare (.integer m) = Ord.compare n.toInt m.toInt := by
  simp [Cell.compare, Cell.kindRank, Cell.compareRatio, Cell.ratio]

theorem compareBy_ne_gt_iff (left : HasKeys keys a ids)
    (right : HasKeys keys b others) :
    compareBy keys a b ≠ .gt ↔ ids ≤ others := by
  induction keys generalizing ids others with
  | nil =>
      obtain rfl := List.map_eq_nil_iff.mp left.symm
      obtain rfl := List.map_eq_nil_iff.mp right.symm
      exact ⟨fun _ => List.le_refl [], fun _ => nofun⟩
  | cons key rest ih =>
      obtain ⟨n, ns, rfl, first, later⟩ := List.map_eq_cons_iff.mp left.symm
      obtain ⟨m, ms, rfl, first', later'⟩ := List.map_eq_cons_iff.mp right.symm
      have split : compareBy (key :: rest) a b =
          (Ord.compare n.toInt m.toInt).then (compareBy rest a b) := by
        rw [← Cell.compare_integer, first, first']
        rfl
      rw [split, List.cons_le_cons_iff, ← ih later.symm later'.symm,
        Int64.lt_iff_toInt_lt, ← Int64.toInt_inj]
      rcases Int.lt_trichotomy n.toInt m.toInt with less | same | greater
      · rw [Int.compare_eq_lt.mpr less]
        simp [less]
      · rw [Int.compare_eq_eq.mpr same]
        simp [same]
      · rw [Int.compare_eq_gt.mpr greater]
        simp [Int.ne_of_gt greater, Int.not_lt.mpr (Int.le_of_lt greater)]

theorem pairwise_inOrder {rows : List α}
    (integers : ∀ row ∈ rows, ∃ ids, HasKeys keys row ids) :
    (inOrder keys rows).Pairwise fun a b =>
      integerKeys keys a ≤ integerKeys keys b := by
  -- sorting the rows sorts their integers, and those are ordered linearly
  have sorted : (inOrder keys rows).map (integerKeys keys) =
      (rows.map (integerKeys keys)).mergeSort fun ids others =>
        decide (ids ≤ others) := by
    refine List.map_mergeSort fun a member b member' => ?_
    obtain ⟨ids, left⟩ := integers a member
    obtain ⟨others, right⟩ := integers b member'
    rw [left.integerKeys_eq, right.integerKeys_eq, Bool.eq_iff_iff, bne_iff_ne,
      decide_eq_true_iff, compareBy_ne_gt_iff left right]
  have ascending : ((inOrder keys rows).map (integerKeys keys)).Pairwise
      fun ids others => decide (ids ≤ others) = true := by
    rw [sorted]
    refine List.pairwise_mergeSort (fun ids others more first next => ?_)
      (fun ids others => ?_) _
    · simp only [decide_eq_true_iff] at first next ⊢
      exact List.le_trans first next
    · simpa using List.le_total ids others
  exact (List.pairwise_map.mp ascending).imp of_decide_eq_true

theorem equalKeys_of_hasKeys (left : HasKeys keys a ids)
    (right : HasKeys keys b ids) : equalKeys keys a b = true := by
  refine List.all_eq_true.mpr fun key member => ?_
  have same : key a = key b :=
    List.map_inj_left.mp (left.trans right.symm) key member
  have integer : key a ∈ ids.map Cell.integer := by
    rw [← left]
    exact List.mem_map_of_mem member
  obtain ⟨n, _, holds⟩ := List.mem_map.mp integer
  rw [← same, ← holds]
  simp [Cell.equals, Cell.compare_integer]

theorem equalKeys_symm (equal : equalKeys keys a b = true) :
    equalKeys keys b a = true :=
  List.all_eq_true.mpr fun key member =>
    Cell.equals_symm (List.all_eq_true.mp equal key member)

/-- Values that tell the keys of their rows ascend strictly. -/
theorem pairwise_of_mapM_inOrder {decode : α → Except StoreFault β}
    {rows : List α} {values : List β} {idsOf : β → List Int64}
    (decoded : (inOrder keys rows).mapM decode = .ok values)
    (keyed : ∀ row value, decode row = .ok value →
      HasKeys keys row (idsOf value))
    (apart : rows.Pairwise fun a b => equalKeys keys a b = false) :
    values.Pairwise fun value other => idsOf value < idsOf other := by
  have perm : (inOrder keys rows).Perm rows := List.mergeSort_perm rows _
  have ascending : (inOrder keys rows).Pairwise fun a b =>
      integerKeys keys a ≤ integerKeys keys b := by
    refine pairwise_inOrder fun row member => ?_
    obtain ⟨value, _, row⟩ :=
      exists_value_of_mem_rows decoded (perm.mem_iff.mpr member)
    exact ⟨_, keyed _ value row⟩
  have distinct : (inOrder keys rows).Pairwise fun a b =>
      equalKeys keys a b = false := by
    refine (perm.pairwise_iff fun differ => ?_).mpr apart
    exact Bool.eq_false_iff.mpr fun same =>
      Bool.eq_false_iff.mp differ (equalKeys_symm same)
  refine pairwise_of_mapM_eq_ok decoded (ascending.and distinct) ?_
  rintro a b ⟨le, differ⟩ value other first next
  have left := keyed a value first
  have right := keyed b other next
  rw [left.integerKeys_eq, right.integerKeys_eq] at le
  refine Std.lt_of_le_of_ne le fun same => ?_
  rw [← same] at right
  exact Bool.eq_false_iff.mp differ (equalKeys_of_hasKeys left right)

end GatewayPolicy.Database
