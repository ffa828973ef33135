import GatewayPolicy.Proofs.Number.Decimals
import GatewayPolicy.Proofs.Text.Scanning
import GatewayPolicy.Proofs.Toml.Leaves

/-!
# The doubles of a document

Every float that a document sets is written in the one way that there is for
it.  Nothing is said of the items of arrays.
-/

set_option autoImplicit false

namespace GatewayPolicy.Toml

open Scanner (Yields)

/-- The floats that are reached through tables are canonical. -/
inductive Value.Canonical : Value → Prop where
  | string (s : String) : Canonical (.string s)
  | integer (n : Int64) : Canonical (.integer n)
  | float {x : Binary64} (canonical : x.IsCanonical) : Canonical (.float x)
  | boolean (b : Bool) : Canonical (.boolean b)
  | datetime (written : String) : Canonical (.datetime written)
  | array (items : List Value) : Canonical (.array items)
  | table {entries : List (String × Value)}
      (canonical : ∀ entry ∈ entries, Canonical entry.2) :
      Canonical (.table entries)

/-! ## Scalars -/

theorem yields_float : Yields Value.Canonical float := by
  intro cs value rest scanned
  unfold float at scanned
  generalize Numeral.takeSign cs = sign at scanned
  obtain ⟨_, _, scanned⟩ := Option.bind_eq_some_iff.mp scanned
  obtain ⟨_, _, scanned⟩ := Option.bind_eq_some_iff.mp scanned
  dsimp only at scanned
  split at scanned
  · cases scanned
  · cases scanned
    exact .float (Binary64.isCanonical_ofDecimal _ _ _)

theorem yields_namedFloat : Yields Value.Canonical namedFloat := by
  intro cs
  exact Yields.orElse (.word (.float trivial) "inf")
    (.word (.float trivial) "nan") _

theorem yields_radixInteger (radix : Nat) (isDigit : Char → Bool) :
    Yields Value.Canonical (radixInteger radix isDigit) := by
  intro cs value rest scanned
  obtain ⟨_, _, scanned⟩ := Option.bind_eq_some_iff.mp scanned
  obtain ⟨n, _, scanned⟩ := Option.bind_eq_some_iff.mp scanned
  cases scanned
  exact .integer n

theorem yields_integer : Yields Value.Canonical integer := by
  intro cs value rest scanned
  unfold integer at scanned
  split at scanned
  case h_4 =>
    obtain ⟨_, _, scanned⟩ := Option.bind_eq_some_iff.mp scanned
    obtain ⟨n, _, scanned⟩ := Option.bind_eq_some_iff.mp scanned
    cases scanned
    exact .integer n
  all_goals exact yields_radixInteger _ _ _ _ _ scanned

theorem yields_datetime : Yields Value.Canonical datetime := by
  intro cs value rest scanned
  unfold datetime at scanned
  dsimp only at scanned
  split at scanned
  all_goals
    obtain ⟨_, _, scanned⟩ := Option.bind_eq_some_iff.mp scanned
    cases scanned
    exact .datetime _

theorem yields_scalar : Yields Value.Canonical scalar := by
  intro cs value rest scanned
  unfold scalar at scanned
  split at scanned
  · cases scanned
  · split at scanned
    · exact Scanner.yields_map string .string _ _ _ scanned
    · split at scanned
      · exact yields_datetime.orElse
          (yields_float.orElse (yields_namedFloat.orElse yields_integer))
          _ _ _ scanned
      · exact Yields.orElse (.word (.boolean true) "true")
          (.orElse (.word (.boolean false) "false")
            yields_namedFloat) _ _ _ scanned

/-! ## Growing tables -/

inductive Node.Canonical : Node → Prop where
  | leaf {value : Value} (canonical : value.Canonical) :
      Canonical (.leaf value)
  | table {origin : Origin} {entries : List (String × Node)}
      (canonical : ∀ entry ∈ entries, Canonical entry.2) :
      Canonical (.table origin entries)
  | tables (earlier : List Value) (last : List (String × Node)) :
      Canonical (.tables earlier last)

def Tree.Canonical (tree : Tree) : Prop :=
  ∀ entry ∈ tree, entry.2.Canonical

mutual

theorem Node.canonical_toValue (node : Node) (canonical : node.Canonical) :
    node.toValue.Canonical := by
  match node with
  | .leaf value =>
      cases canonical with
      | leaf canonical =>
          rw [Node.toValue]
          exact canonical
  | .table origin entries =>
      cases canonical with
      | table canonical =>
          rw [Node.toValue]
          exact .table (canonical_treeValues entries canonical)
  | .tables earlier last =>
      rw [Node.toValue]
      exact .array _

theorem canonical_treeValues (tree : List (String × Node))
    (canonical : ∀ entry ∈ tree, entry.2.Canonical) :
    ∀ entry ∈ treeValues tree, entry.2.Canonical := by
  match tree with
  | [] =>
      rw [treeValues]
      exact nofun
  | (key, node) :: rest =>
      obtain ⟨here, later⟩ := List.forall_mem_cons.mp canonical
      rw [treeValues]
      exact List.forall_mem_cons.mpr
        ⟨node.canonical_toValue here, canonical_treeValues rest later⟩

end

theorem Node.Canonical.entries {origin : Origin}
    {entries : List (String × Node)}
    (canonical : (Node.table origin entries).Canonical) :
    ∀ entry ∈ entries, entry.2.Canonical := by
  cases canonical with
  | table canonical => exact canonical

namespace Tree

variable {tree : Tree} {key : String} {node : Node}

theorem Canonical.put (canonical : tree.Canonical) (new : node.Canonical) :
    (Tree.put key node tree).Canonical := by
  induction tree with
  | nil => exact List.forall_mem_singleton.mpr new
  | cons first rest ih =>
      obtain ⟨other, old⟩ := first
      obtain ⟨here, later⟩ := List.forall_mem_cons.mp canonical
      unfold Tree.put
      split
      · exact List.forall_mem_cons.mpr ⟨new, later⟩
      · exact List.forall_mem_cons.mpr ⟨here, ih later⟩

theorem Canonical.putLast (canonical : tree.Canonical)
    (new : node.Canonical) : (Tree.putLast key node tree).Canonical :=
  List.forall_mem_append.mpr
    ⟨fun entry member => canonical entry (List.mem_of_mem_filter member),
      List.forall_mem_singleton.mpr new⟩

theorem Canonical.lookup (canonical : tree.Canonical)
    (found : tree.lookup key = some node) : node.Canonical := by
  obtain ⟨before, after, listed, _⟩ := List.lookup_eq_some_iff.mp found
  have member : (key, node) ∈ tree := by simp [listed]
  exact canonical _ member

theorem Canonical.descend {origin : Origin}
    {change : Origin → Tree → Option Tree}
    (keeps : ∀ found inner changed, change found inner = some changed →
      inner.Canonical → changed.Canonical)
    (path : List String) {found : Origin} {changed : Tree}
    (run : Tree.descend origin change path found tree = some changed)
    (canonical : tree.Canonical) : changed.Canonical := by
  induction path generalizing found tree changed with
  | nil => exact keeps found tree changed run canonical
  | cons key rest ih =>
      unfold Tree.descend at run
      split at run
      · obtain ⟨inner, step, rfl⟩ := Option.map_eq_some_iff.mp run
        exact canonical.put (.table (ih step (List.forall_mem_nil _)))
      · cases run
      · next known =>
          split at run
          · cases run
          · obtain ⟨inner, step, rfl⟩ := Option.map_eq_some_iff.mp run
            exact canonical.put
              (.table (ih step (canonical.lookup known).entries))
      · obtain ⟨last, _, rfl⟩ := Option.map_eq_some_iff.mp run
        exact canonical.put (.tables _ last)

theorem Canonical.define {path : KeyPath} {value : Value} {changed : Tree}
    (new : value.Canonical) (run : Tree.define path value tree = some changed)
    (canonical : tree.Canonical) : changed.Canonical := by
  refine canonical.descend (fun found inner changed step inside => ?_) _ run
  split at step
  · cases step
    exact inside.put (.leaf new)
  · cases step

theorem Canonical.declareTable {path : KeyPath} {changed : Tree}
    (run : Tree.declareTable path tree = some changed)
    (canonical : tree.Canonical) : changed.Canonical := by
  refine canonical.descend (fun found inner changed step inside => ?_) _ run
  split at step
  · cases step
    exact inside.put (.table nofun)
  · next known =>
      cases step
      exact inside.putLast (.table (inside.lookup known).entries)
  · cases step

theorem Canonical.appendTable {path : KeyPath} {changed : Tree}
    (run : Tree.appendTable path tree = some changed)
    (canonical : tree.Canonical) : changed.Canonical := by
  refine canonical.descend (fun found inner changed step inside => ?_) _ run
  split at step
  · cases step
    exact inside.put (.tables _ _)
  · cases step
    exact inside.put (.tables _ _)
  · cases step

end Tree

theorem foldlM_keeps {σ ι : Type} (Good : σ → Prop)
    {step : σ → ι → Option σ} {Proper : ι → Prop}
    (keeps : ∀ state item next, Proper item → step state item = some next →
      Good state → Good next)
    {items : List ι} (proper : ∀ item ∈ items, Proper item) {first last : σ}
    (good : Good first) (run : items.foldlM step first = some last) :
    Good last := by
  induction items generalizing first with
  | nil =>
      cases run
      exact good
  | cons item rest ih =>
      obtain ⟨here, later⟩ := List.forall_mem_cons.mp proper
      rw [List.foldlM_cons] at run
      obtain ⟨next, one, run⟩ := Option.bind_eq_some_iff.mp run
      exact ih later (keeps first item next here one good) run

theorem Tree.canonical_nil : Tree.Canonical [] :=
  List.forall_mem_nil _

theorem Tree.canonical_ofEntries {entries : List (KeyPath × Value)}
    {table : Table} (canonical : ∀ entry ∈ entries, entry.2.Canonical)
    (built : Tree.ofEntries entries = some table) :
    (Value.table table).Canonical := by
  obtain ⟨tree, run, rfl⟩ := Option.map_eq_some_iff.mp built
  have grown : tree.Canonical :=
    foldlM_keeps Tree.Canonical
      (fun _ _ _ new step inside => inside.define new step)
      canonical Tree.canonical_nil run
  exact .table (canonical_treeValues tree grown)

/-! ## Values -/

section Values

variable {item : Scanner Value}

theorem yields_keyValue (yields : Yields Value.Canonical item) :
    Yields (fun entry => entry.2.Canonical) (keyValue item) := by
  intro cs entry rest scanned
  obtain ⟨_, _, scanned⟩ := Option.bind_eq_some_iff.mp scanned
  obtain ⟨_, _, scanned⟩ := Option.bind_eq_some_iff.mp scanned
  obtain ⟨⟨value, after⟩, found, scanned⟩ :=
    Option.bind_eq_some_iff.mp scanned
  cases scanned
  exact yields _ _ _ found

theorem yields_inlineEntries (yields : Yields Value.Canonical item)
    (count : Nat) :
    Yields (fun entries => ∀ entry ∈ entries, entry.2.Canonical)
      (inlineEntries item count) := by
  induction count with
  | zero => exact fun _ _ _ => nofun
  | succ count ih =>
      intro cs entries rest scanned
      obtain ⟨⟨entry, after⟩, first, scanned⟩ :=
        Option.bind_eq_some_iff.mp scanned
      have here := yields_keyValue yields _ _ _ first
      dsimp only at scanned
      split at scanned
      · cases scanned
        exact List.forall_mem_singleton.mpr here
      · have further : Yields
            (fun entries => ∀ entry ∈ entries, entry.2.Canonical)
            ((inlineEntries item count).map (entry :: ·)) :=
          ih.map fun _ later => List.forall_mem_cons.mpr ⟨here, later⟩
        exact further _ _ _ scanned
      · cases scanned

theorem yields_inlineTable (yields : Yields Value.Canonical item) :
    Yields Value.Canonical (inlineTable item) := by
  intro cs value rest scanned
  unfold inlineTable at scanned
  split at scanned
  · cases scanned
    exact .table nofun
  · obtain ⟨⟨entries, after⟩, found, scanned⟩ :=
      Option.bind_eq_some_iff.mp scanned
    obtain ⟨table, built, scanned⟩ := Option.bind_eq_some_iff.mp scanned
    cases scanned
    exact Tree.canonical_ofEntries
      (yields_inlineEntries yields _ _ _ _ found) built

end Values

theorem yields_value (depth : Nat) : Yields Value.Canonical (value depth) := by
  induction depth with
  | zero => exact yields_scalar
  | succ depth ih =>
      intro cs found rest scanned
      unfold value at scanned
      split at scanned
      · exact Scanner.yields_map _ .array _ _ _ scanned
      · exact yields_inlineTable ih _ _ _ scanned
      · exact yields_scalar _ _ _ scanned

/-! ## Documents -/

def Statement.Canonical : Statement → Prop
  | .entry _ value => value.Canonical
  | _ => True

theorem yields_header : Yields Statement.Canonical header := by
  intro cs found rest scanned
  unfold header at scanned
  split at scanned
  all_goals
    obtain ⟨_, _, scanned⟩ := Option.bind_eq_some_iff.mp scanned
    obtain ⟨_, _, scanned⟩ := Option.bind_eq_some_iff.mp scanned
    cases scanned
    trivial

theorem yields_statement : Yields Statement.Canonical statement := by
  have entries : Yields Statement.Canonical
      ((keyValue (value greatestDepth)).map fun entry =>
        .entry entry.1 entry.2) :=
    (yields_keyValue (yields_value greatestDepth)).map
      fun _ canonical => canonical
  intro cs found rest scanned
  unfold statement at scanned
  split at scanned
  · exact yields_header _ _ _ scanned
  · exact entries _ _ _ scanned

theorem canonical_of_statements {count : Nat} {cs : List Char}
    {found : List Statement} (scanned : statements count cs = some found) :
    ∀ statement ∈ found, statement.Canonical := by
  induction count generalizing cs found with
  | zero => cases scanned
  | succ count ih =>
      unfold statements at scanned
      split at scanned
      · cases scanned
        exact nofun
      · obtain ⟨⟨first, rest⟩, read, scanned⟩ :=
          Option.bind_eq_some_iff.mp scanned
        obtain ⟨_, _, scanned⟩ := Option.bind_eq_some_iff.mp scanned
        obtain ⟨further, later, scanned⟩ :=
          Option.bind_eq_some_iff.mp scanned
        cases scanned
        exact List.forall_mem_cons.mpr
          ⟨yields_statement _ _ _ read, ih later⟩

theorem Draft.canonical_add {draft next : Draft} {statement : Statement}
    (new : statement.Canonical) (step : draft.add statement = some next)
    (canonical : draft.tree.Canonical) : next.tree.Canonical := by
  cases statement with
  | table path =>
      obtain ⟨tree, run, rfl⟩ := Option.map_eq_some_iff.mp step
      exact canonical.declareTable run
  | arrayTable path =>
      obtain ⟨tree, run, rfl⟩ := Option.map_eq_some_iff.mp step
      exact canonical.appendTable run
  | entry path value =>
      obtain ⟨tree, run, rfl⟩ := Option.map_eq_some_iff.mp step
      exact canonical.descend
        (fun _ _ _ define inside => inside.define new define) _ run

theorem canonical_of_assemble {found : List Statement} {table : Table}
    (canonical : ∀ statement ∈ found, statement.Canonical)
    (built : assemble found = some table) : (Value.table table).Canonical := by
  obtain ⟨draft, run, rfl⟩ := Option.map_eq_some_iff.mp built
  have last : draft.tree.Canonical :=
    foldlM_keeps (fun draft => draft.tree.Canonical)
      (fun _ _ _ new step inside => Draft.canonical_add new step inside)
      canonical Tree.canonical_nil run
  exact .table (canonical_treeValues draft.tree last)

/-! ## Tables with their meaning -/

theorem canonical_of_moment? {value resolved : Value}
    (meaning : moment? value = some resolved) : resolved.Canonical := by
  unfold moment? at meaning
  split at meaning
  · split at meaning
    · cases meaning
      exact .datetime _
    · cases meaning
  · cases meaning

mutual

theorem canonical_of_resolve? (value : Value) (canonical : value.Canonical)
    {resolved : Value} (meaning : value.resolve? = some resolved) :
    resolved.Canonical := by
  match value with
  | .table entries =>
      cases canonical with
      | table canonical =>
          rw [Value.resolve?] at meaning
          split at meaning
          · exact canonical_of_moment? meaning
          · obtain ⟨table, found, rfl⟩ := Option.map_eq_some_iff.mp meaning
            exact .table (canonical_of_resolveEntries? entries canonical found)
  | .array items =>
      rw [Value.resolve?] at meaning
      obtain ⟨resolvedItems, _, rfl⟩ := Option.map_eq_some_iff.mp meaning
      exact .array resolvedItems
  | .string _ | .integer _ | .float _ | .boolean _ | .datetime _ =>
      cases meaning
      exact canonical

theorem canonical_of_resolveEntries? (entries : List (String × Value))
    (canonical : ∀ entry ∈ entries, entry.2.Canonical)
    {table : List (String × Value)}
    (meaning : resolveEntries? entries = some table) :
    ∀ entry ∈ table, entry.2.Canonical := by
  match entries with
  | [] =>
      cases meaning
      exact nofun
  | (key, value) :: rest =>
      obtain ⟨here, later⟩ := List.forall_mem_cons.mp canonical
      rw [resolveEntries?] at meaning
      obtain ⟨resolved, valueMeaning, meaning⟩ :=
        Option.bind_eq_some_iff.mp meaning
      obtain ⟨others, restMeaning, meaning⟩ :=
        Option.bind_eq_some_iff.mp meaning
      cases meaning
      have changed := canonical_of_resolve? value here valueMeaning
      exact Keyed.forall_update (fun _ => changed) key
        (canonical_of_resolveEntries? rest later restMeaning)

end

/-- The floats that a document sets are canonical. -/
theorem canonical_of_read? {text : String} {table : Table}
    (denoted : read? text = some table) : (Value.table table).Canonical := by
  obtain ⟨found, scanned, denoted⟩ := Option.bind_eq_some_iff.mp denoted
  obtain ⟨built, assembled, denoted⟩ := Option.bind_eq_some_iff.mp denoted
  cases canonical_of_assemble (canonical_of_statements scanned) assembled with
  | table canonical =>
      exact .table (canonical_of_resolveEntries? built canonical denoted)

mutual

theorem canonical_of_mem_leavesOfValue (value : Value)
    (canonical : value.Canonical) :
    ∀ leaf ∈ leavesOfValue value, leaf.value.Canonical := by
  match value with
  | .table entries =>
      cases canonical with
      | table canonical =>
          exact canonical_of_mem_leavesOfEntries entries canonical
  | .array _ | .string _ | .integer _ | .float _ | .boolean _ | .datetime _ =>
      exact List.forall_mem_singleton.mpr canonical

theorem canonical_of_mem_leavesOfEntries (entries : List (String × Value))
    (canonical : ∀ entry ∈ entries, entry.2.Canonical) :
    ∀ leaf ∈ leavesOfEntries entries, leaf.value.Canonical := by
  match entries with
  | [] => exact nofun
  | (name, value) :: rest =>
      obtain ⟨here, later⟩ := List.forall_mem_cons.mp canonical
      rw [leavesOfEntries]
      exact List.forall_mem_append.mpr
        ⟨List.forall_mem_map.mpr
          (canonical_of_mem_leavesOfValue value here),
          canonical_of_mem_leavesOfEntries rest later⟩

end

end GatewayPolicy.Toml
