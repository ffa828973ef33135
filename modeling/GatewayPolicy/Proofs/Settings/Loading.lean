import GatewayPolicy.Proofs.Settings.DottedKeys
import GatewayPolicy.Proofs.Toml.Leaves

/-!
# What loading settings comes to

Loading walks a table and enters one leaf after the other under its dotted key.
It succeeds exactly if every leaf is admitted, and the settings then hold for
each key the text of the last leaf under it.  Otherwise the first leaf that is
not admitted is refused.
-/

set_option autoImplicit false

namespace GatewayPolicy.Settings

abbrev KeyedLeaf := String × Toml.Value

/-- The leaves of a table, depth first, each under its dotted key. -/
def keyedLeaves (table : Toml.Table) : List KeyedLeaf :=
  (Toml.leavesOfEntries table).map fun leaf =>
    (dottedKey leaf.names, leaf.value)

def lastUnder (key : String) (leaves : List KeyedLeaf) : Option Toml.Value :=
  Keyed.find? key leaves.reverse

def valueKind? (value : Toml.Value) : Option SettingKind :=
  (leafText? value).map Prod.fst

def valueText? (value : Toml.Value) : Option String :=
  (leafText? value).map Prod.snd

/-- The key is registered, and the value is of the registered kind. -/
def Admitted (leaf : KeyedLeaf) : Prop :=
  ∃ rule, SettingRule.find? leaf.1 = some rule ∧
    valueKind? leaf.2 = some rule.kind

inductive Refused : KeyedLeaf → SettingsFault → Prop where
  | unknownKey {key : String} {value : Toml.Value}
      (unregistered : SettingRule.find? key = none) :
      Refused (key, value) (.unknownKey key)
  | kindMismatch {key : String} {value : Toml.Value} {rule : SettingRule}
      (registered : SettingRule.find? key = some rule)
      (other : valueKind? value ≠ some rule.kind) :
      Refused (key, value) (.kindMismatch key rule.kind)

/-! ## One leaf -/

theorem exists_valueText?_of_admitted {leaf : KeyedLeaf}
    (admitted : Admitted leaf) : ∃ text, valueText? leaf.2 = some text := by
  obtain ⟨rule, _, kind⟩ := admitted
  obtain ⟨pair, found, _⟩ := Option.map_eq_some_iff.mp kind
  exact ⟨pair.2, by rw [valueText?, found, Option.map_some]⟩

theorem acceptLeaf_of_admitted {leaf : KeyedLeaf} (admitted : Admitted leaf) :
    ∃ text, valueText? leaf.2 = some text ∧
      acceptLeaf leaf.1 leaf.2 = .ok text := by
  obtain ⟨rule, registered, kind⟩ := admitted
  obtain ⟨⟨_, text⟩, found, rfl⟩ := Option.map_eq_some_iff.mp kind
  refine ⟨text, by rw [valueText?, found, Option.map_some], ?_⟩
  simp only [acceptLeaf, registered, found, if_true]

theorem acceptLeaf_of_refused {leaf : KeyedLeaf} {fault : SettingsFault}
    (refused : Refused leaf fault) :
    acceptLeaf leaf.1 leaf.2 = .error fault := by
  cases refused with
  | unknownKey unregistered => simp only [acceptLeaf, unregistered]
  | @kindMismatch key value rule registered other =>
      simp only [acceptLeaf, registered]
      cases found : leafText? value with
      | none => rfl
      | some pair =>
          have apart : pair.1 ≠ rule.kind := by
            simpa [valueKind?, found] using other
          simp only [if_neg apart]

theorem admitted_or_refused (leaf : KeyedLeaf) :
    Admitted leaf ∨ ∃ fault, Refused leaf fault := by
  obtain ⟨key, value⟩ := leaf
  cases registered : SettingRule.find? key with
  | none => exact Or.inr ⟨_, .unknownKey registered⟩
  | some rule =>
      by_cases kind : valueKind? value = some rule.kind
      · exact Or.inl ⟨rule, registered, kind⟩
      · exact Or.inr ⟨_, .kindMismatch registered kind⟩

/-! ## Leaves one after the other -/

def enter (settings : Settings) (leaf : KeyedLeaf) :
    Except SettingsFault Settings :=
  (acceptLeaf leaf.1 leaf.2).map fun text =>
    { values := Keyed.insert leaf.1 text settings.values }

theorem enter_of_admitted {leaf : KeyedLeaf} (admitted : Admitted leaf)
    (settings : Settings) :
    ∃ text, valueText? leaf.2 = some text ∧
      enter settings leaf =
        .ok { values := Keyed.insert leaf.1 text settings.values } := by
  obtain ⟨text, found, accepted⟩ := acceptLeaf_of_admitted admitted
  exact ⟨text, found, by rw [enter, accepted]; rfl⟩

theorem enter_of_refused {leaf : KeyedLeaf} {fault : SettingsFault}
    (refused : Refused leaf fault) (settings : Settings) :
    enter settings leaf = .error fault := by
  rw [enter, acceptLeaf_of_refused refused]
  rfl

theorem lastUnder_cons (key : String) (leaf : KeyedLeaf)
    (rest : List KeyedLeaf) :
    lastUnder key (leaf :: rest) =
      (lastUnder key rest).or
        (if leaf.1 = key then some leaf.2 else none) := by
  by_cases same : leaf.1 = key <;> simp [lastUnder, Keyed.find?, same]

theorem mem_of_lastUnder_eq_some {key : String} {leaves : List KeyedLeaf}
    {value : Toml.Value} (last : lastUnder key leaves = some value) :
    (key, value) ∈ leaves :=
  List.mem_reverse.mp (Keyed.mem_of_find?_eq_some last)

theorem lastUnder_of_nodup {leaves : List KeyedLeaf} {leaf : KeyedLeaf}
    (apart : (leaves.map Prod.fst).Nodup) (member : leaf ∈ leaves) :
    lastUnder leaf.1 leaves = some leaf.2 := by
  induction leaves with
  | nil => cases member
  | cons first rest ih =>
      obtain ⟨other, later⟩ := List.nodup_cons.mp apart
      rw [lastUnder_cons]
      rcases List.mem_cons.mp member with rfl | member
      · have absent : lastUnder leaf.1 rest = none := by
          rw [Option.eq_none_iff_forall_ne_some]
          intro value last
          exact other
            (List.mem_map.mpr ⟨_, mem_of_lastUnder_eq_some last, rfl⟩)
        rw [absent, Option.none_or, if_pos rfl]
      · rw [ih later member, Option.some_or]

/-- What the settings are when all the leaves have been entered. -/
structure Entered (leaves : List KeyedLeaf) (before after : Settings) :
    Prop where
  sorted : Keyed.Sorted after.values
  texts : ∀ key, after.get? key =
    ((lastUnder key leaves).bind valueText?).or (before.get? key)
  keys : ∀ key, key ∈ after.keys ↔
    key ∈ leaves.map Prod.fst ∨ key ∈ before.keys

theorem entered_nil {settings : Settings}
    (sorted : Keyed.Sorted settings.values) :
    Entered [] settings settings where
  sorted := sorted
  texts _ := Option.none_or.symm
  keys key := by simp

theorem Entered.cons {leaf : KeyedLeaf} {rest : List KeyedLeaf}
    {before after : Settings} {text : String}
    (sorted : Keyed.Sorted before.values)
    (found : valueText? leaf.2 = some text)
    (admitted : ∀ later ∈ rest, Admitted later)
    (entered : Entered rest
      { values := Keyed.insert leaf.1 text before.values } after) :
    Entered (leaf :: rest) before after where
  sorted := entered.sorted
  texts := by
    intro key
    rw [entered.texts key, lastUnder_cons]
    cases last : lastUnder key rest with
    | some value =>
        -- a later leaf has the key, and its text counts
        obtain ⟨later, has⟩ := exists_valueText?_of_admitted
          (admitted _ (mem_of_lastUnder_eq_some last))
        rw [Option.some_or, Option.bind_some, has, Option.some_or,
          Option.some_or]
    | none =>
        rw [Option.none_or, Option.bind_none, Option.none_or]
        by_cases same : leaf.1 = key
        · subst same
          rw [if_pos rfl, Option.bind_some, found, Option.some_or]
          exact Keyed.find?_update_self _ sorted
        · rw [if_neg same, Option.bind_none, Option.none_or]
          exact Keyed.find?_update_of_ne _ (Ne.symm same)
  keys := by
    intro key
    rw [entered.keys key, List.map_cons, List.mem_cons, or_assoc, or_left_comm]
    exact or_congr_right Keyed.mem_keys_update

theorem exists_entered {leaves : List KeyedLeaf} {settings : Settings}
    (admitted : ∀ leaf ∈ leaves, Admitted leaf)
    (sorted : Keyed.Sorted settings.values) :
    ∃ loaded, leaves.foldlM enter settings = .ok loaded ∧
      Entered leaves settings loaded := by
  induction leaves generalizing settings with
  | nil => exact ⟨settings, rfl, entered_nil sorted⟩
  | cons leaf rest ih =>
      obtain ⟨here, later⟩ := List.forall_mem_cons.mp admitted
      obtain ⟨text, found, step⟩ := enter_of_admitted here settings
      obtain ⟨loaded, run, entered⟩ := ih later (Keyed.sorted_update sorted)
      refine ⟨loaded, ?_, entered.cons sorted found later⟩
      rw [List.foldlM_cons, step]
      exact run

/-- Of the leaves either all are admitted or there is a first one that is
not. -/
theorem admitted_or_first_refused (leaves : List KeyedLeaf) :
    (∀ leaf ∈ leaves, Admitted leaf) ∨
      ∃ before leaf after fault, leaves = before ++ leaf :: after ∧
        (∀ earlier ∈ before, Admitted earlier) ∧ Refused leaf fault := by
  induction leaves with
  | nil => exact Or.inl nofun
  | cons leaf rest ih =>
      rcases admitted_or_refused leaf with admitted | ⟨fault, refused⟩
      · rcases ih with later | ⟨before, other, after, fault, rfl, clear, refused⟩
        · exact Or.inl (List.forall_mem_cons.mpr ⟨admitted, later⟩)
        · exact Or.inr ⟨leaf :: before, other, after, fault, rfl,
            List.forall_mem_cons.mpr ⟨admitted, clear⟩, refused⟩
      · exact Or.inr ⟨[], leaf, rest, fault, rfl, nofun, refused⟩

theorem foldlM_enter_of_refused {before after : List KeyedLeaf}
    {leaf : KeyedLeaf} {fault : SettingsFault} {settings : Settings}
    (clear : ∀ earlier ∈ before, Admitted earlier)
    (refused : Refused leaf fault) :
    (before ++ leaf :: after).foldlM enter settings = .error fault := by
  induction before generalizing settings with
  | nil =>
      rw [List.nil_append, List.foldlM_cons, enter_of_refused refused]
      rfl
  | cons first rest ih =>
      obtain ⟨here, later⟩ := List.forall_mem_cons.mp clear
      obtain ⟨text, _, step⟩ := enter_of_admitted here settings
      rw [List.cons_append, List.foldlM_cons, step]
      exact ih later

/-! ## Walking a table -/

mutual

theorem loadValue_eq_foldlM (key : String) (value : Toml.Value)
    (settings : Settings) :
    loadValue key value settings =
      (leavesOf key value).foldlM enter settings := by
  match value with
  | .table entries =>
      rw [loadValue, leavesOf]
      exact loadEntries_eq_foldlM key entries settings
  | .string _ | .integer _ | .float _ | .boolean _ | .datetime _ | .array _ =>
      rw [loadValue, leavesOf, List.foldlM_cons]
      · exact (bind_pure _).symm
      · exact fun _ => nofun
      · exact fun _ => nofun

theorem loadEntries_eq_foldlM (above : String)
    (entries : List (String × Toml.Value)) (settings : Settings) :
    loadEntries above entries settings =
      (leaves above entries).foldlM enter settings := by
  match entries with
  | [] => rfl
  | (name, value) :: rest =>
      rw [loadEntries, leaves, List.foldlM_append,
        loadValue_eq_foldlM (joinKey above name) value settings]
      exact bind_congr fun loaded => loadEntries_eq_foldlM above rest loaded

end

def keyedBelow (above : String) (leaf : Toml.Leaf) : KeyedLeaf :=
  (leaf.names.foldl joinKey above, leaf.value)

mutual

theorem leavesOf_eq_map (key : String) (value : Toml.Value) :
    leavesOf key value = (Toml.leavesOfValue value).map (keyedBelow key) := by
  match value with
  | .table entries =>
      rw [leavesOf, Toml.leavesOfValue]
      exact leaves_eq_map key entries
  | .string _ | .integer _ | .float _ | .boolean _ | .datetime _ | .array _ =>
      rfl

theorem leaves_eq_map (above : String)
    (entries : List (String × Toml.Value)) :
    leaves above entries =
      (Toml.leavesOfEntries entries).map (keyedBelow above) := by
  match entries with
  | [] => rfl
  | (name, value) :: rest =>
      rw [leaves, Toml.leavesOfEntries, List.map_append, List.map_map,
        leavesOf_eq_map (joinKey above name) value, leaves_eq_map above rest]
      rfl

end

theorem ofTable_eq_foldlM (table : Toml.Table) :
    ofTable table = (keyedLeaves table).foldlM enter empty := by
  rw [ofTable, loadEntries_eq_foldlM, leaves_eq_map]
  rfl

/-! ## Loading -/

section Table

variable {table : Toml.Table} {settings : Settings} {fault : SettingsFault}

theorem exists_ofTable_of_admitted
    (admitted : ∀ leaf ∈ keyedLeaves table, Admitted leaf) :
    ∃ loaded, ofTable table = .ok loaded ∧
      Entered (keyedLeaves table) empty loaded := by
  rw [ofTable_eq_foldlM]
  exact exists_entered admitted List.Pairwise.nil

theorem ofTable_of_refused {before after : List KeyedLeaf} {leaf : KeyedLeaf}
    (split : keyedLeaves table = before ++ leaf :: after)
    (clear : ∀ earlier ∈ before, Admitted earlier)
    (refused : Refused leaf fault) : ofTable table = .error fault := by
  rw [ofTable_eq_foldlM, split]
  exact foldlM_enter_of_refused clear refused

theorem entered_of_ofTable (loaded : ofTable table = .ok settings) :
    (∀ leaf ∈ keyedLeaves table, Admitted leaf) ∧
      Entered (keyedLeaves table) empty settings := by
  rcases admitted_or_first_refused (keyedLeaves table) with
    admitted | ⟨_, _, _, _, split, clear, refused⟩
  · obtain ⟨other, run, entered⟩ := exists_ofTable_of_admitted admitted
    obtain rfl := Except.ok.inj (loaded.symm.trans run)
    exact ⟨admitted, entered⟩
  · rw [ofTable_of_refused split clear refused] at loaded
    cases loaded

theorem get?_of_ofTable (loaded : ofTable table = .ok settings)
    (key : String) :
    settings.get? key =
      (lastUnder key (keyedLeaves table)).bind valueText? := by
  rw [(entered_of_ofTable loaded).2.texts key]
  exact Option.or_none

theorem ofTable_eq_error_iff :
    ofTable table = .error fault ↔
      ∃ before leaf after, keyedLeaves table = before ++ leaf :: after ∧
        (∀ earlier ∈ before, Admitted earlier) ∧ Refused leaf fault := by
  constructor
  · intro failed
    rcases admitted_or_first_refused (keyedLeaves table) with
      admitted | ⟨before, leaf, after, cause, split, clear, refused⟩
    · obtain ⟨loaded, run, _⟩ := exists_ofTable_of_admitted admitted
      rw [run] at failed
      cases failed
    · rw [ofTable_of_refused split clear refused] at failed
      obtain rfl := Except.error.inj failed
      exact ⟨before, leaf, after, split, clear, refused⟩
  · rintro ⟨before, leaf, after, split, clear, refused⟩
    exact ofTable_of_refused split clear refused

end Table

/-- Plain names on the ways to the leaves of a table in order give the leaves
dotted keys of their own. -/
theorem nodup_keyedLeaves {table : Toml.Table}
    (ordered : (Toml.Value.table table).Ordered)
    (plain : ∀ leaf ∈ Toml.leavesOfEntries table, ∀ name ∈ leaf.names,
      IsPlain name) :
    ((keyedLeaves table).map Prod.fst).Nodup := by
  have apart := Toml.nodup_names_leavesOfValue (.table table) ordered
  rw [Toml.leavesOfValue] at apart
  have named {names : List String}
      (member : names ∈ (Toml.leavesOfEntries table).map Toml.Leaf.names) :
      names ≠ [] ∧ ∀ name ∈ names, IsPlain name := by
    obtain ⟨leaf, present, rfl⟩ := List.mem_map.mp member
    refine ⟨?_, plain leaf present⟩
    obtain ⟨_, _, inner, _, rfl⟩ :=
      Toml.exists_name_of_mem_leavesOfEntries present
    exact List.cons_ne_nil _ _
  rw [keyedLeaves, List.map_map]
  have keys : ((Toml.leavesOfEntries table).map Toml.Leaf.names).Pairwise
      fun names names' => dottedKey names ≠ dottedKey names' := by
    refine apart.imp_of_mem fun member member' other same => other ?_
    exact dottedKey_inj (named member).1 (named member').1 (named member).2
      (named member').2 same
  have ways := List.pairwise_map.mp keys
  rw [List.Nodup, List.pairwise_map]
  exact ways

/-- Reading a text is loading the table that it denotes, which is in order.
Loading a table in order succeeds exactly if all of its leaves are admitted.
The settings then hold under each key the text of the last leaf that has it,
and their keys are those of the leaves, each once and ascending.  Otherwise
loading fails with what the first leaf that is not admitted is refused for.  If
all names are plain, no two leaves have one key and no leaf is lost. -/
theorem loading_is_exact :
    (∀ text : String,
      (Toml.read? text = none →
        ∃ reason, read text = .error (.malformed reason)) ∧
      ∀ table, Toml.read? text = some table →
        (Toml.Value.table table).Ordered ∧ read text = ofTable table) ∧
    ∀ table : Toml.Table, (Toml.Value.table table).Ordered →
      let leaves := keyedLeaves table
      ((∃ settings, ofTable table = .ok settings) ↔
        ∀ leaf ∈ leaves, Admitted leaf) ∧
      (∀ settings, ofTable table = .ok settings →
        (∀ key, settings.get? key =
          (lastUnder key leaves).bind valueText?) ∧
        settings.keys.Pairwise (· < ·) ∧
        ∀ key, key ∈ settings.keys ↔ ∃ leaf ∈ leaves, leaf.1 = key) ∧
      (∀ fault, ofTable table = .error fault ↔
        ∃ before leaf after, leaves = before ++ leaf :: after ∧
          (∀ earlier ∈ before, Admitted earlier) ∧ Refused leaf fault) ∧
      ((∀ leaf ∈ Toml.leavesOfEntries table, ∀ name ∈ leaf.names,
          IsPlain name) →
        (leaves.map Prod.fst).Nodup ∧
        ∀ settings, ofTable table = .ok settings →
          ∀ leaf ∈ leaves, ∃ text, valueText? leaf.2 = some text ∧
            settings.get? leaf.1 = some text) := by
  refine ⟨fun text => ⟨?_, ?_⟩, fun table ordered => ?_⟩
  · intro unread
    exact ⟨"not a TOML document", by simp only [read, unread]⟩
  · intro table denoted
    exact ⟨Toml.ordered_of_read?_eq_some denoted, by simp only [read, denoted]⟩
  · intro leaves
    refine ⟨⟨?_, ?_⟩, ?_, fun _ => ofTable_eq_error_iff, ?_⟩
    · rintro ⟨settings, loaded⟩
      exact (entered_of_ofTable loaded).1
    · intro admitted
      obtain ⟨loaded, run, _⟩ := exists_ofTable_of_admitted admitted
      exact ⟨loaded, run⟩
    · intro settings loaded
      obtain ⟨_, entered⟩ := entered_of_ofTable loaded
      refine ⟨get?_of_ofTable loaded, List.pairwise_map.mpr entered.sorted, ?_⟩
      intro key
      rw [entered.keys key, List.mem_map]
      exact or_iff_left List.not_mem_nil
    · intro plain
      have apart := nodup_keyedLeaves ordered plain
      refine ⟨apart, ?_⟩
      intro settings loaded leaf member
      obtain ⟨admitted, _⟩ := entered_of_ofTable loaded
      obtain ⟨text, found⟩ :=
        exists_valueText?_of_admitted (admitted leaf member)
      refine ⟨text, found, ?_⟩
      rw [get?_of_ofTable loaded, lastUnder_of_nodup apart member,
        Option.bind_some, found]

/-- A nested table and a quoted key with a point meet at one dotted key.  In
the order of bytes the quoted key comes later, so its text counts. -/
theorem quoted_key_overwrites_nested_key :
    let table : Toml.Table :=
      [("storage", .table [("dsn", .string "nested")]),
        ("storage.dsn", .string "quoted")]
    let settings : Settings := { values := [("storage.dsn", "quoted")] }
    (Toml.Value.table table).Ordered ∧
    (∀ leaf ∈ keyedLeaves table, Admitted leaf) ∧
    ofTable table = .ok settings ∧
    settings.get? "storage.dsn" =
      (lastUnder "storage.dsn" (keyedLeaves table)).bind valueText? := by
  intro table settings
  have ordered : (Toml.Value.table table).Ordered := by
    have inner : (Toml.Value.table [("dsn", .string "nested")]).Ordered :=
      .table (List.pairwise_singleton _ _)
        (List.forall_mem_singleton.mpr (.leaf (fun _ => nofun)))
    refine .table (by unfold Keyed.Sorted; decide) ?_
    exact List.forall_mem_cons.mpr
      ⟨inner, List.forall_mem_singleton.mpr (.leaf (fun _ => nofun))⟩
  have loaded : ofTable table = .ok settings := rfl
  obtain ⟨succeeds, holds, _⟩ := loading_is_exact.2 table ordered
  exact ⟨ordered, succeeds.mp ⟨settings, loaded⟩, loaded,
    (holds settings loaded).1 "storage.dsn"⟩

end GatewayPolicy.Settings
