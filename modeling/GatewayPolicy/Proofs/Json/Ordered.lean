import GatewayPolicy.Json.Reader
import GatewayPolicy.Json.Settings
import GatewayPolicy.Proofs.Keyed.Lookup
import GatewayPolicy.Proofs.Text.Scanning

/-!
# Objects in order

Reading puts the members of every object into ascending order.  So the settings
that are decoded from a text ascend by key, as settings do.
-/

set_option autoImplicit false

namespace GatewayPolicy

namespace Json

/-- The members of every object in the value ascend. -/
inductive Ordered : Json → Prop where
  | null : Ordered .null
  | bool (b : Bool) : Ordered (.bool b)
  | integer (n : Int) : Ordered (.integer n)
  | decimal (x : Binary64) : Ordered (.decimal x)
  | string (s : String) : Ordered (.string s)
  | array {items : List Json} (ordered : ∀ item ∈ items, Ordered item) :
      Ordered (.array items)
  | object {members : List (String × Json)} (sorted : Keyed.Sorted members)
      (ordered : ∀ member ∈ members, Ordered member.2) :
      Ordered (.object members)

/-! ## What is read ascends -/

theorem ordered_of_number? {lexeme : List Char} {json : Json}
    (read : number? lexeme = some json) : Ordered json := by
  unfold number? at read
  dsimp only at read
  split at read
  all_goals
    split at read
    · cases read
    · split at read
      · cases read
        exact .integer _
      · obtain ⟨x, _, rfl⟩ := Option.map_eq_some_iff.mp read
        exact .decimal x

mutual

theorem ordered_of_value? {fuel : Nat} {cs rest : List Char} {json : Json}
    (read : value? fuel cs = some (json, rest)) : Ordered json := by
  match fuel with
  | 0 => cases read
  | fuel + 1 =>
      rw [value?] at read
      split at read
      · obtain ⟨found, _, same⟩ := Option.map_eq_some_iff.mp read
        cases same
        exact .string _
      · split at read
        · cases read
          exact .array nofun
        · obtain ⟨found, items, same⟩ := Option.map_eq_some_iff.mp read
          cases same
          exact .array (ordered_of_items? items)
      · split at read
        · cases read
          exact .object List.Pairwise.nil nofun
        · obtain ⟨found, members, same⟩ := Option.map_eq_some_iff.mp read
          cases same
          exact .object (Keyed.sorted_ofList _)
            (Keyed.forall_ofList (ordered_of_members? members))
      · exact Scanner.Yields.word (.bool true) _ _ _ _ read
      · exact Scanner.Yields.word (.bool false) _ _ _ _ read
      · exact Scanner.Yields.word .null _ _ _ _ read
      · obtain ⟨number, found, same⟩ := Option.map_eq_some_iff.mp read
        cases same
        exact ordered_of_number? found

theorem ordered_of_items? {fuel : Nat} {cs rest : List Char}
    {items : List Json} (read : items? fuel cs = some (items, rest)) :
    ∀ item ∈ items, Ordered item := by
  match fuel with
  | 0 => cases read
  | fuel + 1 =>
      rw [items?] at read
      obtain ⟨⟨item, after⟩, first, read⟩ := Option.bind_eq_some_iff.mp read
      have here := ordered_of_value? first
      dsimp only at read
      split at read
      · obtain ⟨⟨more, _⟩, further, same⟩ := Option.bind_eq_some_iff.mp read
        cases same
        exact List.forall_mem_cons.mpr ⟨here, ordered_of_items? further⟩
      · cases read
        exact List.forall_mem_singleton.mpr here
      · cases read

theorem ordered_of_members? {fuel : Nat} {cs rest : List Char}
    {members : List (String × Json)}
    (read : members? fuel cs = some (members, rest)) :
    ∀ member ∈ members, Ordered member.2 := by
  match fuel with
  | 0 => cases read
  | fuel + 1 =>
      rw [members?] at read
      obtain ⟨_, _, read⟩ := Option.bind_eq_some_iff.mp read
      obtain ⟨⟨name, _⟩, _, read⟩ := Option.bind_eq_some_iff.mp read
      obtain ⟨_, _, read⟩ := Option.bind_eq_some_iff.mp read
      obtain ⟨⟨value, after⟩, first, read⟩ := Option.bind_eq_some_iff.mp read
      have here := ordered_of_value? first
      dsimp only at read
      split at read
      · obtain ⟨⟨more, _⟩, further, same⟩ := Option.bind_eq_some_iff.mp read
        cases same
        exact List.forall_mem_cons.mpr ⟨here, ordered_of_members? further⟩
      · cases read
        exact List.forall_mem_singleton.mpr here
      · cases read

end

theorem ordered_of_read? {text : String} {json : Json}
    (read : read? text = some json) : Ordered json := by
  obtain ⟨⟨found, rest⟩, value, read⟩ := Option.bind_eq_some_iff.mp read
  dsimp only at read
  split at read
  · cases read
    exact ordered_of_value? value
  · cases read

/-! ## Decoded settings ascend -/

theorem Ordered.field {json value : Json} {names : List String} {name : String}
    {fields : Fields} (ordered : Ordered json)
    (record : json.record? names = some fields)
    (present : fields name = some value) : Ordered value := by
  cases ordered with
  | object sorted ordered =>
      obtain rfl := Option.some.inj record
      exact ordered _ (Keyed.mem_of_find?_eq_some present)
  | @array items ordered =>
      rw [record?] at record
      split at record
      · obtain rfl := Option.some.inj record
        obtain ⟨before, after, listed, _⟩ := List.lookup_eq_some_iff.mp present
        have member : (name, value) ∈ names.zip items := by simp [listed]
        exact ordered _ (List.of_mem_zip member).2
      · cases record
  | null | bool | integer | decimal | string => cases record

theorem keys_of_entries? {α : Type} {decode : Json → Option α}
    {members : List (String × Json)} {entries : List (String × α)}
    (decoded : entries? decode (.object members) = some entries) :
    Keyed.keys entries = Keyed.keys members := by
  dsimp only [entries?] at decoded
  induction members generalizing entries with
  | nil =>
      cases decoded
      rfl
  | cons member rest ih =>
      rw [List.mapM_cons] at decoded
      obtain ⟨entry, first, decoded⟩ := Option.bind_eq_some_iff.mp decoded
      obtain ⟨others, later, same⟩ := Option.bind_eq_some_iff.mp decoded
      obtain ⟨value, _, rfl⟩ := Option.map_eq_some_iff.mp first
      cases same
      exact congrArg (member.1 :: ·) (ih later)

end Json

theorem Settings.sorted_of_ofJson? {json : Json} {settings : Settings}
    (ordered : Json.Ordered json) (decoded : ofJson? json = some settings) :
    Keyed.Sorted settings.values := by
  obtain ⟨fields, record, decoded⟩ := Option.bind_eq_some_iff.mp decoded
  obtain ⟨values, present, same⟩ := Option.bind_eq_some_iff.mp decoded
  cases same
  obtain ⟨found, named, entered⟩ := Option.bind_eq_some_iff.mp present
  cases ordered.field record named with
  | object sorted _ =>
      have ascending : (Keyed.keys values).Pairwise (· < ·) := by
        rw [Json.keys_of_entries? entered]
        exact List.pairwise_map.mpr sorted
      exact List.pairwise_map.mp ascending
  | null | bool | integer | decimal | string | array => cases entered

end GatewayPolicy
