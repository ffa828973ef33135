import GatewayPolicy.Keyed
import Mathlib.Data.List.Sort

/-!
# Looking up in keyed lists

A list that only `update` has built is in ascending order of its keys.  In such
a list a change at a key is seen under that key and nowhere else, and setting a
key to what it holds leaves the list as it is.
-/

set_option autoImplicit false

namespace GatewayPolicy.Keyed

variable {β : Type} {key : String} {entries : List (String × β)}

theorem find?_cons (key : String) (entry : String × β)
    (rest : List (String × β)) :
    find? key (entry :: rest) =
      if entry.1 = key then some entry.2 else find? key rest := by
  by_cases same : entry.1 = key <;> simp [find?, same]

theorem find?_append (key : String) (entries rest : List (String × β)) :
    find? key (entries ++ rest) =
      (find? key entries).or (find? key rest) := by
  simp only [find?, List.find?_append, Option.map_or]

theorem find?_map {γ : Type} (key : String) (entries : List (String × β))
    (f : β → γ) :
    find? key (entries.map fun entry => (entry.1, f entry.2)) =
      (find? key entries).map f := by
  induction entries with
  | nil => rfl
  | cons entry rest ih =>
      rw [List.map_cons, find?_cons, find?_cons, ih]
      split <;> rfl

theorem find?_eq_none_iff :
    find? key entries = none ↔ key ∉ keys entries := by
  simp only [find?, Option.map_eq_none_iff, List.find?_eq_none, beq_iff_eq,
    keys, List.mem_map, not_exists, not_and]

theorem mem_of_find?_eq_some {value : β}
    (found : find? key entries = some value) : (key, value) ∈ entries := by
  obtain ⟨⟨k, v⟩, first, rfl⟩ := Option.map_eq_some_iff.mp found
  have same : k = key := by simpa using List.find?_some first
  exact same ▸ List.mem_of_find?_eq_some first

/-- Where no key is there twice, each entry is the one that is found. -/
theorem find?_eq_some_iff (distinct : (keys entries).Nodup) {value : β} :
    find? key entries = some value ↔ (key, value) ∈ entries := by
  constructor
  · exact mem_of_find?_eq_some
  · intro member
    induction entries with
    | nil => cases member
    | cons first rest ih =>
        obtain ⟨fresh, distinct⟩ := List.nodup_cons.mp distinct
        rw [find?_cons]
        rcases List.mem_cons.mp member with rfl | later
        · rw [if_pos rfl]
        · have other : first.1 ≠ key := by
            rintro rfl
            exact fresh (List.mem_map.mpr ⟨_, later, rfl⟩)
          rw [if_neg other]
          exact ih distinct later

theorem find?_eq_none_of_lt {first : String × β} {rest : List (String × β)}
    (sorted : Sorted (first :: rest)) (less : key < first.1) :
    find? key (first :: rest) = none := by
  rw [find?_eq_none_iff]
  intro member
  obtain ⟨entry, present, rfl⟩ := List.mem_map.mp member
  rcases List.mem_cons.mp present with rfl | later
  · exact String.lt_irrefl _ less
  · exact String.lt_asymm less ((List.pairwise_cons.mp sorted).1 entry later)

theorem Sorted.nodup_keys (sorted : Sorted entries) :
    (keys entries).Nodup :=
  List.pairwise_map.mpr (sorted.imp fun below => String.ne_of_lt below)

/-- An ascending list is known by what is found in it. -/
theorem eq_of_find?_eq {other : List (String × β)} (sorted : Sorted entries)
    (otherSorted : Sorted other)
    (same : ∀ key, find? key entries = find? key other) : entries = other := by
  have : Std.Irrefl fun a b : String × β => a.1 < b.1 :=
    ⟨fun entry => String.lt_irrefl entry.1⟩
  have : Std.Antisymm fun a b : String × β => a.1 < b.1 :=
    ⟨fun _ _ below above => absurd above (String.lt_asymm below)⟩
  apply List.Pairwise.eq_of_mem_iff sorted otherSorted
  rintro ⟨key, value⟩
  rw [← find?_eq_some_iff sorted.nodup_keys, same,
    find?_eq_some_iff otherSorted.nodup_keys]

/-! ## Updates -/

theorem mem_keys_update {change : Option β → β} {other : String} :
    other ∈ keys (update key change entries) ↔
      other = key ∨ other ∈ keys entries := by
  induction entries with
  | nil => simp [update, keys]
  | cons first rest ih =>
      obtain ⟨k, value⟩ := first
      unfold update
      split
      · simp [keys]
      · split
        · next same => simp [keys, same]
        · simp only [keys, List.map_cons, List.mem_cons] at ih ⊢
          rw [ih, or_left_comm]

theorem forall_update {P : β → Prop} {change : Option β → β}
    (changed : ∀ old, P (change old)) (key : String)
    (held : ∀ entry ∈ entries, P entry.2) :
    ∀ entry ∈ update key change entries, P entry.2 := by
  induction entries with
  | nil => simpa [update] using changed none
  | cons first rest ih =>
      obtain ⟨k, value⟩ := first
      obtain ⟨here, later⟩ := List.forall_mem_cons.mp held
      unfold update
      split
      · exact List.forall_mem_cons.mpr ⟨changed none, held⟩
      · split
        · exact List.forall_mem_cons.mpr ⟨changed (some value), later⟩
        · exact List.forall_mem_cons.mpr ⟨here, ih later⟩

theorem sorted_update {change : Option β → β} (sorted : Sorted entries) :
    Sorted (update key change entries) := by
  induction entries with
  | nil => exact List.pairwise_singleton _ _
  | cons first rest ih =>
      obtain ⟨k, value⟩ := first
      obtain ⟨below, later⟩ := List.pairwise_cons.mp sorted
      unfold update
      split
      · next less =>
          refine List.pairwise_cons.mpr ⟨?_, sorted⟩
          intro entry member
          rcases List.mem_cons.mp member with rfl | member
          · exact less
          · exact String.lt_trans less (below entry member)
      · next notLess =>
          split
          · exact List.pairwise_cons.mpr ⟨below, later⟩
          · next other =>
              refine List.pairwise_cons.mpr ⟨?_, ih later⟩
              intro entry member
              have above : k < key :=
                Std.lt_of_le_of_ne (String.not_lt.mp notLess) (Ne.symm other)
              rcases mem_keys_update.mp (List.mem_map_of_mem member) with
                same | old
              · exact same ▸ above
              · obtain ⟨present, known, same⟩ := List.mem_map.mp old
                exact same ▸ below present known

theorem find?_update_self (change : Option β → β) (sorted : Sorted entries) :
    find? key (update key change entries) =
      some (change (find? key entries)) := by
  induction entries with
  | nil => simp [update, find?]
  | cons first rest ih =>
      obtain ⟨k, value⟩ := first
      unfold update
      split
      · next less =>
          rw [find?_eq_none_of_lt sorted less, find?_cons, if_pos rfl]
      · split
        · next same =>
            rw [find?_cons, find?_cons, if_pos same.symm, if_pos same.symm]
        · next other =>
            rw [find?_cons, find?_cons, if_neg (Ne.symm other),
              if_neg (Ne.symm other), ih (List.pairwise_cons.mp sorted).2]

theorem find?_update_of_ne {other : String} (change : Option β → β)
    (apart : other ≠ key) :
    find? other (update key change entries) = find? other entries := by
  induction entries with
  | nil => simp [update, find?, Ne.symm apart]
  | cons first rest ih =>
      obtain ⟨k, value⟩ := first
      unfold update
      split
      · rw [find?_cons, if_neg (Ne.symm apart)]
      · split
        · next same =>
            rw [find?_cons, find?_cons, ← same, if_neg (Ne.symm apart),
              if_neg (Ne.symm apart)]
        · rw [find?_cons, find?_cons, ih]

theorem insert_of_find?_eq_some {value : β} (sorted : Sorted entries)
    (found : find? key entries = some value) :
    insert key value entries = entries := by
  induction entries with
  | nil => cases found
  | cons first rest ih =>
      obtain ⟨k, old⟩ := first
      unfold insert update
      split
      · next less =>
          rw [find?_eq_none_of_lt sorted less] at found
          cases found
      · split
        · next same =>
            rw [find?_cons, if_pos same.symm] at found
            obtain rfl : old = value := Option.some.inj found
            rfl
        · next other =>
            rw [find?_cons, if_neg (Ne.symm other)] at found
            exact congrArg ((k, old) :: ·)
              (ih (List.pairwise_cons.mp sorted).2 found)

/-! ## Lists of pairs -/

theorem insert_of_above {value : β} (above : ∀ entry ∈ entries, entry.1 < key) :
    insert key value entries = entries ++ [(key, value)] := by
  induction entries with
  | nil => rfl
  | cons first rest ih =>
      obtain ⟨k, old⟩ := first
      obtain ⟨here, later⟩ := List.forall_mem_cons.mp above
      have notBelow : ¬key < k := String.lt_asymm here
      have other : key ≠ k := fun same => String.lt_irrefl k (same ▸ here)
      unfold insert update
      rw [if_neg notBelow, if_neg other, List.cons_append]
      exact congrArg ((k, old) :: ·) (ih later)

theorem foldl_insert_of_sorted {pairs : List (String × β)}
    (sorted : Sorted (entries ++ pairs)) :
    pairs.foldl (fun entries pair => insert pair.1 pair.2 entries) entries =
      entries ++ pairs := by
  induction pairs generalizing entries with
  | nil => simp
  | cons pair rest ih =>
      have above : ∀ entry ∈ entries, entry.1 < pair.1 := fun entry member =>
        (List.pairwise_append.mp sorted).2.2 entry member pair (.head _)
      have same : entries ++ [(pair.1, pair.2)] ++ rest =
          entries ++ pair :: rest := by
        rw [List.append_assoc, List.singleton_append]
      rw [List.foldl_cons, insert_of_above above, ih (same.symm ▸ sorted), same]

theorem ofList_of_sorted (sorted : Sorted entries) :
    ofList entries = entries := by
  rw [ofList, foldl_insert_of_sorted, List.nil_append]
  rwa [List.nil_append]

theorem sorted_ofList (pairs : List (String × β)) : Sorted (ofList pairs) := by
  have kept (pairs : List (String × β)) {entries : List (String × β)}
      (sorted : Sorted entries) :
      Sorted (pairs.foldl
        (fun entries pair => insert pair.1 pair.2 entries) entries) := by
    induction pairs generalizing entries with
    | nil => exact sorted
    | cons pair rest ih => exact ih (sorted_update sorted)
  exact kept pairs List.Pairwise.nil

theorem forall_ofList {P : β → Prop}
    {pairs : List (String × β)} (held : ∀ pair ∈ pairs, P pair.2) :
    ∀ entry ∈ ofList pairs, P entry.2 := by
  have kept (pairs : List (String × β)) {entries : List (String × β)}
      (held : ∀ pair ∈ pairs, P pair.2) (before : ∀ entry ∈ entries, P entry.2) :
      ∀ entry ∈ pairs.foldl
        (fun entries pair => insert pair.1 pair.2 entries) entries,
        P entry.2 := by
    induction pairs generalizing entries with
    | nil => exact before
    | cons pair rest ih =>
        obtain ⟨here, later⟩ := List.forall_mem_cons.mp held
        exact ih later (forall_update (fun _ => here) pair.1 before)
  exact kept pairs held nofun

end GatewayPolicy.Keyed
