import GatewayPolicy.Settings.Load

/-!
# Dotted keys

The names on the way to a value are joined by points, where nothing is put
before a name that is joined to the empty key.  Many ways can have one dotted
key, but not if their names are plain: these can be read off their key.
-/

set_option autoImplicit false

namespace GatewayPolicy.Settings

def dottedKey (names : List String) : String :=
  names.foldl joinKey ""

/-- The name is neither empty nor written with a point. -/
def IsPlain (name : String) : Prop :=
  name ≠ "" ∧ '.' ∉ name.toList

theorem joinKey_empty (name : String) : joinKey "" name = name := rfl

theorem joinKey_of_ne_empty {above : String} (nonempty : above ≠ "")
    (name : String) : joinKey above name = above ++ "." ++ name := by
  rw [joinKey, if_neg (by rwa [String.isEmpty_iff])]

theorem toList_foldl_joinKey {above : String} (nonempty : above ≠ "")
    (names : List String) :
    (names.foldl joinKey above).toList =
      ['.'].intercalate (above.toList :: names.map String.toList) := by
  induction names generalizing above with
  | nil => simp
  | cons name rest ih =>
      have longer : above ++ "." ++ name ≠ "" := by
        simp [← String.toList_eq_nil_iff]
      rw [List.foldl_cons, joinKey_of_ne_empty nonempty, ih longer]
      -- the text so far is one piece on the left and two on the right
      cases rest <;>
        simp [List.intercalate_cons_cons, String.toList_append]

theorem toList_dottedKey {names : List String}
    (plain : ∀ name ∈ names, IsPlain name) :
    (dottedKey names).toList =
      ['.'].intercalate (names.map String.toList) := by
  cases names with
  | nil => rfl
  | cons name rest =>
      rw [dottedKey, List.foldl_cons, joinKey_empty,
        toList_foldl_joinKey (plain name (.head _)).1]
      rfl

theorem splitOn_dottedKey {names : List String} (nonempty : names ≠ [])
    (plain : ∀ name ∈ names, IsPlain name) :
    (dottedKey names).toList.splitOn '.' = names.map String.toList := by
  rw [toList_dottedKey plain]
  refine List.splitOn_intercalate '.' ?_ (by simpa using nonempty)
  intro piece member
  obtain ⟨name, present, rfl⟩ := List.mem_map.mp member
  exact (plain name present).2

theorem dottedKey_inj {names names' : List String} (nonempty : names ≠ [])
    (nonempty' : names' ≠ []) (plain : ∀ name ∈ names, IsPlain name)
    (plain' : ∀ name ∈ names', IsPlain name)
    (same : dottedKey names = dottedKey names') : names = names' := by
  have pieces : names.map String.toList = names'.map String.toList := by
    rw [← splitOn_dottedKey nonempty plain, same,
      splitOn_dottedKey nonempty' plain']
  exact (List.map_inj_right fun _ _ texts => String.toList_inj.mp texts).mp
    pieces

end GatewayPolicy.Settings
