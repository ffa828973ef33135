import GatewayPolicy.Path

/-!
# Composed paths

What normalizing and composing do to a path.  The search through the routes
comes down to placing a path below the pattern that the service has, if it has
one.
-/

set_option autoImplicit false

namespace GatewayPolicy

namespace Path

/-! ## Normal paths -/

theorem normalizeChars_of_rooted {cs : List Char}
    (rooted : cs.head? = some '/') : normalizeChars cs = cs := by
  cases cs with
  | nil => cases rooted
  | cons c rest =>
      obtain rfl : c = '/' := Option.some.inj rooted
      rfl

theorem normalizeChars_of_not_rooted {cs : List Char}
    (bare : cs.head? ≠ some '/') : normalizeChars cs = '/' :: cs := by
  cases cs with
  | nil => rfl
  | cons c rest =>
      have other : c ≠ '/' := fun same => bare (congrArg some same)
      unfold normalizeChars
      split
      · next same => exact absurd (List.head_eq_of_cons_eq same) other
      · rfl

@[simp] theorem head?_normalizeChars (cs : List Char) :
    (normalizeChars cs).head? = some '/' := by
  by_cases rooted : cs.head? = some '/'
  · rw [normalizeChars_of_rooted rooted, rooted]
  · rw [normalizeChars_of_not_rooted rooted]
    rfl

/-! ## Below a root -/

theorem isUnder_iff {root path : List Char} :
    isUnder root path = true ↔ path = root ∨ root ++ ['/'] <+: path := by
  simp [isUnder, List.isPrefixOf_iff_prefix]

theorem isUnder_append {root path : List Char}
    (rooted : path.head? = some '/') : isUnder root (root ++ path) = true := by
  obtain ⟨rest, rfl⟩ : ∃ rest, path = '/' :: rest := List.head?_eq_some_iff.mp rooted
  exact isUnder_iff.mpr (Or.inr ⟨rest, by simp⟩)

theorem head?_of_isUnder {root path : List Char} (nonempty : root ≠ [])
    (under : isUnder root path = true) : root.head? = path.head? := by
  rcases isUnder_iff.mp under with rfl | ⟨rest, rfl⟩
  · rfl
  · cases root with
    | nil => exact absurd rfl nonempty
    | cons c root => rfl

theorem composeChars_of_isUnder {pattern path : List Char}
    (under : isUnder (prefixChars pattern) path = true) :
    composeChars pattern path = path := by
  simp [composeChars, under]

theorem composeChars_of_empty {pattern : List Char} (path : List Char)
    (empty : prefixChars pattern = []) : composeChars pattern path = path := by
  simp [composeChars, empty]

theorem composeChars_of_outside {pattern path : List Char}
    (nonempty : prefixChars pattern ≠ [])
    (outside : isUnder (prefixChars pattern) path = false) :
    composeChars pattern path = prefixChars pattern ++ path := by
  simp [composeChars, nonempty, outside]

/-- All that composing can do to a path: leave it, or put it below the root. -/
theorem composeChars_cases (pattern path : List Char) :
    composeChars pattern path = path ∨
    (prefixChars pattern ≠ [] ∧
      composeChars pattern path = prefixChars pattern ++ path) := by
  by_cases empty : prefixChars pattern = []
  · exact Or.inl (composeChars_of_empty path empty)
  · cases under : isUnder (prefixChars pattern) path with
    | true => exact Or.inl (composeChars_of_isUnder under)
    | false => exact Or.inr ⟨empty, composeChars_of_outside empty under⟩

theorem composeChars_composeChars {pattern path : List Char}
    (rooted : path.head? = some '/') :
    composeChars pattern (composeChars pattern path) =
      composeChars pattern path := by
  rcases composeChars_cases pattern path with kept | ⟨_, moved⟩
  · rw [kept, kept]
  · rw [moved]
    exact composeChars_of_isUnder (isUnder_append rooted)

/-! ## Placing a path below a pattern -/

def place (pattern? : Option String) (path : String) : String :=
  match pattern? with
  | some pattern => compose pattern (normalize path)
  | none => normalize path

theorem toList_normalize (path : String) :
    (normalize path).toList = normalizeChars path.toList := by
  simp [normalize]

theorem toList_place_some (pattern path : String) :
    (place (some pattern) path).toList =
      composeChars pattern.toList (normalizeChars path.toList) := by
  simp [place, compose, toList_normalize]

def patternOf? (rules : List RouteRule) (serviceId : String) : Option String :=
  (rules.find? fun rule => rule.serves serviceId).map RouteRule.path

theorem resolve_eq_place (rules : List RouteRule) (serviceId path : String) :
    resolve rules serviceId path = place (patternOf? rules serviceId) path := by
  unfold resolve patternOf?
  cases rules.find? fun rule => rule.serves serviceId <;> rfl

end Path

end GatewayPolicy
