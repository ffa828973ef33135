import GatewayPolicy.Proofs.Path.Separation

/-!
# Paths of one service that meet

A path that lies at the root of its service already stays where it is, and every
other one is moved below the root.  So what is published lies at the root, and
two paths are published as one for one reason only: one of them is written with
the root in front of the other, and that other does not lie at the root itself.
-/

set_option autoImplicit false

namespace GatewayPolicy

namespace Path

theorem isUnder_eq_false_iff {root path : List Char} :
    isUnder root path = false ↔ path ≠ root ∧ ¬root ++ ['/'] <+: path := by
  rw [Bool.eq_false_iff, ne_eq, isUnder_iff, not_or]

section

variable {pattern path other : List Char}

theorem composeChars_root_append (nonempty : prefixChars pattern ≠ [])
    (rooted : path.head? = some '/')
    (outside : isUnder (prefixChars pattern) path = false) :
    composeChars pattern (prefixChars pattern ++ path) =
      composeChars pattern path := by
  rw [← composeChars_of_outside nonempty outside]
  exact composeChars_composeChars rooted

theorem composeChars_eq_iff (nonempty : prefixChars pattern ≠ [])
    (rooted : path.head? = some '/') (otherRooted : other.head? = some '/') :
    composeChars pattern path = composeChars pattern other ↔
      path = other ∨
      (path = prefixChars pattern ++ other ∧
        isUnder (prefixChars pattern) other = false) ∨
      (other = prefixChars pattern ++ path ∧
        isUnder (prefixChars pattern) path = false) := by
  constructor
  · intro meet
    cases under : isUnder (prefixChars pattern) path with
    | true =>
        rw [composeChars_of_isUnder under] at meet
        cases otherUnder : isUnder (prefixChars pattern) other with
        | true =>
            rw [composeChars_of_isUnder otherUnder] at meet
            exact Or.inl meet
        | false =>
            rw [composeChars_of_outside nonempty otherUnder] at meet
            exact Or.inr (Or.inl ⟨meet, rfl⟩)
    | false =>
        rw [composeChars_of_outside nonempty under] at meet
        cases otherUnder : isUnder (prefixChars pattern) other with
        | true =>
            rw [composeChars_of_isUnder otherUnder] at meet
            exact Or.inr (Or.inr ⟨meet.symm, rfl⟩)
        | false =>
            rw [composeChars_of_outside nonempty otherUnder] at meet
            exact Or.inl (List.append_cancel_left meet)
  · rintro (rfl | ⟨rfl, outside⟩ | ⟨rfl, outside⟩)
    · rfl
    · exact composeChars_root_append nonempty otherRooted outside
    · exact (composeChars_root_append nonempty rooted outside).symm

end

end Path

theorem PathIndex.toList_fullPath {rules : List RouteRule}
    {serviceId pattern : String}
    (found : Path.patternOf? rules serviceId = some pattern) (path : String) :
    ((ofRules rules).fullPath serviceId path).toList =
      Path.composeChars pattern.toList (Path.normalize path).toList := by
  rw [fullPath_eq_place, pattern_ofRules, found, Path.toList_place_some,
    Path.toList_normalize]

/-- A service whose root is not empty publishes nothing outside of it: what it
publishes is the root or goes on after a slash, is the path as it was given or
the root and that path, and starts with a slash if the root does.  Two of its
paths are published as one exactly if they are the same, or one is the root and
the other one, and that other neither is the root nor goes on from it after a
slash. -/
theorem published_paths_stay_inside_and_meet_iff {rules : List RouteRule}
    {serviceId : String} {root : List Char}
    (known : Path.rootOf? rules serviceId = some root) (nonempty : root ≠ [])
    (path other : String) :
    let index := PathIndex.ofRules rules
    let normal := (Path.normalize path).toList
    let otherNormal := (Path.normalize other).toList
    let full := (index.fullPath serviceId path).toList
    (full = root ∨ root ++ ['/'] <+: full) ∧
    (full = normal ∨ full = root ++ normal) ∧
    (root.head? = some '/' → full.head? = some '/') ∧
    (index.fullPath serviceId path = index.fullPath serviceId other ↔
      normal = otherNormal ∨
      (normal = root ++ otherNormal ∧
        otherNormal ≠ root ∧ ¬root ++ ['/'] <+: otherNormal) ∨
      (otherNormal = root ++ normal ∧
        normal ≠ root ∧ ¬root ++ ['/'] <+: normal)) := by
  intro index normal otherNormal full
  obtain ⟨pattern, found, rfl⟩ := Option.map_eq_some_iff.mp known
  have composed : full = Path.composeChars pattern.toList normal :=
    PathIndex.toList_fullPath found path
  have rooted (path : String) :
      (Path.normalize path).toList.head? = some '/' := by
    rw [Path.toList_normalize, Path.head?_normalizeChars]
  have inside : Path.isUnder (Path.prefixChars pattern.toList) full = true := by
    rw [composed]
    exact Path.isUnder_composeChars nonempty (rooted path)
  refine ⟨Path.isUnder_iff.mp inside, ?_, ?_, ?_⟩
  · rw [composed]
    exact (Path.composeChars_cases _ _).imp_right And.right
  · intro slash
    rw [← Path.head?_of_isUnder nonempty inside, slash]
  · rw [← String.toList_inj, PathIndex.toList_fullPath found,
      PathIndex.toList_fullPath found,
      Path.composeChars_eq_iff nonempty (rooted path) (rooted other),
      Path.isUnder_eq_false_iff, Path.isUnder_eq_false_iff]

/-- Below `/admin`, a path meets the same path written with the root; a path
whose first segment only begins like the root meets nothing. -/
theorem admin_paths_meet_only_below_root :
    let rules : List RouteRule :=
      [{ routeId := 1, routeName := "admin", serviceId := some "admin"
         url := none, path := "/admin/**", stripPrefix := 1
         retryable := false, persist := false, status := 1 }]
    let index := PathIndex.ofRules rules
    Path.rootOf? rules "admin" = some "/admin".toList ∧
    index.fullPath "admin" "user" = index.fullPath "admin" "/admin/user" ∧
    index.fullPath "admin" "istrator" ≠
      index.fullPath "admin" "/administrator" := by
  intro rules index
  have known : Path.rootOf? rules "admin" = some "/admin".toList := by decide
  have published := published_paths_stay_inside_and_meet_iff known (by decide)
  refine ⟨known, ?_, ?_⟩
  · obtain ⟨_, _, _, meet⟩ := published "user" "/admin/user"
    exact meet.mpr (by decide)
  · obtain ⟨_, _, _, meet⟩ := published "istrator" "/administrator"
    exact mt meet.mp (by decide)

end GatewayPolicy
