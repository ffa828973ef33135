import GatewayPolicy.Proofs.Path.KeptRules

/-!
# Resolving a path again

A path that has been resolved counts as resolved only if it starts with a slash,
since a path that does not is normalized first.  A route whose pattern starts
with a slash gives such paths, and so does a route without a prefix.  For them
resolving again changes nothing.  For any other pattern it always does: the
prefix is put in front once more, behind a slash.
-/

set_option autoImplicit false

namespace GatewayPolicy.Path

def HasRootedPrefix (pattern : String) : Prop :=
  prefixChars pattern.toList = [] ∨
    (prefixChars pattern.toList).head? = some '/'

instance (pattern : String) : Decidable (HasRootedPrefix pattern) :=
  inferInstanceAs (Decidable (_ ∨ _))

theorem head?_composeChars {pattern : String} {path : List Char}
    (rooted : HasRootedPrefix pattern) (slash : path.head? = some '/') :
    (composeChars pattern.toList path).head? = some '/' := by
  rcases composeChars_cases pattern.toList path with kept | ⟨nonempty, moved⟩
  · rw [kept, slash]
  · have first := rooted.resolve_left nonempty
    rw [moved, List.head?_append, first]
    rfl

/-- Nothing that starts with a slash lies below a prefix that does not. -/
theorem composeChars_of_unrooted {pattern : String} {path : List Char}
    (unrooted : ¬HasRootedPrefix pattern) (slash : path.head? = some '/') :
    composeChars pattern.toList path = prefixChars pattern.toList ++ path := by
  obtain ⟨nonempty, bare⟩ := not_or.mp unrooted
  refine composeChars_of_outside nonempty ?_
  rw [Bool.eq_false_iff]
  intro under
  rw [head?_of_isUnder nonempty under] at bare
  exact bare slash

theorem place_place_of_rooted {pattern : String}
    (rooted : HasRootedPrefix pattern) (path : String) :
    place (some pattern) (place (some pattern) path) =
      place (some pattern) path := by
  have slash := head?_composeChars rooted (head?_normalizeChars path.toList)
  apply String.toList_inj.mp
  rw [toList_place_some, toList_place_some, normalizeChars_of_rooted slash]
  exact composeChars_composeChars (head?_normalizeChars _)

/-- The second pass adds the prefix and a slash, so that the path grows. -/
theorem place_place_of_unrooted {pattern : String}
    (unrooted : ¬HasRootedPrefix pattern) (path : String) :
    place (some pattern) (place (some pattern) path) ≠
      place (some pattern) path := by
  let root := prefixChars pattern.toList
  let normal := normalizeChars path.toList
  obtain ⟨nonempty, bare⟩ := not_or.mp unrooted
  have once : (place (some pattern) path).toList = root ++ normal := by
    rw [toList_place_some,
      composeChars_of_unrooted unrooted (head?_normalizeChars _)]
  have notRooted : (root ++ normal).head? ≠ some '/' := by
    intro slash
    rw [List.head?_append] at slash
    cases first : root.head? with
    | none => exact nonempty (List.head?_eq_none_iff.mp first)
    | some c =>
        rw [first, Option.some_or] at slash
        exact bare (first.trans slash)
  have twice : (place (some pattern) (place (some pattern) path)).toList =
      root ++ '/' :: (root ++ normal) := by
    rw [toList_place_some, once,
      composeChars_of_unrooted unrooted (head?_normalizeChars _),
      normalizeChars_of_not_rooted notRooted]
  intro same
  have lengths := congrArg (fun text => text.toList.length) same
  simp only [once, twice, List.length_append, List.length_cons] at lengths
  omega

theorem place_place_iff (pattern? : Option String) (path : String) :
    place pattern? (place pattern? path) = place pattern? path ↔
      ∀ pattern ∈ pattern?, HasRootedPrefix pattern := by
  cases pattern? with
  | none =>
      have settled : place none (place none path) = place none path := by
        apply String.toList_inj.mp
        simp only [place, toList_normalize]
        exact normalizeChars_of_rooted (head?_normalizeChars _)
      simp [settled]
  | some pattern =>
      by_cases rooted : HasRootedPrefix pattern
      · simp [place_place_of_rooted rooted path, rooted]
      · simp [place_place_of_unrooted rooted path, rooted]

/-- Resolving a resolved path again changes nothing, by search as by index,
exactly if the service has no active route or the first one has a pattern
whose prefix is empty or starts with a slash. -/
theorem resolve_resolve_iff (rules : List RouteRule)
    (serviceId path : String) :
    let index := PathIndex.ofRules rules
    let searched := resolve rules serviceId path
    let indexed := index.fullPath serviceId path
    (resolve rules serviceId searched = searched ↔
      ∀ pattern ∈ patternOf? rules serviceId, HasRootedPrefix pattern) ∧
    (index.fullPath serviceId indexed = indexed ↔
      ∀ pattern ∈ patternOf? rules serviceId, HasRootedPrefix pattern) := by
  intro index searched indexed
  constructor
  · simp only [searched, resolve_eq_place]
    exact place_place_iff _ path
  · simp only [indexed, index, PathIndex.fullPath_eq_place,
      PathIndex.pattern_ofRules]
    exact place_place_iff _ path

/-- A pattern without a leading slash: the second pass adds the prefix again. -/
theorem unrooted_pattern_is_added_again :
    let rules : List RouteRule :=
      [{ routeId := 1, routeName := "admin", serviceId := some "admin"
         url := none, path := "admin/**", stripPrefix := 1
         retryable := false, persist := false, status := 1 }]
    let index := PathIndex.ofRules rules
    resolve rules "admin" "/user" = "admin/user" ∧
    resolve rules "admin" (resolve rules "admin" "/user") =
      "admin/admin/user" ∧
    index.fullPath "admin" "/user" = "admin/user" ∧
    index.fullPath "admin" (index.fullPath "admin" "/user") =
      "admin/admin/user" := by
  decide

end GatewayPolicy.Path
