import GatewayPolicy.Text.Blank

/-!
# Trimming

Trimming takes blank characters off both ends and nothing else: what is left is
a stretch of the text, begins with the text's first character unless that is
blank, and is blank itself only if the whole text is.  A text is trimmed to the
one stretch of it that is blank at neither end and has only blanks around it.
-/

set_option autoImplicit false

namespace GatewayPolicy.Text

theorem trimEnd_prefix_self (cs : List Char) : trimEnd cs <+: cs := by
  rw [trimEnd, ← List.reverse_suffix, List.reverse_reverse]
  exact List.dropWhile_suffix isBlankChar

theorem trimChars_infix_self (cs : List Char) : trimChars cs <:+: cs :=
  (trimEnd_prefix_self _).isInfix.trans
    (List.dropWhile_suffix isBlankChar).isInfix

theorem trimEnd_cons {c : Char} (rest : List Char)
    (visible : isBlankChar c = false) :
    trimEnd (c :: rest) = c :: trimEnd rest := by
  simp only [trimEnd, List.reverse_cons, List.dropWhile_append]
  split
  · next none =>
      rw [List.isEmpty_iff.mp none]
      simp [visible]
  · simp

theorem head?_trimChars {cs : List Char} {c : Char}
    (first : cs.head? = some c) (visible : isBlankChar c = false) :
    (trimChars cs).head? = some c := by
  obtain ⟨rest, rfl⟩ := List.head?_eq_some_iff.mp first
  rw [trimChars, List.dropWhile_cons_of_neg (by simp [visible]),
    trimEnd_cons rest visible]
  rfl

theorem all_trimChars (cs : List Char) :
    (trimChars cs).all isBlankChar = cs.all isBlankChar := by
  cases left : cs.dropWhile isBlankChar with
  | nil =>
      have taken : cs.takeWhile isBlankChar = cs := by
        have parts := List.takeWhile_append_dropWhile (p := isBlankChar) (l := cs)
        rwa [left, List.append_nil] at parts
      have blank : cs.all isBlankChar = true := by
        rw [← taken]
        exact List.all_takeWhile
      rw [blank, trimChars, left]
      rfl
  | cons c rest =>
      have visible : isBlankChar c = false := by
        have found := List.head?_dropWhile_not isBlankChar cs
        rwa [left] at found
      have member : c ∈ cs :=
        (List.dropWhile_suffix isBlankChar).subset (left ▸ List.mem_cons_self)
      have whole : cs.all isBlankChar = false :=
        List.all_eq_false.mpr ⟨c, member, by simp [visible]⟩
      rw [whole, trimChars, left, trimEnd_cons rest visible, List.all_cons,
        visible, Bool.false_and]

/-! ## What is left, told by what was taken -/

structure IsTrimmed (cs : List Char) : Prop where
  head : ∀ c ∈ cs.head?, isBlankChar c = false
  last : ∀ c ∈ cs.getLast?, isBlankChar c = false

theorem trimEnd_append_blanks (cs : List Char) {after : List Char}
    (blank : ∀ c ∈ after, isBlankChar c = true) :
    trimEnd (cs ++ after) = trimEnd cs := by
  have reversed : ∀ c ∈ after.reverse, isBlankChar c = true :=
    fun c member => blank c (List.mem_reverse.mp member)
  rw [trimEnd, trimEnd, List.reverse_append,
    List.dropWhile_append_of_pos reversed]

theorem trimEnd_eq_self {cs : List Char}
    (last : ∀ c ∈ cs.getLast?, isBlankChar c = false) : trimEnd cs = cs := by
  rw [trimEnd]
  cases back : cs.reverse with
  | nil => rw [List.reverse_eq_nil_iff.mp back]; rfl
  | cons c rest =>
      have visible : isBlankChar c = false := by
        apply last
        rw [List.getLast?_eq_head?_reverse, back]
        rfl
      rw [List.dropWhile_cons_of_neg (by simp [visible]), ← back,
        List.reverse_reverse]

/-- Only blanks are taken from the end, and none is left there. -/
theorem exists_blanks_trimEnd (cs : List Char) :
    ∃ after, cs = trimEnd cs ++ after ∧
      (∀ c ∈ after, isBlankChar c = true) ∧
      ∀ c ∈ (trimEnd cs).getLast?, isBlankChar c = false := by
  refine ⟨(cs.reverse.takeWhile isBlankChar).reverse, ?_, ?_, ?_⟩
  · rw [trimEnd, ← List.reverse_append, List.takeWhile_append_dropWhile,
      List.reverse_reverse]
  · intro c member
    exact List.all_eq_true.mp List.all_takeWhile c (List.mem_reverse.mp member)
  · intro c found
    rw [trimEnd, List.getLast?_reverse] at found
    have stopped := List.head?_dropWhile_not isBlankChar cs.reverse
    rw [Option.mem_def.mp found] at stopped
    exact stopped

theorem isTrimmed_trimChars (cs : List Char) : IsTrimmed (trimChars cs) where
  head := by
    intro c first
    obtain ⟨rest, whole⟩ := trimEnd_prefix_self (cs.dropWhile isBlankChar)
    have found : (cs.dropWhile isBlankChar).head? = some c := by
      rw [← whole, List.head?_append, ← trimChars, Option.mem_def.mp first]
      rfl
    have stopped := List.head?_dropWhile_not isBlankChar cs
    rw [found] at stopped
    exact stopped
  last := by
    obtain ⟨_, _, _, visible⟩ :=
      exists_blanks_trimEnd (cs.dropWhile isBlankChar)
    exact visible

theorem trimChars_eq_iff {cs middle : List Char} :
    trimChars cs = middle ↔
      ∃ before after, cs = before ++ middle ++ after ∧
        (∀ c ∈ before, isBlankChar c = true) ∧
        (∀ c ∈ after, isBlankChar c = true) ∧ IsTrimmed middle := by
  constructor
  · rintro rfl
    obtain ⟨after, rest, blankAfter, _⟩ :=
      exists_blanks_trimEnd (cs.dropWhile isBlankChar)
    refine ⟨cs.takeWhile isBlankChar, after, ?_, ?_, blankAfter,
      isTrimmed_trimChars cs⟩
    · rw [List.append_assoc, trimChars, ← rest,
        List.takeWhile_append_dropWhile]
    · intro c member
      exact List.all_eq_true.mp List.all_takeWhile c member
  · rintro ⟨before, after, rfl, blankBefore, blankAfter, trimmed⟩
    rw [trimChars, List.append_assoc, List.dropWhile_append_of_pos blankBefore]
    cases middle with
    | nil =>
        have none : (after ++ []).dropWhile isBlankChar = [] :=
          List.dropWhile_append_of_pos blankAfter
        rw [List.append_nil] at none
        rw [List.nil_append, none]
        rfl
    | cons c rest =>
        have visible : isBlankChar c = false := trimmed.head c rfl
        rw [List.cons_append, List.dropWhile_cons_of_neg (by simp [visible]),
          ← List.cons_append, trimEnd_append_blanks _ blankAfter,
          trimEnd_eq_self trimmed.last]

/-! ## Texts -/

@[simp] theorem toList_trim (s : String) :
    (trim s).toList = trimChars s.toList := by
  simp [trim]

theorem isBlank_trim (s : String) : isBlank (trim s) = isBlank s := by
  rw [isBlank, toList_trim, all_trimChars, isBlank]

theorem trimmed?_eq (s : String) :
    trimmed? s = if isBlank s then none else some (trim s) := by
  rw [trimmed?, nonBlank?, isBlank_trim]

end GatewayPolicy.Text
