import GatewayPolicy.Text.Scanner

/-!
# What scanners find

A word is found exactly where the text begins with it, and what comes after it
is left.  A run of characters of one kind is found as a whole if something else,
or nothing, comes after it.
-/

set_option autoImplicit false

namespace GatewayPolicy.Scanner

variable {α : Type} {value found : α}

theorem word_append (word : String) (value : α) (rest : List Char) :
    Scanner.word word value (word.toList ++ rest) = some (value, rest) := by
  have begins : word.toList.isPrefixOf (word.toList ++ rest) = true :=
    List.isPrefixOf_iff_prefix.mpr (List.prefix_append _ _)
  rw [Scanner.word, if_pos begins, ← String.length_toList, List.drop_left]

theorem eq_append_of_word {word text : String} {rest : List Char}
    (scanned : Scanner.word word value text.toList = some (found, rest)) :
    text = word ++ String.ofList rest := by
  unfold Scanner.word at scanned
  split at scanned
  · next begins =>
      obtain ⟨tail, split⟩ := List.isPrefixOf_iff_prefix.mp begins
      obtain ⟨-, rfl⟩ := Prod.mk.inj (Option.some.inj scanned)
      apply String.toList_inj.mp
      rw [← split, ← String.length_toList, List.drop_left,
        String.toList_append, String.toList_ofList (l := tail)]
  · cases scanned

/-! ## What holds of everything found -/

def Yields {β : Type} (P : β → Prop) (scan : Scanner β) : Prop :=
  ∀ cs value rest, scan cs = some (value, rest) → P value

section Yields

variable {β γ : Type} {P : γ → Prop}

theorem Yields.word {value : γ} (holds : P value) (text : String) :
    Yields P (Scanner.word text value) := by
  intro cs found rest scanned
  unfold Scanner.word at scanned
  split at scanned
  · cases scanned
    exact holds
  · cases scanned

theorem Yields.orElse {first second : Scanner γ} (one : Yields P first)
    (other : Yields P second) : Yields P (first.orElse second) := by
  intro cs value rest scanned
  rcases Option.or_eq_some_iff.mp scanned with found | ⟨_, found⟩
  · exact one cs value rest found
  · exact other cs value rest found

theorem Yields.map {Q : β → Prop} {f : β → γ} {scan : Scanner β}
    (yields : Yields Q scan) (holds : ∀ value, Q value → P (f value)) :
    Yields P (scan.map f) := by
  intro cs value rest scanned
  obtain ⟨found, first, same⟩ := Option.map_eq_some_iff.mp scanned
  cases same
  exact holds found.1 (yields cs found.1 found.2 first)

theorem yields_map {f : β → γ} (scan : Scanner β) (holds : ∀ value, P (f value)) :
    Yields P (scan.map f) :=
  Yields.map (Q := fun _ => True) (fun _ _ _ _ => trivial)
    fun value _ => holds value

end Yields

/-! ## Runs of characters -/

/-- The text does not go on with such a character. -/
def Ends (isIn : Char → Bool) (rest : List Char) : Prop :=
  ∀ c ∈ rest.head?, isIn c = false

section Runs

variable {isIn : Char → Bool} {run rest : List Char}

theorem ends_nil : Ends isIn [] :=
  nofun

theorem ends_cons {c : Char} (other : isIn c = false) : Ends isIn (c :: rest) := by
  rintro _ ⟨⟩
  exact other

theorem takeWhile_run (inside : ∀ c ∈ run, isIn c = true)
    (ended : Ends isIn rest) : (run ++ rest).takeWhile isIn = run := by
  rw [List.takeWhile_append_of_pos inside]
  cases rest with
  | nil => simp
  | cons c _ => simp [ended c rfl]

theorem dropWhile_run (inside : ∀ c ∈ run, isIn c = true)
    (ended : Ends isIn rest) : (run ++ rest).dropWhile isIn = rest := by
  rw [List.dropWhile_append_of_pos inside]
  cases rest with
  | nil => rfl
  | cons c _ => simp [ended c rfl]

end Runs

end GatewayPolicy.Scanner
