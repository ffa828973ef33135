import GatewayPolicy.Proofs.Text.AsciiCase
import GatewayPolicy.Proofs.Text.Trimming
import GatewayPolicy.RateLimit

/-!
# Written interval units

A unit is read from its name in any ASCII case, with blanks before and after it,
and from nothing else.  Blanks are what the Unicode property says, while folding
knows the letters A to Z only, so that neither a look-alike letter nor a
character that merely is invisible makes a text pass for a unit.  A text that is
no unit is reported whole, and no limit makes a bucket of it.
-/

set_option autoImplicit false

namespace GatewayPolicy

namespace Text

/-! ## Blanks and letters -/

theorem isBlankChar_between_letters {c : Char} (least : 65 ≤ c.toNat)
    (greatest : c.toNat ≤ 122) : isBlankChar c = false := by
  simp only [isBlankChar, blankRanges, List.any_eq_false, Bool.and_eq_true,
    decide_eq_true_eq]
  intro range member
  simp only [List.mem_cons, List.not_mem_nil, or_false] at member
  rcases member with rfl | rfl | rfl | rfl | rfl | rfl | rfl | rfl | rfl | rfl
    <;> omega

theorem SameAsciiLetter.isBlankChar_eq {c d : Char}
    (same : SameAsciiLetter c d) : isBlankChar c = isBlankChar d := by
  rcases same with rfl | ⟨upper, gap⟩ | ⟨upper, gap⟩
  · rfl
  · have range := (isUpper_iff c).mp upper
    rw [isBlankChar_between_letters (by omega) (by omega),
      isBlankChar_between_letters (by omega) (by omega)]
  · have range := (isUpper_iff d).mp upper
    rw [isBlankChar_between_letters (by omega) (by omega),
      isBlankChar_between_letters (by omega) (by omega)]

theorem EqUpToAsciiCase.visible {cs ds : List Char}
    (agree : EqUpToAsciiCase cs ds)
    (visible : ∀ d ∈ ds, isBlankChar d = false) :
    ∀ c ∈ cs, isBlankChar c = false := by
  induction agree with
  | nil => nofun
  | cons same _ ih =>
      obtain ⟨first, others⟩ := List.forall_mem_cons.mp visible
      refine List.forall_mem_cons.mpr ⟨?_, ih others⟩
      rw [same.isBlankChar_eq, first]

theorem isTrimmed_of_visible {cs : List Char}
    (visible : ∀ c ∈ cs, isBlankChar c = false) : IsTrimmed cs where
  head := fun c first => visible c (List.mem_of_mem_head? first)
  last := fun c final => visible c (List.mem_of_mem_getLast? final)

end Text

namespace IntervalUnit

/-- The text is the unit's name up to ASCII case, with runs of blanks around
it. -/
def IsWritten (unit : IntervalUnit) (written : String) : Prop :=
  ∃ before spelling after,
    written.toList = before ++ spelling ++ after ∧
    (∀ c ∈ before, Text.isBlankChar c = true) ∧
    (∀ c ∈ after, Text.isBlankChar c = true) ∧
    Text.EqUpToAsciiCase spelling unit.name.toList

/-! ## Names -/

/-- The names that are read are those that are shown. -/
theorem ofName?_eq_some_iff (name : String) (unit : IntervalUnit) :
    ofName? name = some unit ↔ unit.name = name := by
  constructor
  · intro known
    unfold ofName? at known
    split at known <;> cases known <;> rfl
  · rintro rfl
    cases unit <;> rfl

theorem lowerAscii_name (unit : IntervalUnit) :
    Text.lowerAscii unit.name = unit.name := by
  cases unit <;> rfl

theorem visible_name (unit : IntervalUnit) :
    ∀ c ∈ unit.name.toList, Text.isBlankChar c = false := by
  have visible :
      (unit.name.toList.all fun c => !Text.isBlankChar c) = true := by
    cases unit <;> decide
  intro c member
  simpa using List.all_eq_true.mp visible c member

/-! ## Reading -/

theorem ofText?_eq_some_iff (written : String) (unit : IntervalUnit) :
    ofText? written = some unit ↔
      Text.EqUpToAsciiCase (Text.trimChars written.toList)
        unit.name.toList := by
  rw [← Text.toList_trim, ← Text.lowerAscii_eq_iff, lowerAscii_name, ofText?,
    ofName?_eq_some_iff, eq_comm]

/-- Trimming finds the spelling, since no letter of a unit is blank. -/
theorem isWritten_iff (unit : IntervalUnit) (written : String) :
    unit.IsWritten written ↔
      Text.EqUpToAsciiCase (Text.trimChars written.toList)
        unit.name.toList := by
  constructor
  · rintro ⟨before, spelling, after, whole, blankBefore, blankAfter, agree⟩
    have trimmed : Text.IsTrimmed spelling :=
      Text.isTrimmed_of_visible (agree.visible unit.visible_name)
    have found : Text.trimChars written.toList = spelling :=
      Text.trimChars_eq_iff.mpr
        ⟨before, after, whole, blankBefore, blankAfter, trimmed⟩
    rwa [found]
  · intro agree
    generalize left : Text.trimChars written.toList = spelling at agree
    obtain ⟨before, after, whole, blankBefore, blankAfter, _⟩ :=
      Text.trimChars_eq_iff.mp left
    exact ⟨before, spelling, after, whole, blankBefore, blankAfter, agree⟩

theorem parse_eq_ok_iff (written : String) (unit : IntervalUnit) :
    parse written = .ok unit ↔ unit.IsWritten written := by
  rw [isWritten_iff, ← ofText?_eq_some_iff, parse]
  cases ofText? written with
  | none => exact ⟨nofun, nofun⟩
  | some other => rw [Except.ok.injEq, Option.some.injEq]

theorem parse_eq_error_iff (written : String) (issue : Issue) :
    parse written = .error issue ↔
      (∀ unit : IntervalUnit, ¬unit.IsWritten written) ∧
        issue = .unsupportedInterval written := by
  cases found : ofText? written with
  | none =>
      have failed : parse written = .error (.unsupportedInterval written) := by
        rw [parse, found]
      have unknown (unit : IntervalUnit) : ¬unit.IsWritten written := by
        rw [← parse_eq_ok_iff, failed]
        nofun
      rw [failed, Except.error.injEq, and_iff_right unknown, eq_comm]
  | some unit =>
      have succeeded : parse written = .ok unit := by
        rw [parse, found]
      constructor
      · intro failed
        rw [succeeded] at failed
        cases failed
      · rintro ⟨unknown, _⟩
        exact absurd ((parse_eq_ok_iff written unit).mp succeeded)
          (unknown unit)

end IntervalUnit

theorem TokenBucket.ofLimit_eq_error_iff (written : String) (limit : Int64)
    (issue : Issue) :
    ofLimit written limit = .error issue ↔
      IntervalUnit.parse written = .error issue := by
  rw [ofLimit]
  cases IntervalUnit.parse written with
  | error other => rw [Except.map, Except.error.injEq, Except.error.injEq]
  | ok unit => exact ⟨nofun, nofun⟩

/-- A text is read as a unit exactly if it is the unit's name up to ASCII case
with runs of blanks around it.  Every other text fails with an issue that holds
all of it, for a unit as well as for a bucket, whatever the limit is. -/
theorem interval_units_read_exactly (written : String) :
    (∀ unit, IntervalUnit.parse written = .ok unit ↔ unit.IsWritten written) ∧
    (∀ issue, IntervalUnit.parse written = .error issue ↔
      (∀ unit : IntervalUnit, ¬unit.IsWritten written) ∧
        issue = .unsupportedInterval written) ∧
    (∀ limit issue, TokenBucket.ofLimit written limit = .error issue ↔
      (∀ unit : IntervalUnit, ¬unit.IsWritten written) ∧
        issue = .unsupportedInterval written) := by
  refine ⟨?_, ?_, ?_⟩
  · exact IntervalUnit.parse_eq_ok_iff written
  · exact IntervalUnit.parse_eq_error_iff written
  · intro limit issue
    rw [TokenBucket.ofLimit_eq_error_iff, IntervalUnit.parse_eq_error_iff]

/-- An em space is a blank and capitals are letters; a zero width space is no
blank, and a long s is no letter. -/
example :
    IntervalUnit.ofText? "\u2003DaYs\n" = some .days ∧
      IntervalUnit.ofText? "\u200bdays" = none ∧
      IntervalUnit.ofText? "day\u017f" = none := by
  decide

end GatewayPolicy
