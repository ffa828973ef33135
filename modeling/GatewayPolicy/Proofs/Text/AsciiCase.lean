import GatewayPolicy.Text.Ascii
import Mathlib.Data.List.Forall2

/-!
# Texts up to ASCII case

Folding moves the letters A to Z by 32 and leaves every other character where it
is.  So two texts fold to one text exactly if they agree place by place in a
character, or in a letter of which one has the capital and the other has not.
-/

set_option autoImplicit false

namespace GatewayPolicy.Text

/-- One and the same character, or one letter from A to Z in both of its
cases. -/
def SameAsciiLetter (c d : Char) : Prop :=
  c = d ∨ (c.isUpper = true ∧ d.toNat = c.toNat + 32) ∨
    (d.isUpper = true ∧ c.toNat = d.toNat + 32)

def EqUpToAsciiCase (cs ds : List Char) : Prop :=
  List.Forall₂ SameAsciiLetter cs ds

/-! ## One character -/

theorem isUpper_iff (c : Char) :
    c.isUpper = true ↔ 65 ≤ c.toNat ∧ c.toNat ≤ 90 := by
  delta Char.isUpper
  simp [UInt32.le_iff_toNat_le, ← Char.toNat_val]

theorem toNat_toLower (c : Char) :
    c.toLower.toNat =
      if 65 ≤ c.toNat ∧ c.toNat ≤ 90 then c.toNat + 32 else c.toNat := by
  have folds : (c.val ≥ 'A'.val ∧ c.val ≤ 'Z'.val) ↔
      65 ≤ c.toNat ∧ c.toNat ≤ 90 := by
    rw [← isUpper_iff]
    exact decide_eq_true_iff.symm
  delta Char.toLower
  by_cases upper : 65 ≤ c.toNat ∧ c.toNat ≤ 90
  · rw [if_pos upper, dif_pos (folds.mpr upper)]
    have gap : ('a'.val - 'A'.val).toNat = 32 := by decide
    simp only [← Char.toNat_val, UInt32.toNat_add, gap] at upper ⊢
    omega
  · rw [if_neg upper, dif_neg (mt folds.mp upper)]

theorem toLower_eq_iff (c d : Char) :
    c.toLower = d.toLower ↔ SameAsciiLetter c d := by
  have same : c = d ↔ c.toNat = d.toNat := Char.toNat_inj.symm
  rw [← Char.toNat_inj, toNat_toLower, toNat_toLower, SameAsciiLetter, same,
    isUpper_iff, isUpper_iff]
  split <;> split <;> omega

/-! ## Texts -/

theorem lowerAscii_eq_iff (s t : String) :
    lowerAscii s = lowerAscii t ↔ EqUpToAsciiCase s.toList t.toList := by
  have places : List.Forall₂ (· = ·) (s.toList.map Char.toLower)
      (t.toList.map Char.toLower) ↔ EqUpToAsciiCase s.toList t.toList := by
    rw [List.forall₂_map_left_iff, List.forall₂_map_right_iff]
    constructor
    · intro agree
      exact agree.imp fun c d => (toLower_eq_iff c d).mp
    · intro agree
      exact agree.imp fun c d => (toLower_eq_iff c d).mpr
  rw [← places, List.forall₂_eq_eq_eq, lowerAscii, lowerAscii,
    String.ofList_inj]

end GatewayPolicy.Text
