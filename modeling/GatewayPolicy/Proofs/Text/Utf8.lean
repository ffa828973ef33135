import GatewayPolicy.Text.Utf8
import Mathlib.Data.List.Basic

/-!
# Texts are UTF-8

What a text is encoded to has no fault, so no text is encoded to bytes that are
malformed.
-/

set_option autoImplicit false

namespace GatewayPolicy

namespace Utf8Fault

/-! ## First bytes -/

variable {first second : Nat}

theorem following?_two (least : 0xC2 ≤ first) (less : first < 0xE0) :
    following? first = some [(0x80, 0xBF)] := by
  rw [following?, if_neg (by omega), if_neg (by omega), if_pos less]

/-- Not every second byte of three makes a character: below 0xA0 after 0xE0 it
would be one of fewer bytes, and above 0x9F after 0xED half of a pair. -/
theorem exists_following?_three (least : 0xE0 ≤ first) (less : first < 0xF0)
    (tail : 0x80 ≤ second ∧ second ≤ 0xBF)
    (notShort : first = 0xE0 → 0xA0 ≤ second)
    (notHalf : first = 0xED → second ≤ 0x9F) :
    ∃ low high, following? first = some [(low, high), (0x80, 0xBF)] ∧
      low ≤ second ∧ second ≤ high ∧ high < 256 := by
  rw [following?, if_neg (by omega), if_neg (by omega), if_neg (by omega)]
  split
  · next short => exact ⟨_, _, rfl, notShort short, tail.2, by decide⟩
  split
  · next half => exact ⟨_, _, rfl, tail.1, notHalf half, by decide⟩
  exact ⟨_, _, rfl, tail.1, tail.2, by decide⟩

theorem exists_following?_four (least : 0xF0 ≤ first) (most : first ≤ 0xF4)
    (tail : 0x80 ≤ second ∧ second ≤ 0xBF)
    (notShort : first = 0xF0 → 0x90 ≤ second)
    (notBeyond : first = 0xF4 → second ≤ 0x8F) :
    ∃ low high,
      following? first = some [(low, high), (0x80, 0xBF), (0x80, 0xBF)] ∧
      low ≤ second ∧ second ≤ high ∧ high < 256 := by
  rw [following?, if_neg (by omega), if_neg (by omega), if_neg (by omega),
    if_neg (by omega), if_neg (by omega), if_neg (by omega)]
  split
  · next short => exact ⟨_, _, rfl, notShort short, tail.2, by decide⟩
  split
  · exact ⟨_, _, rfl, tail.1, tail.2, by decide⟩
  rw [if_pos (by omega)]
  exact ⟨_, _, rfl, tail.1, notBeyond (by omega), by decide⟩

/-! ## Whole characters -/

theorem find?_nil_cons {start seen : Nat} (byte : first < 256)
    {ranges : List (Nat × Nat)} {rest : List UInt8}
    (follows : following? first = some ranges) :
    find? start seen [] (UInt8.ofNat first :: rest) =
      find? (start + seen) 1 ranges rest := by
  rw [find?, UInt8.toNat_ofNat_of_lt' byte, follows]

theorem find?_cons_cons {start seen low high byte : Nat}
    (least : low ≤ byte) (greatest : byte ≤ high) (small : high < 256)
    {ranges : List (Nat × Nat)} {rest : List UInt8} :
    find? start seen ((low, high) :: ranges) (UInt8.ofNat byte :: rest) =
      find? start (seen + 1) ranges rest := by
  have inside := Nat.lt_of_le_of_lt greatest small
  rw [find?, UInt8.toNat_ofNat_of_lt' inside]
  simp only [least, greatest, decide_true, Bool.and_self, if_true]

theorem find?_utf8EncodeChar (start seen : Nat) (c : Char)
    (rest : List UInt8) :
    find? start seen [] (String.utf8EncodeChar c ++ rest) =
      find? (start + seen) (String.utf8EncodeChar c).length [] rest := by
  have valid : c.val.toNat < 0xD800 ∨
      0xDFFF < c.val.toNat ∧ c.val.toNat < 0x110000 := c.valid
  unfold String.utf8EncodeChar
  dsimp only
  generalize c.val.toNat = v at valid
  split
  · have one : following? v = some [] := by
      rw [following?, if_pos (by omega)]
    exact find?_nil_cons (by omega) one
  split
  · have two := @following?_two (v / 64 % 32 + 192) (by omega) (by omega)
    rw [List.cons_append, find?_nil_cons (by omega) two, List.cons_append,
      find?_cons_cons (by omega) (by omega) (by decide)]
    rfl
  split
  · obtain ⟨low, high, three, least, greatest, small⟩ :=
      @exists_following?_three (v / 4096 % 16 + 224) (v / 64 % 64 + 128)
        (by omega) (by omega) (by omega) (by omega) (by omega)
    rw [List.cons_append, find?_nil_cons (by omega) three, List.cons_append,
      find?_cons_cons least greatest small, List.cons_append,
      find?_cons_cons (by omega) (by omega) (by decide)]
    rfl
  · obtain ⟨low, high, four, least, greatest, small⟩ :=
      @exists_following?_four (v / 262144 % 8 + 240) (v / 4096 % 64 + 128)
        (by omega) (by omega) (by omega) (by omega) (by omega)
    rw [List.cons_append, find?_nil_cons (by omega) four, List.cons_append,
      find?_cons_cons least greatest small, List.cons_append,
      find?_cons_cons (by omega) (by omega) (by decide), List.cons_append,
      find?_cons_cons (by omega) (by omega) (by decide)]
    rfl

theorem find?_flatMap_utf8EncodeChar (start seen : Nat) (cs : List Char) :
    find? start seen [] (cs.flatMap String.utf8EncodeChar) = none := by
  induction cs generalizing start seen with
  | nil => rfl
  | cons c rest ih =>
      rw [List.flatMap_cons, find?_utf8EncodeChar]
      exact ih _ _

theorem of?_utf8 (s : String) : of? (Text.utf8 s) = none :=
  find?_flatMap_utf8EncodeChar 0 0 s.toList

end Utf8Fault

theorem MalformedText.bytes_ne_utf8 (text : MalformedText) (s : String) :
    text.bytes ≠ Text.utf8 s := by
  intro same
  have found := text.found
  rw [same, Utf8Fault.of?_utf8] at found
  cases found

theorem MalformedText.eq_iff_bytes {text other : MalformedText} :
    text = other ↔ text.bytes = other.bytes := by
  refine ⟨congrArg bytes, fun same => ?_⟩
  obtain ⟨bytes, fault, found⟩ := text
  obtain ⟨_, otherFault, otherFound⟩ := other
  obtain rfl : bytes = _ := same
  obtain rfl := Option.some.inj (found.symm.trans otherFound)
  rfl

end GatewayPolicy
