import GatewayPolicy.Server.Token
import GatewayPolicy.Text.Utf8

/-!
# Headers as texts

A header that is read is ASCII, where characters and bytes are the same.  So a
text that was sent comes back as it is, or not at all.
-/

set_option autoImplicit false

namespace GatewayPolicy.AdminToken

def isHeaderChar (c : Char) : Bool :=
  c == '\t' || (' ' ≤ c && c ≤ '~')

theorem isHeaderByte_ofNat {n : Nat} (small : n < 256) :
    isHeaderByte (UInt8.ofNat n) = true ↔ n = 9 ∨ 32 ≤ n ∧ n ≤ 126 := by
  have value : (UInt8.ofNat n).toNat = n := UInt8.toNat_ofNat_of_lt' small
  simp [isHeaderByte, UInt8.le_iff_toNat_le, ← UInt8.toNat_inj, value]

theorem isHeaderChar_iff_toNat {c : Char} :
    isHeaderChar c = true ↔ c.toNat = 9 ∨ 32 ≤ c.toNat ∧ c.toNat ≤ 126 := by
  simp [isHeaderChar, Char.le_def, UInt32.le_iff_toNat_le, ← Char.toNat_inj]

theorem isHeaderByte_ofNat_of_le {n : Nat} (large : 127 ≤ n)
    (small : n < 256) : isHeaderByte (UInt8.ofNat n) = false := by
  rw [Bool.eq_false_iff, Ne, isHeaderByte_ofNat small]
  omega

theorem utf8EncodeChar_of_ascii {c : Char} (ascii : c.toNat ≤ 0x7f) :
    String.utf8EncodeChar c = [UInt8.ofNat c.toNat] :=
  if_pos ascii

theorem all_isHeaderByte_utf8EncodeChar (c : Char) :
    (String.utf8EncodeChar c).all isHeaderByte = isHeaderChar c := by
  by_cases ascii : c.toNat ≤ 0x7f
  · rw [utf8EncodeChar_of_ascii ascii, List.all_cons, List.all_nil,
      Bool.and_true, Bool.eq_iff_iff, isHeaderByte_ofNat (by omega),
      isHeaderChar_iff_toNat]
  · have other : isHeaderChar c = false := by
      rw [Bool.eq_false_iff, Ne, isHeaderChar_iff_toNat]
      omega
    rw [other]
    unfold String.utf8EncodeChar
    dsimp only
    rw [if_neg (show ¬c.val.toNat ≤ 0x7f from ascii)]
    split
    · rw [List.all_cons, isHeaderByte_ofNat_of_le (by omega) (by omega),
        Bool.false_and]
    split
    · rw [List.all_cons, isHeaderByte_ofNat_of_le (by omega) (by omega),
        Bool.false_and]
    · rw [List.all_cons, isHeaderByte_ofNat_of_le (by omega) (by omega),
        Bool.false_and]

theorem all_isHeaderByte_utf8 (s : String) :
    (Text.utf8 s).all isHeaderByte = s.toList.all isHeaderChar := by
  rw [Text.utf8, List.all_flatMap]
  simp only [all_isHeaderByte_utf8EncodeChar]

theorem map_toNat_flatMap_utf8EncodeChar {cs : List Char}
    (readable : cs.all isHeaderChar = true) :
    (cs.flatMap String.utf8EncodeChar).map
      (fun byte => Char.ofNat byte.toNat) = cs := by
  induction cs with
  | nil => rfl
  | cons c rest ih =>
      rw [List.all_cons, Bool.and_eq_true] at readable
      have small := isHeaderChar_iff_toNat.mp readable.1
      rw [List.flatMap_cons, utf8EncodeChar_of_ascii (by omega),
        List.map_append, ih readable.2, List.map_singleton,
        UInt8.toNat_ofNat_of_lt' (by omega : c.toNat < 256), Char.ofNat_toNat]
      rfl

/-- A text that was sent is read as it is, if all of it is printable ASCII or a
tab. -/
theorem headerText?_utf8 (s : String) :
    headerText? (Text.utf8 s) =
      if s.toList.all isHeaderChar then some s.toList else none := by
  rw [headerText?, all_isHeaderByte_utf8]
  split
  · next readable =>
      exact congrArg some (map_toNat_flatMap_utf8EncodeChar readable)
  · rfl

theorem eq_of_utf8_eq {s t : String}
    (readable : s.toList.all isHeaderChar = true)
    (same : Text.utf8 s = Text.utf8 t) : s = t := by
  have read := headerText?_utf8 t
  rw [← same, headerText?_utf8, if_pos readable] at read
  split at read
  · exact String.toList_inj.mp (Option.some.inj read)
  · cases read

theorem flatMap_utf8EncodeChar_map_ofNat {bytes : List UInt8}
    (readable : bytes.all isHeaderByte = true) :
    (bytes.map fun byte => Char.ofNat byte.toNat).flatMap
      String.utf8EncodeChar = bytes := by
  induction bytes with
  | nil => rfl
  | cons byte rest ih =>
      rw [List.all_cons, Bool.and_eq_true] at readable
      have small : byte.toNat = 9 ∨ 32 ≤ byte.toNat ∧ byte.toNat ≤ 126 := by
        rw [← isHeaderByte_ofNat byte.toNat_lt, UInt8.ofNat_toNat]
        exact readable.1
      have valid : byte.toNat.isValidChar := Or.inl (by omega)
      have ascii : (Char.ofNat byte.toNat).toNat = byte.toNat := by
        rw [Char.ofNat, dif_pos valid]
        exact UInt32.toNat_ofNatLT
      rw [List.map_cons, List.flatMap_cons, utf8EncodeChar_of_ascii (by omega),
        ascii, UInt8.ofNat_toNat, ih readable.2]
      rfl

/-- What is read of a header is what was sent. -/
theorem eq_utf8_of_headerText? {value : List UInt8} {cs : List Char}
    (read : headerText? value = some cs) :
    value = Text.utf8 (String.ofList cs) := by
  unfold headerText? at read
  split at read
  · next readable =>
      rw [← Option.some.inj read, Text.utf8, String.toList_ofList]
      exact (flatMap_utf8EncodeChar_map_ofNat readable).symm
  · cases read

end GatewayPolicy.AdminToken
