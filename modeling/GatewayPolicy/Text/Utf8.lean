/-!
# UTF-8

A character takes one byte to four, and the first one tells what the others may
be.  Bytes that are no UTF-8 have a first place where they go wrong, or they end
within a character.
-/

set_option autoImplicit false

namespace GatewayPolicy

def Text.utf8 (s : String) : List UInt8 :=
  s.toList.flatMap String.utf8EncodeChar

structure Utf8Fault where
  /-- The number of bytes before it, which are whole characters. -/
  start : Nat
  /-- The number of wrong bytes; none where all ends within a character. -/
  length : Option Nat
  deriving DecidableEq, Repr

namespace Utf8Fault

def message (fault : Utf8Fault) : String :=
  match fault.length with
  | some length =>
      "invalid utf-8 sequence of " ++ toString length ++
        " bytes from index " ++ toString fault.start
  | none =>
      "incomplete utf-8 byte sequence from index " ++ toString fault.start

def following? (first : Nat) : Option (List (Nat × Nat)) :=
  let tail := (0x80, 0xBF)
  if first < 0x80 then some []
  else if first < 0xC2 then none
  else if first < 0xE0 then some [tail]
  else if first = 0xE0 then some [(0xA0, 0xBF), tail]
  else if first = 0xED then some [(0x80, 0x9F), tail]
  else if first < 0xF0 then some [tail, tail]
  else if first = 0xF0 then some [(0x90, 0xBF), tail, tail]
  else if first < 0xF4 then some [tail, tail, tail]
  else if first = 0xF4 then some [(0x80, 0x8F), tail, tail]
  else none

/-- Goes on after the first bytes of a character that starts there, which lack
bytes in these ranges. -/
def find? (start seen : Nat) :
    List (Nat × Nat) → List UInt8 → Option Utf8Fault
  | [], [] => none
  | _ :: _, [] => some { start := start, length := none }
  | [], first :: rest =>
      match following? first.toNat with
      | some ranges => find? (start + seen) 1 ranges rest
      | none => some { start := start + seen, length := some 1 }
  | (low, high) :: ranges, byte :: rest =>
      if low ≤ byte.toNat && byte.toNat ≤ high then
        find? start (seen + 1) ranges rest
      else some { start := start, length := some seen }

def of? (bytes : List UInt8) : Option Utf8Fault :=
  find? 0 0 [] bytes

end Utf8Fault

/-- Bytes that were taken for text and are no UTF-8. -/
structure MalformedText where
  bytes : List UInt8
  fault : Utf8Fault
  found : Utf8Fault.of? bytes = some fault
  deriving DecidableEq, Repr

end GatewayPolicy
