/-!
# Blank characters

A character is blank when it has the Unicode property White_Space (25 code
points, stable since Unicode 6.3).  Texts are trimmed at both ends by that
property, and a text is blank when nothing is left of it.
-/

set_option autoImplicit false

namespace GatewayPolicy.Text

/-- Closed ranges of blank code points, ascending and apart. -/
def blankRanges : List (Nat × Nat) :=
  [(0x09, 0x0D), (0x20, 0x20), (0x85, 0x85), (0xA0, 0xA0), (0x1680, 0x1680),
    (0x2000, 0x200A), (0x2028, 0x2029), (0x202F, 0x202F), (0x205F, 0x205F),
    (0x3000, 0x3000)]

def isBlankChar (c : Char) : Bool :=
  blankRanges.any fun range => range.1 ≤ c.toNat && c.toNat ≤ range.2

def trimEnd (cs : List Char) : List Char :=
  (cs.reverse.dropWhile isBlankChar).reverse

def trimChars (cs : List Char) : List Char :=
  trimEnd (cs.dropWhile isBlankChar)

def trim (s : String) : String :=
  String.ofList (trimChars s.toList)

def isBlank (s : String) : Bool :=
  s.toList.all isBlankChar

def nonBlank? (s : String) : Option String :=
  if isBlank s then none else some s

def trimmed? (s : String) : Option String :=
  nonBlank? (trim s)

end GatewayPolicy.Text
