import GatewayPolicy.Number.Binary64
import GatewayPolicy.Text.Scanner

/-!
# TOML values

A document is a table, and so is a header's section, an inline table and what
a dotted key leads through.
-/

set_option autoImplicit false

namespace GatewayPolicy.Toml

inductive Value where
  | string (s : String)
  | integer (n : Int64)
  | float (x : Binary64)
  | boolean (b : Bool)
  /-- A date, a time of day or both, as it was written. -/
  | datetime (written : String)
  | array (items : List Value)
  | table (entries : List (String × Value))

abbrev Table := List (String × Value)

/-! ## Blanks, comments and line ends -/

def isSpace (c : Char) : Bool :=
  c == ' ' || c == '\t'

def skipSpace (cs : List Char) : List Char :=
  cs.dropWhile isSpace

def isPlain (c : Char) : Bool :=
  c == '\t' || (' ' ≤ c && c != '\x7f')

def newline? : List Char → Option (List Char)
  | '\n' :: rest => some rest
  | '\r' :: '\n' :: rest => some rest
  | _ => none

def skipComment : List Char → List Char
  | '#' :: rest => rest.dropWhile isPlain
  | cs => cs

/-- The rest after what may follow a statement on its line: blanks, a comment,
and the end of the line or of the text. -/
def lineEnd? (cs : List Char) : Option (List Char) :=
  match skipComment (skipSpace cs) with
  | [] => some []
  | rest => newline? rest

def skipLinesUpTo : Nat → List Char → List Char
  | 0, cs => cs
  | count + 1, cs =>
      let rest := skipComment (skipSpace cs)
      match newline? rest with
      | some rest => skipLinesUpTo count rest
      | none => rest

def skipLines (cs : List Char) : List Char :=
  skipLinesUpTo (cs.length + 1) cs

def expect? (c : Char) (cs : List Char) : Option (List Char) :=
  match skipSpace cs with
  | head :: rest => if head == c then some rest else none
  | [] => none

end GatewayPolicy.Toml
