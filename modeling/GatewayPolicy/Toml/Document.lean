import GatewayPolicy.Toml.Tagged
import GatewayPolicy.Toml.Tree

/-!
# TOML documents

A document is a sequence of statements, one a line.  Arrays may span lines and
end in a comma; inline tables may not.  Arrays and inline tables nest to a
fixed depth.
-/

set_option autoImplicit false

namespace GatewayPolicy.Toml

/-! ## Values -/

def arrayItems (item : Scanner Value) : Nat → Scanner (List Value)
  | 0, _ => none
  | count + 1, cs =>
      match skipLines cs with
      | ']' :: rest => some ([], rest)
      | cs => do
          let (value, rest) ← item cs
          match skipLines rest with
          | ']' :: rest => return ([value], rest)
          | ',' :: rest => (arrayItems item count).map (value :: ·) rest
          | _ => none

def keyValue (value : Scanner Value) : Scanner (KeyPath × Value) :=
  fun cs => do
    let (path, rest) ← key cs
    let (found, rest) ← value (skipSpace (← expect? '=' rest))
    return ((path, found), rest)

def inlineEntries (value : Scanner Value) :
    Nat → Scanner (List (KeyPath × Value))
  | 0, _ => none
  | count + 1, cs => do
      let (entry, rest) ← keyValue value cs
      match skipSpace rest with
      | '\x7d' :: rest => return ([entry], rest)
      | ',' :: rest => (inlineEntries value count).map (entry :: ·) rest
      | _ => none

def inlineTable (value : Scanner Value) : Scanner Value :=
  fun cs =>
    match expect? '\x7d' cs with
    | some rest => some (.table [], rest)
    | none => do
        let (entries, rest) ← inlineEntries value (cs.length + 1) cs
        return (.table (← Tree.ofEntries entries), rest)

/-- A value in which arrays and inline tables nest at most to the depth. -/
def value : Nat → Scanner Value
  | 0, cs => scalar cs
  | depth + 1, cs =>
      match cs with
      | '[' :: rest =>
          ((arrayItems (value depth) (rest.length + 1)).map .array) rest
      | '\x7b' :: rest => inlineTable (value depth) rest
      | cs => scalar cs

def greatestDepth : Nat := 79

/-! ## Statements -/

def header : Scanner Statement
  | '[' :: rest => do
      let (path, rest) ← key rest
      let (_, rest) ← Scanner.word "]]" () rest
      return (.arrayTable path, rest)
  | cs => do
      let (path, rest) ← key cs
      let (_, rest) ← Scanner.word "]" () rest
      return (.table path, rest)

def statement : Scanner Statement
  | '[' :: rest => header rest
  | cs =>
      ((keyValue (value greatestDepth)).map fun entry =>
        .entry entry.1 entry.2) cs

def statements : Nat → List Char → Option (List Statement)
  | 0, _ => none
  | count + 1, cs =>
      match skipLines cs with
      | [] => some []
      | cs => do
          let (first, rest) ← statement cs
          let further ← statements count (← lineEnd? rest)
          return first :: further

def dropMark : List Char → List Char
  | '\ufeff' :: rest => rest
  | cs => cs

def read? (text : String) : Option Table := do
  let cs := dropMark text.toList
  resolveEntries? (← assemble (← statements (cs.length + 1) cs))

end GatewayPolicy.Toml
