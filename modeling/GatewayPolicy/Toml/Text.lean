import GatewayPolicy.Text.Hex
import GatewayPolicy.Toml.Basic

/-!
# TOML strings

A string is basic, with escapes, or literal, without them.  Three quotes open
a string that may span lines: a line end right after them is dropped, every
other line end is one newline, and in a basic string a backslash at the end
of a line joins the lines.  One or two quotes may stand anywhere in it, also
right before the three that close it.
-/

set_option autoImplicit false

namespace GatewayPolicy.Toml

/-! ## Escapes -/

def charCode (size : Nat) : Scanner Char :=
  fun cs =>
    let digits := cs.take size
    match Hex.ofDigits? digits with
    | some code =>
        if digits.length = size && code.isValidChar then
          some (Char.ofNat code, cs.drop size)
        else none
    | none => none

def escape : Scanner Char
  | 'b' :: rest => some ('\x08', rest)
  | 't' :: rest => some ('\t', rest)
  | 'n' :: rest => some ('\n', rest)
  | 'f' :: rest => some ('\x0c', rest)
  | 'r' :: rest => some ('\r', rest)
  | '"' :: rest => some ('"', rest)
  | '\\' :: rest => some ('\\', rest)
  | 'u' :: rest => charCode 4 rest
  | 'U' :: rest => charCode 8 rest
  | _ => none

/-! ## Strings on one line -/

def basicTail : Nat → Scanner (List Char)
  | 0, _ => none
  | _ + 1, [] => none
  | _ + 1, '"' :: rest => some ([], rest)
  | size + 1, '\\' :: rest => do
      let (c, rest) ← escape rest
      (basicTail size).map (c :: ·) rest
  | size + 1, c :: rest =>
      if isPlain c then (basicTail size).map (c :: ·) rest else none

def literalTail : Scanner (List Char)
  | [] => none
  | '\'' :: rest => some ([], rest)
  | c :: rest =>
      if isPlain c then
        (literalTail rest).map fun tail => (c :: tail.1, tail.2)
      else none

/-! ## Strings over several lines -/

/-- The rest after the three quotes that close a string, and the quotes that
belong to the string before them; the text starts with a quote. -/
def closing? (quote : Char) (cs : List Char) : Option (List Char × List Char) :=
  let run := cs.takeWhile (· == quote)
  if 3 ≤ run.length && run.length ≤ 5 then
    some (run.drop 3, cs.dropWhile (· == quote))
  else none

def skipBlankLines : List Char → List Char
  | '\r' :: '\n' :: rest => skipBlankLines rest
  | c :: rest =>
      if isSpace c || c == '\n' then skipBlankLines rest else c :: rest
  | [] => []

/-- The rest after a backslash that ends a line: further blanks and empty
lines go as well. -/
def joinLines? (cs : List Char) : Option (List Char) :=
  (newline? (skipSpace cs)).map skipBlankLines

def linesTail (basic : Bool) (quote : Char) : Nat → Scanner (List Char)
  | 0, _ => none
  | _ + 1, [] => none
  | size + 1, c :: rest =>
      if c == quote then
        if quote :: quote :: [] == rest.take 2 then closing? quote (c :: rest)
        else (linesTail basic quote size).map (c :: ·) rest
      else if basic && c == '\\' then
        match joinLines? rest with
        | some rest => linesTail basic quote size rest
        | none => do
            let (c, rest) ← escape rest
            (linesTail basic quote size).map (c :: ·) rest
      else
        match newline? (c :: rest) with
        | some rest => (linesTail basic quote size).map ('\n' :: ·) rest
        | none =>
            if isPlain c then (linesTail basic quote size).map (c :: ·) rest
            else none

def lines (basic : Bool) (quote : Char) : Scanner (List Char) :=
  fun cs => linesTail basic quote (cs.length + 1) ((newline? cs).getD cs)

/-! ## Any string -/

def quoted : Scanner String
  | '"' :: rest => (basicTail (rest.length + 1)).map String.ofList rest
  | '\'' :: rest => (Scanner.map String.ofList literalTail) rest
  | _ => none

def string : Scanner String
  | '"' :: '"' :: '"' :: rest => ((lines true '"').map String.ofList) rest
  | '\'' :: '\'' :: '\'' :: rest => ((lines false '\'').map String.ofList) rest
  | cs => quoted cs

/-! ## Keys -/

def isBareKeyChar (c : Char) : Bool :=
  c.isAlphanum || c == '_' || c == '-'

def simpleKey : Scanner String
  | '"' :: rest => quoted ('"' :: rest)
  | '\'' :: rest => quoted ('\'' :: rest)
  | cs =>
      let name := cs.takeWhile isBareKeyChar
      if name.isEmpty then none
      else some (String.ofList name, cs.dropWhile isBareKeyChar)

def keyParts : Nat → Scanner (List String)
  | 0, _ => none
  | count + 1, cs => do
      let (name, rest) ← simpleKey (skipSpace cs)
      match skipSpace rest with
      | '.' :: rest => (keyParts count).map (name :: ·) rest
      | rest => return ([name], rest)

/-- Where a key leads: through the parents to a name. -/
structure KeyPath where
  parents : List String
  name : String
  deriving DecidableEq, Repr

def greatestKeyLength : Nat := 79

def key : Scanner KeyPath :=
  (keyParts greatestKeyLength).map fun parts =>
    { parents := parts.dropLast, name := parts.getLastD "" }

end GatewayPolicy.Toml
