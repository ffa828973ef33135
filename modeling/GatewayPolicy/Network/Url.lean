import GatewayPolicy.Network.IpAddress
import GatewayPolicy.Text.Ascii
import GatewayPolicy.Text.Percent

/-!
# Urls

A url has a scheme and then, after two slashes, perhaps a host with credentials
and a port; a path and a query follow.  Hosts are names as they are written,
or version 6 addresses in brackets.

Steps of a path that name the step itself or the step before it are carried
out.  A step that is the letter of a drive is not taken back.  Escapes are
kept as they are written.
-/

set_option autoImplicit false

namespace GatewayPolicy

inductive UrlHost where
  | name (written : List Char)
  | address (groups : List UInt16)
  deriving DecidableEq, Repr

structure Url where
  scheme : String
  user : List Char
  password : List Char
  host : Option UrlHost
  port : Option UInt16
  path : List Char
  query : List Char
  deriving DecidableEq, Repr

namespace Url

/-! ## Scheme -/

/-- The text without line ends and tabs, and without control characters and
blanks at both ends. -/
def clean (cs : List Char) : List Char :=
  let isMargin (c : Char) : Bool := c ≤ ' '
  let trimmed := ((cs.dropWhile isMargin).reverse.dropWhile isMargin).reverse
  trimmed.filter fun c => c != '\t' && c != '\n' && c != '\r'

def isSchemeChar (c : Char) : Bool :=
  c.isAlphanum || c == '+' || c == '-' || c == '.'

def scheme? (cs : List Char) : Option (String × List Char) :=
  match cs.span isSchemeChar with
  | (first :: scheme, ':' :: rest) =>
      if first.isAlpha then
        some (Text.lowerAscii (String.ofList (first :: scheme)), rest)
      else none
  | _ => none

/-! ## Credentials, host and port -/

def credentials (written : List Char) : List Char × List Char :=
  let (user, rest) := written.span (· != ':')
  (user, rest.drop 1)

def isForbiddenInHost (c : Char) : Bool :=
  c == '\x00' || " #/:<>?@[\\]^|".toList.contains c

def host? (written : List Char) : Option (Option UrlHost) :=
  match written with
  | [] => some none
  | '[' :: rest =>
      if rest.getLast? == some ']' then
        (IpAddress.v6Groups.all? rest.dropLast).map fun groups =>
          some (.address groups)
      else none
  | _ =>
      if written.any isForbiddenInHost then none else some (some (.name written))

/-- How many characters belong to a host: all up to a colon outside of
brackets. -/
def spanHost (inBrackets : Bool) : List Char → List Char × List Char
  | [] => ([], [])
  | c :: rest =>
      if c == ':' && !inBrackets then ([], c :: rest)
      else
        (spanHost (c == '[' || (inBrackets && c != ']')) rest).map (c :: ·) id

/-- A port after its colon, and what follows it; without digits there is none.
A backslash ends it and belongs to the path. -/
def port? : List Char → Option (Option UInt16 × List Char)
  | ':' :: rest =>
      let (digits, after) := Numeral.spanDigits rest
      let n := Numeral.ofDigits digits
      if 65535 < n || !(after.isEmpty || after.head? == some '\\') then none
      else some (if digits.isEmpty then none else some (UInt16.ofNat n), after)
  | cs => some (none, cs)

/-! ## Path -/

def plainStops : List Char → List Char
  | '%' :: '2' :: e :: rest =>
      if e == 'e' || e == 'E' then '.' :: plainStops rest
      else '%' :: '2' :: e :: plainStops rest
  | c :: rest => c :: plainStops rest
  | [] => []

def isHere (step : List Char) : Bool :=
  plainStops step == ['.']

def isBack (step : List Char) : Bool :=
  plainStops step == ['.', '.']

def isDriveLetter (step : List Char) : Bool :=
  match step with
  | [letter, mark] => letter.isAlpha && (mark == ':' || mark == '|')
  | _ => false

/-- The steps without the last one, unless that is the letter of a drive. -/
def stepBack (steps : List (List Char)) : List (List Char) :=
  if steps.getLast?.any isDriveLetter then steps else steps.dropLast

def walk (steps : List (List Char)) : List (List Char) → List (List Char)
  | [] => steps
  | [last] =>
      if isBack last then stepBack steps ++ [[]]
      else if isHere last then steps ++ [[]]
      else steps ++ [last]
  | step :: rest =>
      if isBack step then walk (stepBack steps) rest
      else if isHere step then walk steps rest
      else walk (steps ++ [step]) rest

/-- The path after its steps are carried out.  A path that does not start with
a slash is left alone. -/
def walked (path : List Char) : List Char :=
  match path with
  | '/' :: rest =>
      (walk [] (rest.splitOnP (· == '/'))).flatMap fun step => '/' :: step
  | _ => path

/-! ## Whole urls -/

/-- Credentials and the rest of an authority, which the last at sign divides.
With nothing before it, something has to follow it, unless the url ends. -/
def divideAuthority? (authority after : List Char) :
    Option (List Char × List Char) :=
  if authority.contains '@' then
    let (reversed, before) := authority.reverse.span (· != '@')
    let written := (before.drop 1).reverse
    if written.isEmpty && reversed.isEmpty && !after.isEmpty then none
    else some (written, reversed.reverse)
  else some ([], authority)

def withAuthority? (scheme : String) (cs : List Char) : Option Url := do
  let (authority, after) :=
    cs.span fun c => c != '/' && c != '?' && c != '#'
  let (written, place) ← divideAuthority? authority after
  let (user, password) := credentials written
  let (hostText, rest) := spanHost false place
  let host ← host? hostText
  if host.isNone && (rest.head? == some ':' || !user.isEmpty ||
      !password.isEmpty) then none
  let (port, rest) ← port? rest
  let beforeFragment := (rest ++ after).takeWhile (· != '#')
  let (path, query) := beforeFragment.span (· != '?')
  let path := if path.isEmpty || path.head? == some '/' then path
    else '/' :: path
  return {
    scheme := scheme
    user := user
    password := password
    host := host
    port := port
    path := walked path
    query := query.drop 1 }

def withoutAuthority (scheme : String) (cs : List Char) : Url :=
  let (path, query) := (cs.takeWhile (· != '#')).span (· != '?')
  { scheme := scheme
    user := []
    password := []
    host := none
    port := none
    path := walked path
    query := query.drop 1 }

def read? (text : String) : Option Url := do
  let (scheme, rest) ← scheme? (clean text.toList)
  match rest with
  | '/' :: '/' :: rest => withAuthority? scheme rest
  | _ => return withoutAuthority scheme rest

/-! ## Queries -/

def queryText (cs : List Char) : List UInt8 :=
  Percent.bytes (cs.map fun c => if c == '+' then ' ' else c)

def parameters (url : Url) : List (List UInt8 × List UInt8) :=
  ((url.query.splitOnP (· == '&')).filter fun pair => !pair.isEmpty).map
    fun pair =>
      let (name, value) := pair.span (· != '=')
      (queryText name, queryText (value.drop 1))

def parameter? (url : Url) (name : String) : Option (List UInt8) :=
  url.parameters.reverse.lookup (Text.utf8 name)

end Url

end GatewayPolicy
