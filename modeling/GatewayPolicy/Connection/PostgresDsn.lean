import GatewayPolicy.Network.IpAddress
import GatewayPolicy.Text.Blank
import GatewayPolicy.Text.Percent

/-!
# Postgres connection strings

A connection string is a url with the scheme `postgres` or `postgresql`, or a
sequence of words `key=value`.  Both come down to parameters, which are
checked one by one: an unknown key or a value of the wrong form makes the
whole string unusable.
-/

set_option autoImplicit false

namespace GatewayPolicy.PostgresDsn

/-! ## Parameters -/

inductive Form where
  | text
  | choice (words : List String)
  | integer (least greatest : Int)
  /-- Ports between commas; an empty one is the usual port. -/
  | ports
  | addresses

def form? : String → Option Form
  | "user" | "password" | "dbname" | "options" | "application_name"
  | "host" => some .text
  | "sslmode" => some (.choice ["disable", "prefer", "require"])
  | "sslnegotiation" => some (.choice ["postgres", "direct"])
  | "hostaddr" => some .addresses
  | "port" => some .ports
  | "connect_timeout" | "tcp_user_timeout" | "keepalives_idle"
  | "keepalives_interval" =>
      some (.integer Int64.minValue.toInt Int64.maxValue.toInt)
  | "keepalives" => some (.integer 0 (UInt64.size - 1))
  | "keepalives_retries" => some (.integer 0 (UInt32.size - 1))
  | "target_session_attrs" => some (.choice ["any", "read-write", "read-only"])
  | "channel_binding" => some (.choice ["disable", "prefer", "require"])
  | "load_balance_hosts" => some (.choice ["disable", "random"])
  | _ => none

/-- An integer with or without a sign; where only naturals are in bounds, a
minus is refused even before zero. -/
def isInteger (least greatest : Int) (text : String) : Bool :=
  let (negative, digits) := Numeral.takeSign text.toList
  let n := Binary64.signed negative (Numeral.ofDigits digits)
  !digits.isEmpty && digits.all Char.isDigit && least ≤ n && n ≤ greatest &&
    !(negative && 0 ≤ least)

def Form.admits (value : String) : Form → Bool
  | text => true
  | choice words => words.contains value
  | integer least greatest => isInteger least greatest value
  | ports =>
      (value.splitOn ",").all fun port =>
        port.isEmpty || isInteger 0 65535 port
  | addresses =>
      (value.splitOn ",").all fun address => (IpAddress.read? address).isSome

def admits (parameter : String × String) : Bool :=
  match form? parameter.1 with
  | some form => form.admits parameter.2
  | none => false

/-! ## Words -/

/-- The text of a value up to a blank, and the rest; a backslash keeps the
character after it. -/
def plainValue : List Char → List Char × List Char
  | [] => ([], [])
  | ['\\'] => ([], [])
  | '\\' :: c :: rest => (plainValue rest).map (c :: ·) id
  | c :: rest =>
      if Text.isBlankChar c then ([], c :: rest)
      else (plainValue rest).map (c :: ·) id

def quotedValue : Scanner (List Char)
  | [] => none
  | ['\\'] => none
  | '\'' :: rest => some ([], rest)
  | '\\' :: c :: rest =>
      (quotedValue rest).map fun tail => (c :: tail.1, tail.2)
  | c :: rest => (quotedValue rest).map fun tail => (c :: tail.1, tail.2)

def wordValue : Scanner String
  | '\'' :: rest => (Scanner.map String.ofList quotedValue) rest
  | cs =>
      let (value, rest) := plainValue cs
      if value.isEmpty then none else some (String.ofList value, rest)

def skipBlanks (cs : List Char) : List Char :=
  cs.dropWhile Text.isBlankChar

def isKeyChar (c : Char) : Bool :=
  !Text.isBlankChar c && c != '='

/-- The parameters written as at most that many words.  What does not start
with a key ends them. -/
def words : Nat → List Char → Option (List (String × String))
  | 0, _ => none
  | count + 1, cs =>
      let start := skipBlanks cs
      let key := start.takeWhile isKeyChar
      if key.isEmpty then some []
      else
        match skipBlanks (start.dropWhile isKeyChar) with
        | '=' :: rest => do
            let (value, rest) ← wordValue (skipBlanks rest)
            return (String.ofList key, value) :: (← words count rest)
        | _ => none

/-! ## Urls -/

def spanUntil (ends : List Char) (cs : List Char) : List Char × List Char :=
  (cs.takeWhile (!ends.contains ·), cs.dropWhile (!ends.contains ·))

def credentials? (cs : List Char) :
    Option (List (String × String) × List Char) :=
  match spanUntil ['@'] cs with
  | (written, _ :: rest) =>
      let (user, password) := spanUntil [':'] written
      (Percent.decode? user).map fun user =>
        (("user", user) ::
          (if password.isEmpty then []
            else [("password", String.ofList (password.drop 1))]), rest)
  | (_, []) => some ([], cs)

def host? (cs : List Char) : Option (String × String) :=
  let bytes := Percent.bytes cs
  if bytes.head? == some '/'.toUInt8 then some ("host", String.ofList cs)
  else (Percent.ofBytes? bytes).map fun host => ("host", host)

def place? (cs : List Char) : Option (List (String × String)) := do
  let (host, afterHost) ←
    match cs with
    | '[' :: rest =>
        match spanUntil [']'] rest with
        | (host, _ :: after) =>
            if after.isEmpty || after.head? == some ':' then some (host, after)
            else none
        | (_, []) => none
    | _ => some (spanUntil [':'] cs)
  let port ←
    match afterHost with
    | _ :: port => Percent.decode? port
    | [] => some "5432"
  return [← host? host, ("port", port)]

def places? (cs : List Char) : Option (List (String × String)) :=
  if cs.isEmpty then some []
  else ((cs.splitOnP (· == ',')).mapM place?).map List.flatten

def database? (cs : List Char) : Option (List (String × String)) :=
  match cs with
  | _ :: name =>
      if name.isEmpty then some []
      else (Percent.decode? name).map fun name => [("dbname", name)]
  | [] => some []

def queryParameter? (cs : List Char) : Option (String × String) :=
  match spanUntil ['='] cs with
  | (key, _ :: value) => do
      let key ← Percent.decode? key
      if key = "host" then host? value
      else return (key, ← Percent.decode? value)
  | (_, []) => none

/-- The parameters after a question mark; the last may end in an ampersand. -/
def query? (cs : List Char) : Option (List (String × String)) :=
  let pieces := (cs.drop 1).splitOnP (· == '&')
  let pieces := if pieces.getLast? == some [] then pieces.dropLast else pieces
  pieces.mapM queryParameter?

def url? (cs : List Char) : Option (List (String × String)) := do
  let (credentials, rest) ← credentials? cs
  let (hosts, rest) := spanUntil ['/', '?'] rest
  let (path, query) := spanUntil ['?'] rest
  return credentials ++ (← places? hosts) ++ (← database? path) ++
    (← query? query)

/-! ## Whole strings -/

def afterScheme? (cs : List Char) : Option (List Char) :=
  ((Scanner.word "postgres://" ()).orElse
    (Scanner.word "postgresql://" ()) cs).map Prod.snd

def read? (text : String) : Option (List (String × String)) := do
  let cs := text.toList
  let parameters ←
    match afterScheme? cs with
    | some rest => url? rest
    | none => words (cs.length + 1) cs
  if parameters.all admits then return parameters else none

end GatewayPolicy.PostgresDsn
