import GatewayPolicy.Settings.Basic

/-!
# The choice of a store

The settings name a store: a database file by its path or by a connection
string with the scheme `sqlite`, or a server by any other connection string.
-/

set_option autoImplicit false

namespace GatewayPolicy

inductive StoreChoice where
  | file (path : String)
  | server (dsn : String)
  deriving DecidableEq, Repr

namespace StoreChoice

def scheme : String := "sqlite:"

/-- The path after the scheme, which is read in any ASCII case; two slashes
after it are no part of the path. -/
def filePath? (dsn : String) : Option String :=
  let cs := dsn.toList
  let start := String.ofList (cs.take scheme.length)
  if Text.eqIgnoringAsciiCase start scheme then
    match cs.drop scheme.length with
    | '/' :: '/' :: rest => some (String.ofList rest)
    | rest => some (String.ofList rest)
  else none

def ofDsn (dsn : String) : StoreChoice :=
  match filePath? dsn with
  | some path => .file path
  | none => .server dsn

/-- Without a connection string the path of the settings counts. -/
def ofSettings (settings : StoreSettings) : StoreChoice :=
  match settings.dsn with
  | none => .file settings.sqlitePath
  | some dsn => ofDsn (Text.trim dsn)

end StoreChoice

end GatewayPolicy
