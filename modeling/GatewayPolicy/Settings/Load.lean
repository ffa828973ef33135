import GatewayPolicy.Number.Shortest
import GatewayPolicy.Settings.Basic
import GatewayPolicy.Toml.Document

/-!
# Loading settings

A TOML table is walked depth first, siblings in ascending order of their keys.
The names on the way to a value, joined by points, are its dotted key.  The
first value with an unregistered key or of the wrong kind fails the whole
load; of several values with one dotted key the last counts.
-/

set_option autoImplicit false

namespace GatewayPolicy

inductive SettingsFault where
  | malformed (reason : String)
  | unknownKey (key : String)
  | kindMismatch (key : String) (expected : SettingKind)
  deriving DecidableEq, Repr

def SettingsFault.message : SettingsFault → String
  | .malformed reason => "config parse error: " ++ reason
  | .unknownKey key => "unknown config key: " ++ key
  | .kindMismatch key expected =>
      "type mismatch for key " ++ key ++ ": expected " ++ expected.name

namespace Settings

/-- The dotted key of a name below another key; nothing is below the empty
key but the name itself. -/
def joinKey (above name : String) : String :=
  if above.isEmpty then name else above ++ "." ++ name

def leafText? : Toml.Value → Option (SettingKind × String)
  | .string s => some (.text, s)
  | .integer n => some (.number, toString n.toInt)
  | .float x => some (.number, x.text)
  | .boolean b => some (.flag, if b then "true" else "false")
  | _ => none

def acceptLeaf (key : String) (value : Toml.Value) :
    Except SettingsFault String :=
  match SettingRule.find? key with
  | none => .error (.unknownKey key)
  | some rule =>
      match leafText? value with
      | some (kind, text) =>
          if kind = rule.kind then .ok text
          else .error (.kindMismatch key rule.kind)
      | none => .error (.kindMismatch key rule.kind)

mutual

def loadValue (key : String) (value : Toml.Value) (settings : Settings) :
    Except SettingsFault Settings :=
  match value with
  | .table entries => loadEntries key entries settings
  | leaf =>
      (acceptLeaf key leaf).map fun text =>
        { values := Keyed.insert key text settings.values }

def loadEntries (above : String) (entries : List (String × Toml.Value))
    (settings : Settings) : Except SettingsFault Settings :=
  match entries with
  | [] => .ok settings
  | (name, value) :: rest => do
      loadEntries above rest (← loadValue (joinKey above name) value settings)

end

def ofTable (table : Toml.Table) : Except SettingsFault Settings :=
  loadEntries "" table empty

def read (text : String) : Except SettingsFault Settings :=
  match Toml.read? text with
  | some table => ofTable table
  | none => .error (.malformed "not a TOML document")

/-! ## The values of a table -/

mutual

def leavesOf (key : String) (value : Toml.Value) : List (String × Toml.Value) :=
  match value with
  | .table entries => leaves key entries
  | leaf => [(key, leaf)]

/-- The values below a key, depth first, with their dotted keys. -/
def leaves (above : String) (entries : List (String × Toml.Value)) :
    List (String × Toml.Value) :=
  match entries with
  | [] => []
  | (name, value) :: rest =>
      leavesOf (joinKey above name) value ++ leaves above rest

end

end Settings

end GatewayPolicy
