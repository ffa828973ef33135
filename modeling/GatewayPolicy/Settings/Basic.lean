import GatewayPolicy.Keyed
import GatewayPolicy.Number.Numeral
import GatewayPolicy.Route
import GatewayPolicy.Settings.Registry

/-!
# Settings

Settings hold the texts that a configuration sets, by key.  A key that is not
set reads as its registered default, a key that is not registered as nothing.
Numbers are kept as text and read as doubles, so that integers beyond two to
the 53rd are rounded.
-/

set_option autoImplicit false

namespace GatewayPolicy

/-- The set keys in ascending order, each with its text. -/
structure Settings where
  values : List (String × String)
  deriving DecidableEq, Repr

structure StoreSettings where
  /-- Without one, the store is the database file at `sqlitePath`. -/
  dsn : Option String
  sqlitePath : String
  queryTimeoutMs : UInt64
  deriving DecidableEq, Repr

structure NotifySettings where
  redisUrl : Option String
  channel : String
  deriving DecidableEq, Repr

namespace Settings

def empty : Settings :=
  { values := [] }

def get? (settings : Settings) (key : String) : Option String :=
  Keyed.find? key settings.values

def keys (settings : Settings) : List String :=
  Keyed.keys settings.values

def text? (settings : Settings) (key : String) : Option String :=
  (settings.get? key).or ((SettingRule.find? key).map SettingRule.default)

def text (settings : Settings) (key : String) : String :=
  (settings.text? key).getD ""

/-- The value as a whole number, cut toward zero; what is no number is 0. -/
def number (settings : Settings) (key : String) : Int64 :=
  (((settings.text? key).bind Numeral.read?).map Binary64.toInt64).getD 0

def flag (settings : Settings) (key : String) : Bool :=
  settings.text? key == some "true"

/-! ## Groups of settings -/

def defaultQueryTimeoutMs : UInt64 := 3000

def timeoutOfNumber (n : Int64) : UInt64 :=
  if 0 < n then n.toUInt64 else defaultQueryTimeoutMs

def store (settings : Settings) : StoreSettings :=
  { dsn := Text.nonBlank? (settings.text "storage.dsn")
    sqlitePath := settings.text "storage.sqlite_path"
    queryTimeoutMs := timeoutOfNumber (settings.number "storage.query_timeout_ms") }

def notify (settings : Settings) : NotifySettings :=
  { redisUrl := Text.nonBlank? (settings.text "notify.redis_url")
    channel := settings.text "notify.channel" }

def resolver (settings : Settings) : ResolverSettings :=
  { keyResolver :=
      (Text.nonBlank? (settings.text "gateway.key_resolver")).getD
        ResolverSettings.defaultKeyResolver }

def refreshOnStart (settings : Settings) : Bool :=
  settings.flag "refresh.on_start"

/-- Without a token the administration is open to everyone. -/
def adminToken (settings : Settings) : Option String :=
  Text.nonBlank? (settings.text "security.admin_token")

end Settings

end GatewayPolicy
