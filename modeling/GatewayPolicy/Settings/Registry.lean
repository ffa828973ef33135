/-!
# Registered settings

Every setting has a dotted key, a kind and a default.  A configuration may set
registered keys only, each to a value of its kind.
-/

set_option autoImplicit false

namespace GatewayPolicy

inductive SettingKind where
  | text
  | number
  | flag
  deriving DecidableEq, Repr

def SettingKind.name : SettingKind → String
  | .text => "string"
  | .number => "number"
  | .flag => "boolean"

structure SettingRule where
  key : String
  description : String
  kind : SettingKind
  default : String
  deriving DecidableEq, Repr

namespace SettingRule

/-- In the order they are shown to operators. -/
def all : List SettingRule :=
  [ { key := "storage.dsn"
      description := "Configuration database connection string"
      kind := .text
      default := "" },
    { key := "storage.sqlite_path"
      description := "SQLite database path (used when storage.dsn is empty)"
      kind := .text
      default := "gateway.sqlite" },
    { key := "storage.query_timeout_ms"
      description := "Upper bound for a single configuration query"
      kind := .number
      default := "3000" },
    { key := "notify.redis_url"
      description := "Redis connection string for route change notifications"
      kind := .text
      default := "" },
    { key := "notify.channel"
      description := "Pub/sub channel carrying route change notifications"
      kind := .text
      default := "gateway:route-refresh" },
    { key := "gateway.key_resolver"
      description := "Key resolver referenced by generated rate limiter filters"
      kind := .text
      default := "path" },
    { key := "refresh.on_start"
      description := "Resolve a snapshot before serving"
      kind := .flag
      default := "true" },
    { key := "security.admin_token"
      description := "Token required on admin requests (disabled when empty)"
      kind := .text
      default := "" } ]

def find? (key : String) : Option SettingRule :=
  all.find? fun rule => rule.key == key

end SettingRule

end GatewayPolicy
