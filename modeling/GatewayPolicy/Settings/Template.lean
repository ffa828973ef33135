/-!
# The default configuration

What the server writes where it finds no configuration: every setting at its
default.
-/

set_option autoImplicit false

namespace GatewayPolicy.Settings

def templateLines : List String :=
  [ "storage = \x7b dsn = \"\", sqlite_path = \"gateway.sqlite\", query_timeout_ms = 3000 \x7d",
    "notify = \x7b redis_url = \"\", channel = \"gateway:route-refresh\" \x7d",
    "gateway = \x7b key_resolver = \"path\" \x7d",
    "refresh = \x7b on_start = true \x7d",
    "security = \x7b admin_token = \"\" \x7d" ]

def template : String :=
  String.join (templateLines.map (· ++ "\n"))

end GatewayPolicy.Settings
