import GatewayPolicy.Json.Basic
import GatewayPolicy.Settings.Basic

/-!
# Settings as JSON

The set keys with their texts.  Reading them does not check the keys.
-/

set_option autoImplicit false

namespace GatewayPolicy.Settings

def toJson (settings : Settings) : Json :=
  .object
    [("values", .object
      (settings.values.map fun entry => (entry.1, .string entry.2)))]

def ofJson? (json : Json) : Option Settings := do
  let field ← json.record? ["values"]
  return {
    values := ← Json.required (Json.entries? Json.string?) (field "values") }

end GatewayPolicy.Settings
