import GatewayPolicy.Fault
import GatewayPolicy.Json.Basic
import GatewayPolicy.Settings.Load

/-!
# Faults of the server

What a request or the start of the server may fail with.  The status tells
clients whose fault it is, the code is stable, and the message is meant for
operators.
-/

set_option autoImplicit false

namespace GatewayPolicy

inductive ServerFault where
  | store (fault : StoreFault)
  | settings (fault : SettingsFault)
  | io (reason : String)
  | unauthorized (reason : String)
  /-- A refresh was cut off. -/
  | refreshTask (reason : String)
  deriving DecidableEq, Repr

namespace ServerFault

def status : ServerFault → Nat
  | .store (.unavailable _) => 503
  | .store (.mapping _) => 500
  | .settings _ => 500
  | .io _ => 500
  | .unauthorized _ => 401
  | .refreshTask _ => 500

def code : ServerFault → String
  | .store (.unavailable _) => "store_unavailable"
  | .store (.mapping _) => "store_mapping"
  | .settings _ => "invalid_config"
  | .io _ => "io"
  | .unauthorized _ => "unauthorized"
  | .refreshTask _ => "refresh_task_failed"

def message : ServerFault → String
  | .store fault => fault.message
  | .settings fault => fault.message
  | .io reason => reason
  | .unauthorized reason => reason
  | .refreshTask reason => reason

def title (fault : ServerFault) : String :=
  fault.code ++ " (" ++ toString fault.status ++ ")"

def text (fault : ServerFault) : String :=
  fault.title ++ ": " ++ fault.message

def toJson (fault : ServerFault) : Json :=
  .object
    [("code", .string fault.code), ("message", .string fault.message)]

end ServerFault

end GatewayPolicy
