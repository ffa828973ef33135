import GatewayPolicy.Connection.PostgresDsn
import GatewayPolicy.Store.Opening

/-!
# Stores on servers

A store on a server connects on first use.  There is no server within reach:
a connection string is still checked, and then each attempt fails.
-/

set_option autoImplicit false

namespace GatewayPolicy

structure ServerStore where
  parameters : List (String × String)
  connected : Bool

namespace ServerStore

def ofDsn (dsn : String) : Except StoreFault ServerStore :=
  match PostgresDsn.read? dsn with
  | some parameters => .ok { parameters := parameters, connected := false }
  | none => .error (.unavailable "invalid connection string")

/-- Makes a call, which takes a connection first.  The call fails and the store
stays as it is. -/
def call (store : ServerStore) : StoreFault × ServerStore :=
  (.unavailable "error connecting to server", store)

def driver {World : Type} : ServerDriver World :=
  fun dsn _ _ => do
    let store ← ofDsn dsn
    throw store.call.1

end ServerStore

end GatewayPolicy
