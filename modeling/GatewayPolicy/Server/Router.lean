import GatewayPolicy.Row
import GatewayPolicy.Server.Request

/-!
# The router

A path leads to one endpoint, exactly as it is written.  The administration is
a router of its own: the check of the token is laid around all its routes, and
then it is hung below a common path.
-/

set_option autoImplicit false

namespace GatewayPolicy

inductive Endpoint where
  | health
  | reload
  | notify
  | configuration
  | snapshot
  | routes
  | authorities
  | addresses (kind : ListKind)
  deriving DecidableEq, Repr

structure Mount where
  path : String
  endpoint : Endpoint
  /-- The token is asked for before anything else. -/
  isGuarded : Bool
  deriving DecidableEq, Repr

abbrev Router := List Mount

namespace Router

def new : Router := []

def route (router : Router) (path : String) (endpoint : Endpoint) : Router :=
  router ++ [{ path := path, endpoint := endpoint, isGuarded := false }]

/-- Asks for the token on every route so far. -/
def guarded (router : Router) : Router :=
  router.map fun mount => { mount with isGuarded := true }

def nest (router : Router) (path : String) (inner : Router) : Router :=
  router ++ inner.map fun mount => { mount with path := path ++ mount.path }

def administration : Router :=
  Router.new
    |>.route "/system/reload" .reload
    |>.route "/system/notify" .notify
    |>.route "/system-config" .configuration
    |>.route "/snapshot" .snapshot
    |>.route "/routes" .routes
    |>.route "/authorities" .authorities
    |>.route "/ip/black" (.addresses .black)
    |>.route "/ip/white" (.addresses .white)
    |>.guarded

def server : Router :=
  (Router.new.route "/health" .health).nest "/api" administration

end Router

namespace Endpoint

def ofPath? (path : String) : Option Endpoint :=
  (Router.server.find? fun mount => mount.path == path).map Mount.endpoint

def isProtected (endpoint : Endpoint) : Bool :=
  Router.server.any fun mount =>
    mount.endpoint == endpoint && mount.isGuarded

/-- The endpoint makes something happen; all others only show something. -/
def isAction : Endpoint → Bool
  | reload | notify => true
  | _ => false

def methods (endpoint : Endpoint) : List String :=
  if endpoint.isAction then ["POST"] else ["GET", "HEAD"]

def accepts (endpoint : Endpoint) (request : Request) : Bool :=
  endpoint.methods.contains request.method

/-- Tells a client that used another method which ones are accepted. -/
def allowance (endpoint : Endpoint) (request : Request) : Option String :=
  if endpoint.accepts request then none
  else some (String.intercalate "," endpoint.methods)

theorem isProtected_eq (endpoint : Endpoint) :
    endpoint.isProtected = (endpoint != .health) := by
  cases endpoint with
  | addresses kind => cases kind <;> decide
  | _ => decide

end Endpoint

end GatewayPolicy
