import GatewayPolicy.Json.Report
import GatewayPolicy.Refresh.Clock
import GatewayPolicy.Server.Configuration
import GatewayPolicy.Server.Router
import GatewayPolicy.Server.Token

/-!
# The server

The server holds one coordinator and one change channel that the coordinator is
subscribed to; its store and its clock lie outside, in any monad.  The
administration asks for the token before anything else, so that a request
without it learns nothing and changes nothing.
-/

set_option autoImplicit false

namespace GatewayPolicy

/-- What lies outside the server, and may have effects of its own. -/
structure Environment (m : Type → Type) where
  read : (category : Category) → m (Except StoreFault (List category.Row))
  now : m Clock

def Environment.still (reading : Reading) (now : Clock) : Environment Id :=
  { read := reading, now := now }

structure Server where
  configuration : Configuration
  coordinator : Coordinator
  times : CycleTimes
  /-- The coordinator is its only kind of handler. -/
  changes : ChangeChannel (ChangeHandler Empty)

namespace Server

variable {m : Type → Type} [Monad m] (environment : Environment m)

/-! ## Refreshing -/

def advance : StateT Server m Reply := do
  match (← get).coordinator.activity with
  | .idle => return .returned none
  | .reading cycle =>
      let answer ← environment.read cycle.awaits
      let read : Read := { category := cycle.awaits, answer := answer }
      let now ← environment.now
      modifyGet fun server =>
        let (coordinator, reply) := server.coordinator.read read
        (reply,
          { server with
            coordinator := coordinator
            times := server.times.read now server.coordinator read })

/-- Makes a call on the coordinator and follows it to its return.  While it
runs nobody else can note a request, so that one cycle ends it. -/
def serve (call : Coordinator → Coordinator × Reply) :
    StateT Server m (Option RefreshReport) := do
  let now ← environment.now
  let reply ← modifyGet fun server =>
    let (coordinator, reply) := call server.coordinator
    (reply,
      { server with
        coordinator := coordinator
        times := server.times.call now reply })
  reply.follow (advance environment) Category.all.length

def notify (topic : String) : ChangeHandler Empty → StateT Server m Unit
  | .coordinator => discard (serve environment fun c => c.onChange topic)

/-- Publishes a change of the policy tables and returns how many handlers were
notified. -/
def publishChange : StateT Server m Nat := do
  (← get).changes.publish routeRefreshTopic
    (notify environment routeRefreshTopic)

/-! ## Starting -/

def new (configuration : Configuration) : Server :=
  { configuration := configuration
    coordinator := .new configuration.settings.resolver
    times := .unset
    changes := (Coordinator.subscribeTo .new routeRefreshTopic).2 }

def start (configuration : Configuration) : m Server := do
  let server := new configuration
  if configuration.settings.refreshOnStart then
    let (_, server) ← (serve environment fun c => c.call .refresh).run server
    return server
  else return server

/-! ## Answering -/

def healthJson (server : Server) : Json :=
  .object
    [("generation", .ofUInt64 server.coordinator.snapshot.generation),
      ("status", .string "ok")]

def configurationJson (server : Server) : Json :=
  .object
    [("content", .string server.configuration.content),
      ("keys", .strings server.configuration.settings.keys),
      ("path", .string server.configuration.path)]

def snapshotJson (server : Server) : Json :=
  .object
    (server.coordinator.snapshot.summary.members server.times ++
      [("state", .string (activityName server.coordinator.isRefreshing))])

/-- What an endpoint has to say.  A reload that has to wait for a running
refresh has nothing to say yet. -/
def perform : Endpoint → StateT Server m (Option Json)
  | .health => return some (← get).healthJson
  | .reload => do
      let report ← serve environment fun c => c.call .refresh
      let times := (← get).times
      return report.map fun report => report.toJson times
  | .notify => do
      let delivered ← publishChange environment
      return some (.object [("delivered", .ofNat delivered)])
  | .configuration => return some (← get).configurationJson
  | .snapshot => return some (← get).snapshotJson
  | .routes =>
      return some (.ofList ResolvedRoute.toJson (← get).coordinator.routes)
  | .authorities => return some (← get).coordinator.authorities.toJson
  | .addresses kind =>
      return some
        (.ofList AddressEntry.toJson ((← get).coordinator.addresses kind))

def unauthorized : ServerFault :=
  .unauthorized "invalid admin token"

def mayAccess (server : Server) (endpoint : Endpoint) (request : Request) :
    Bool :=
  !endpoint.isProtected ||
    AdminToken.admits server.configuration.settings.adminToken request

def answer (endpoint : Endpoint) (request : Request) :
    StateT Server m (Option Response) := do
  let allow := endpoint.allowance request
  if !(← get).mayAccess endpoint request then
    return some
      { Response.ofJson unauthorized.status unauthorized.toJson with
        allow := allow }
  else if endpoint.accepts request then
    let json ← perform environment endpoint
    return json.map (.ofJson 200)
  else return some { Response.withoutBody 405 with allow := allow }

/-- Answers a request, unless it has to wait.  Where it is accepted, the method
HEAD gets the answer to GET without its body. -/
def handle (request : Request) : StateT Server m (Option Response) := do
  match Endpoint.ofPath? request.path with
  | none => return some (.withoutBody 404)
  | some endpoint =>
      let response ← answer environment endpoint request
      if request.isHead && endpoint.accepts request then
        return response.map Response.headOnly
      else return response

end Server

end GatewayPolicy
