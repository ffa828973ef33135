import GatewayPolicy.Access
import GatewayPolicy.Routing
import GatewayPolicy.Store.Category

/-!
# Snapshots

One refresh cycle reads every category once and publishes everything it made
of them at once, numbered by its generation.
-/

set_option autoImplicit false

namespace GatewayPolicy

structure Snapshot where
  /-- The number of snapshots published before and including this one. -/
  generation : UInt64
  routes : List ResolvedRoute
  authorities : AuthorityMap
  blackList : List AddressEntry
  whiteList : List AddressEntry
  deriving DecidableEq, Repr

structure SnapshotSummary where
  generation : UInt64
  routes : Nat
  limitedRoutes : Nat
  authorityPaths : Nat
  blackList : Nat
  whiteList : Nat
  deriving DecidableEq, Repr

namespace Snapshot

def empty : Snapshot :=
  { generation := 0
    routes := []
    authorities := []
    blackList := []
    whiteList := [] }

def isEmpty (snapshot : Snapshot) : Bool :=
  snapshot.routes.isEmpty && snapshot.authorities.isEmpty &&
    snapshot.blackList.isEmpty && snapshot.whiteList.isEmpty

def summary (snapshot : Snapshot) : SnapshotSummary :=
  { generation := snapshot.generation
    routes := snapshot.routes.length
    limitedRoutes := snapshot.routes.countP fun route => route.limit.isSome
    authorityPaths := snapshot.authorities.length
    blackList := snapshot.blackList.length
    whiteList := snapshot.whiteList.length }

end Snapshot

/-! ## Resolving what was read

Every category is resolved against the index of the routes that its pass
read. -/

namespace Resolve

def routes (settings : ResolverSettings) (rules : List RouteRule)
    (index : PathIndex) (bindings : Except StoreFault (List LimitBinding)) :
    Resolution (List ResolvedRoute) :=
  .ofRead bindings fun rows => Routing.resolve rules rows index settings

def authorities (index : PathIndex)
    (grants : Except StoreFault (List AuthorityGrant)) :
    Resolution AuthorityMap :=
  .ofRead grants fun rows => .loaded (Access.authorityMap rows index) []

def addresses (index : PathIndex)
    (entries : Except StoreFault (List AddressEntry)) :
    Resolution (List AddressEntry) :=
  .ofRead entries fun rows => .loaded (Access.addressEntries rows index) []

end Resolve

/-! ## Resolving one category on its own

The stand-alone passes read the routes for themselves, and then their own
category only if the routes could be read.  They are written over any monad
that reads, so that a read may have effects. -/

namespace Resolve

variable {m : Type → Type} [Monad m]

def loadRoutes
    (read : (category : Category) → m (Except StoreFault (List category.Row)))
    (settings : ResolverSettings) : m (Resolution (List ResolvedRoute)) := do
  match ← read .routes with
  | .error fault => return .degraded fault.toIssue
  | .ok rules =>
      let index := PathIndex.ofRules rules
      return routes settings rules index (← read .bindings)

def loadAuthorities
    (read : (category : Category) → m (Except StoreFault (List category.Row))) :
    m (Resolution AuthorityMap) := do
  match ← read .routes with
  | .error fault => return .degraded fault.toIssue
  | .ok rules =>
      return authorities (PathIndex.ofRules rules) (← read .authorities)

def loadAddresses
    (read : (category : Category) → m (Except StoreFault (List category.Row)))
    (kind : ListKind) : m (Resolution (List AddressEntry)) := do
  match ← read .routes with
  | .error fault => return .degraded fault.toIssue
  | .ok rules =>
      return addresses (PathIndex.ofRules rules) (← read (.addresses kind))

end Resolve

end GatewayPolicy
