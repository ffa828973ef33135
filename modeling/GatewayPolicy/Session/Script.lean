import GatewayPolicy.Refresh.Clock
import GatewayPolicy.Store.Basic

/-!
# Session scripts

A session exercises a store, a coordinator and a change channel by scripted
steps.  Scripts may also be attached to the next read of a category and to the
first notification of a recorder, so that steps run in the middle of others.
Each step has an answer, and the events on the way to it are recorded.
-/

set_option autoImplicit false

namespace GatewayPolicy.Session

inductive Step where
  | setTables (tables : PolicyTables)
  | setRoutes (rows : List RouteRule)
  | setBindings (rows : List LimitBinding)
  | setGrants (rows : List AuthorityGrant)
  | setAddresses (rows : List AddressEntry)
  | change (change : Database.Change)
  | fail (category : Category) (fault : StoreFault)
  | heal (category : Category)
  /-- Runs the steps during a later read of the category. -/
  | hook (category : Category) (steps : List Step)
  | load (category : Category)
  | resolveRoutes
  | resolveAuthorities
  | resolveAddresses (kind : ListKind)
  | routeValues
  | authorityValues
  | refresh
  | requestRefresh
  | state
  | snapshot
  | summary
  | routes
  | authorities
  | addresses (kind : ListKind)
  | subscribe (topic : String)
  /-- Subscribes a recorder, which runs the steps when it is first notified. -/
  | subscribeRecorder (topic name : String) (steps : List Step)
  | unsubscribe (topic : String) (place : Nat)
  | publish (topic : String)

mutual

def Step.scripts : Step → Nat
  | .hook _ steps => scriptsIn steps + 1
  | .subscribeRecorder _ _ steps => scriptsIn steps + 1
  | _ => 0

def scriptsIn : List Step → Nat
  | [] => 0
  | step :: rest => step.scripts + scriptsIn rest

end

inductive Answer where
  | done
  | failed (fault : StoreFault)
  | rows (category : Category) (rows : List category.Row)
  | routeResolution (resolution : Resolution (List ResolvedRoute))
  | authorityResolution (resolution : Resolution AuthorityMap)
  | addressResolution (resolution : Resolution (List AddressEntry))
  | routes (routes : List ResolvedRoute)
  | authorities (map : AuthorityMap)
  | addresses (entries : List AddressEntry)
  /-- No report when a refresh was running already. -/
  | report (report : Option RefreshReport) (times : CycleTimes)
  | state (refreshing : Bool)
  | snapshot (snapshot : Snapshot) (times : CycleTimes)
  | summary (summary : SnapshotSummary) (times : CycleTimes)
  | subscribed (id : SubscriptionId)
  | unsubscribed (ended : Bool)
  | delivered (count : Nat)

inductive Event where
  | load (category : Category)
  | hook (category : Category) (answer : Answer)
  | change (recorder topic : String)
  | handler (recorder : String) (answer : Answer)

end GatewayPolicy.Session
