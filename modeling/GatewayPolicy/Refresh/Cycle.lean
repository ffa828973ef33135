import GatewayPolicy.Snapshot

/-!
# Refresh cycles

A cycle reads the categories one after another: routes, bindings, authorities,
black list, white list.  Routes that cannot be read end it at once; any other
fault degrades its category and the cycle goes on.  Each category is resolved
as soon as it is read, against the index of the routes that were read first.
A cycle rests between two reads, so whoever drives it may do other things in
the meantime.
-/

set_option autoImplicit false

namespace GatewayPolicy

/-- What a cycle reports: what it published, or why it published nothing. -/
structure RefreshReport where
  generation : UInt64
  /-- False when the snapshot from before the cycle was kept. -/
  installed : Bool
  routes : CategoryStatus
  authorities : CategoryStatus
  blackList : CategoryStatus
  whiteList : CategoryStatus
  ambiguities : List String
  deriving DecidableEq, Repr

namespace RefreshReport

def retained (generation : UInt64) (cause : Issue) : RefreshReport :=
  let status := CategoryStatus.degraded cause.message
  { generation := generation
    installed := false
    routes := status
    authorities := status
    blackList := status
    whiteList := status
    ambiguities := [] }

def isDegraded (report : RefreshReport) : Bool :=
  !report.installed || report.routes.isDegraded ||
    report.authorities.isDegraded || report.blackList.isDegraded ||
    report.whiteList.isDegraded

end RefreshReport

structure CycleOutcome where
  routes : Resolution (List ResolvedRoute)
  authorities : Resolution AuthorityMap
  blackList : Resolution (List AddressEntry)
  whiteList : Resolution (List AddressEntry)

namespace CycleOutcome

def snapshot (outcome : CycleOutcome) (generation : UInt64) : Snapshot :=
  { generation := generation
    routes := outcome.routes.value []
    authorities := outcome.authorities.value []
    blackList := outcome.blackList.value []
    whiteList := outcome.whiteList.value [] }

def report (outcome : CycleOutcome) (generation : UInt64)
    (ambiguities : List Issue) : RefreshReport :=
  { generation := generation
    installed := true
    routes := .ofResolution List.length outcome.routes
    authorities := .ofResolution List.length outcome.authorities
    blackList := .ofResolution List.length outcome.blackList
    whiteList := .ofResolution List.length outcome.whiteList
    ambiguities := ambiguities.map Issue.message }

end CycleOutcome

inductive Progress where
  | start
  | rules (rules : List RouteRule) (index : PathIndex)
  | routes (index : PathIndex) (routes : Resolution (List ResolvedRoute))
  | authorities (index : PathIndex)
      (routes : Resolution (List ResolvedRoute))
      (authorities : Resolution AuthorityMap)
  | blackList (index : PathIndex)
      (routes : Resolution (List ResolvedRoute))
      (authorities : Resolution AuthorityMap)
      (blackList : Resolution (List AddressEntry))

def Progress.awaits : Progress → Category
  | start => .routes
  | rules _ _ => .bindings
  | routes _ _ => .authorities
  | authorities _ _ _ => .addresses .black
  | blackList _ _ _ _ => .addresses .white

inductive RefreshLoop where
  | refresh
  /-- The loop of a request.  A refresh that makes one after its own loop has
  its report already. -/
  | request (refreshed : Option RefreshReport)
  deriving DecidableEq, Repr

structure Cycle where
  loop : RefreshLoop
  /-- The generation that was published when the cycle began. -/
  previous : UInt64
  progress : Progress

inductive CycleStep where
  | ongoing (cycle : Cycle)
  | completed (snapshot : Snapshot) (report : RefreshReport)
  /-- The routes could not be read. -/
  | abandoned (report : RefreshReport)

namespace Cycle

def start (loop : RefreshLoop) (previous : UInt64) : Cycle :=
  { loop := loop, previous := previous, progress := .start }

def awaits (cycle : Cycle) : Category :=
  cycle.progress.awaits

/-- Takes in a read of the awaited category; any other one changes nothing. -/
def advance (settings : ResolverSettings) (read : Read) (cycle : Cycle) :
    CycleStep :=
  match cycle.progress, read with
  | .start, ⟨.routes, .ok rules⟩ =>
      .ongoing
        { cycle with progress := .rules rules (PathIndex.ofRules rules) }
  | .start, ⟨.routes, .error fault⟩ =>
      .abandoned (.retained cycle.previous fault.toIssue)
  | .rules rules index, ⟨.bindings, bindings⟩ =>
      let routes := Resolve.routes settings rules index bindings
      .ongoing { cycle with progress := .routes index routes }
  | .routes index routes, ⟨.authorities, grants⟩ =>
      let authorities := Resolve.authorities index grants
      .ongoing { cycle with progress := .authorities index routes authorities }
  | .authorities index routes authorities, ⟨.addresses .black, entries⟩ =>
      let blackList := Resolve.addresses index entries
      .ongoing
        { cycle with
          progress := .blackList index routes authorities blackList }
  | .blackList index routes authorities blackList,
      ⟨.addresses .white, entries⟩ =>
      let outcome : CycleOutcome :=
        { routes := routes
          authorities := authorities
          blackList := blackList
          whiteList := Resolve.addresses index entries }
      let generation := cycle.previous + 1
      .completed (outcome.snapshot generation)
        (outcome.report generation index.ambiguities)
  | _, _ => .ongoing cycle

end Cycle

end GatewayPolicy
