import GatewayPolicy.Proofs.Routing.Listing
import GatewayPolicy.Refresh.Cycle

/-!
# What the reads of a cycle determine

A finished cycle is known by its reads: the five categories in their order, or
the routes alone where these could not be read.  What the cycle publishes and
what it reports are written down here as functions of those reads, without
the steps on the way.  The main statement is that a cycle which takes its reads
in one by one, from a store that may change between any two of them, ends with
exactly that snapshot and that report.
-/

set_option autoImplicit false

namespace GatewayPolicy

structure CycleReads where
  rules : List RouteRule
  bindings : Except StoreFault (List LimitBinding)
  grants : Except StoreFault (List AuthorityGrant)
  blackList : Except StoreFault (List AddressEntry)
  whiteList : Except StoreFault (List AddressEntry)

inductive FinishedCycle where
  | completed (reads : CycleReads)
  /-- The routes could not be read. -/
  | abandoned (fault : StoreFault)

theorem Read.answer_of_eq_of {reading : Reading} {category other : Category}
    {answer : Except StoreFault (List category.Row)}
    (made : (⟨category, answer⟩ : Read) = Read.of reading other) :
    answer = reading category := by
  obtain ⟨rfl, same⟩ := Read.mk.inj made
  exact eq_of_heq same

/-! ## The value of the reads -/

def valueOfRead {Row Value : Type} (resolve : List Row → List Value) :
    Except StoreFault (List Row) → List Value
  | .ok rows => resolve rows
  | .error _ => []

def statusOfRead {Row Value : Type} (resolve : List Row → List Value)
    (skipped : List Row → List Issue) :
    Except StoreFault (List Row) → CategoryStatus
  | .ok rows =>
      .loaded (resolve rows).length ((skipped rows).map Issue.message)
  | .error fault => .degraded fault.toIssue.message

theorem Resolve.routes_eq (settings : ResolverSettings)
    (rules : List RouteRule) (index : PathIndex)
    (bindings : Except StoreFault (List LimitBinding)) :
    routes settings rules index bindings =
      .ofRead bindings fun rows =>
        .loaded (Routing.routes rules rows index settings)
          (Routing.skippedBindings rows) := by
  simp only [routes, Routing.resolve_eq]

namespace CycleReads

/-- The index of the routes that this cycle read; no other one occurs in what
the cycle publishes. -/
def index (reads : CycleReads) : PathIndex :=
  PathIndex.ofRules reads.rules

def resolveRoutes (reads : CycleReads) (settings : ResolverSettings)
    (bindings : List LimitBinding) : List ResolvedRoute :=
  Routing.routes reads.rules bindings reads.index settings

def resolveGrants (reads : CycleReads) (grants : List AuthorityGrant) :
    AuthorityMap :=
  Access.authorityMap grants reads.index

def resolveAddresses (reads : CycleReads) (entries : List AddressEntry) :
    List AddressEntry :=
  Access.addressEntries entries reads.index

def snapshot (reads : CycleReads) (settings : ResolverSettings)
    (generation : UInt64) : Snapshot :=
  { generation := generation
    routes := valueOfRead (reads.resolveRoutes settings) reads.bindings
    authorities := valueOfRead reads.resolveGrants reads.grants
    blackList := valueOfRead reads.resolveAddresses reads.blackList
    whiteList := valueOfRead reads.resolveAddresses reads.whiteList }

/-- The report that the reads determine.  Only bindings are ever skipped. -/
def report (reads : CycleReads) (settings : ResolverSettings)
    (generation : UInt64) : RefreshReport :=
  { generation := generation
    installed := true
    routes :=
      statusOfRead (reads.resolveRoutes settings) Routing.skippedBindings
        reads.bindings
    authorities := statusOfRead reads.resolveGrants (fun _ => []) reads.grants
    blackList :=
      statusOfRead reads.resolveAddresses (fun _ => []) reads.blackList
    whiteList :=
      statusOfRead reads.resolveAddresses (fun _ => []) reads.whiteList
    ambiguities := reads.index.ambiguities.map Issue.message }

def outcome (reads : CycleReads) (settings : ResolverSettings) :
    CycleOutcome :=
  { routes :=
      Resolve.routes settings reads.rules reads.index reads.bindings
    authorities := Resolve.authorities reads.index reads.grants
    blackList := Resolve.addresses reads.index reads.blackList
    whiteList := Resolve.addresses reads.index reads.whiteList }

theorem outcome_routes (reads : CycleReads) (settings : ResolverSettings) :
    (reads.outcome settings).routes =
      .ofRead reads.bindings fun rows =>
        .loaded (reads.resolveRoutes settings rows)
          (Routing.skippedBindings rows) :=
  Resolve.routes_eq settings reads.rules reads.index reads.bindings

theorem outcome_snapshot (reads : CycleReads) (settings : ResolverSettings)
    (generation : UInt64) :
    (reads.outcome settings).snapshot generation =
      reads.snapshot settings generation := by
  rw [CycleOutcome.snapshot, outcome_routes]
  obtain ⟨rules, bindings, grants, blackList, whiteList⟩ := reads
  cases bindings <;> cases grants <;> cases blackList <;> cases whiteList <;>
    rfl

theorem outcome_report (reads : CycleReads) (settings : ResolverSettings)
    (generation : UInt64) :
    (reads.outcome settings).report generation reads.index.ambiguities =
      reads.report settings generation := by
  rw [CycleOutcome.report, outcome_routes]
  obtain ⟨rules, bindings, grants, blackList, whiteList⟩ := reads
  cases bindings <;> cases grants <;> cases blackList <;> cases whiteList <;>
    rfl

end CycleReads

namespace FinishedCycle

def isCompleted : FinishedCycle → Bool
  | completed _ => true
  | abandoned _ => false

def reads : FinishedCycle → List Read
  | completed reads =>
      [⟨.routes, .ok reads.rules⟩, ⟨.bindings, reads.bindings⟩,
        ⟨.authorities, reads.grants⟩, ⟨.addresses .black, reads.blackList⟩,
        ⟨.addresses .white, reads.whiteList⟩]
  | abandoned fault => [⟨.routes, .error fault⟩]

def publish (settings : ResolverSettings) (before : Snapshot) :
    FinishedCycle → Snapshot
  | completed reads => reads.snapshot settings (before.generation + 1)
  | abandoned _ => before

def report (settings : ResolverSettings) (before : Snapshot) :
    FinishedCycle → RefreshReport
  | completed reads => reads.report settings (before.generation + 1)
  | abandoned fault => .retained before.generation fault.toIssue

def lastStep (settings : ResolverSettings) (before : Snapshot)
    (cycle : FinishedCycle) : CycleStep :=
  match cycle with
  | completed _ =>
      .completed (cycle.publish settings before) (cycle.report settings before)
  | abandoned _ => .abandoned (cycle.report settings before)

theorem report_generation (settings : ResolverSettings) (before : Snapshot)
    (cycle : FinishedCycle) :
    (cycle.report settings before).generation =
      (cycle.publish settings before).generation := by
  cases cycle <;> rfl

theorem categories_of_reads (cycle : FinishedCycle) :
    cycle.reads.map Read.category =
      if cycle.isCompleted then Category.all else [.routes] := by
  cases cycle <;> rfl

theorem reads_length_le (cycle : FinishedCycle) : cycle.reads.length ≤ 5 := by
  cases cycle <;> simp [reads]

end FinishedCycle

/-! ## Taking the reads in one by one -/

/-- The progress of a cycle that has made these reads and no more. -/
inductive Progress.MadeOf (settings : ResolverSettings) :
    List Read → Progress → Prop where
  | start : MadeOf settings [] .start
  | rules (rules : List RouteRule) :
      MadeOf settings [⟨.routes, .ok rules⟩]
        (.rules rules (PathIndex.ofRules rules))
  | routes (rules : List RouteRule)
      (bindings : Except StoreFault (List LimitBinding)) :
      MadeOf settings [⟨.routes, .ok rules⟩, ⟨.bindings, bindings⟩]
        (.routes (PathIndex.ofRules rules)
          (Resolve.routes settings rules (PathIndex.ofRules rules) bindings))
  | authorities (rules : List RouteRule)
      (bindings : Except StoreFault (List LimitBinding))
      (grants : Except StoreFault (List AuthorityGrant)) :
      MadeOf settings
        [⟨.routes, .ok rules⟩, ⟨.bindings, bindings⟩, ⟨.authorities, grants⟩]
        (.authorities (PathIndex.ofRules rules)
          (Resolve.routes settings rules (PathIndex.ofRules rules) bindings)
          (Resolve.authorities (PathIndex.ofRules rules) grants))
  | blackList (rules : List RouteRule)
      (bindings : Except StoreFault (List LimitBinding))
      (grants : Except StoreFault (List AuthorityGrant))
      (blackList : Except StoreFault (List AddressEntry)) :
      MadeOf settings
        [⟨.routes, .ok rules⟩, ⟨.bindings, bindings⟩, ⟨.authorities, grants⟩,
          ⟨.addresses .black, blackList⟩]
        (.blackList (PathIndex.ofRules rules)
          (Resolve.routes settings rules (PathIndex.ofRules rules) bindings)
          (Resolve.authorities (PathIndex.ofRules rules) grants)
          (Resolve.addresses (PathIndex.ofRules rules) blackList))

theorem Progress.MadeOf.length_lt {settings : ResolverSettings}
    {reads : List Read} {progress : Progress}
    (made : progress.MadeOf settings reads) : reads.length < 5 := by
  cases made <;> simp

/-- One more read: the cycle goes on with it, or it was the last one and the
cycle ends as all its reads determine. -/
theorem Cycle.advance_cases {settings : ResolverSettings} {before : Snapshot}
    {cycle : Cycle} {reads : List Read} {read : Read}
    (awaited : read.category = cycle.awaits)
    (began : cycle.previous = before.generation)
    (made : cycle.progress.MadeOf settings reads) :
    (∃ next : Cycle,
      cycle.advance settings read = .ongoing next ∧
      next.previous = before.generation ∧
      next.progress.MadeOf settings (reads ++ [read])) ∨
    (∃ finished : FinishedCycle,
      cycle.advance settings read = finished.lastStep settings before ∧
      finished.reads = reads ++ [read]) := by
  obtain ⟨loop, previous, progress⟩ := cycle
  obtain ⟨category, answer⟩ := read
  obtain rfl : category = progress.awaits := awaited
  subst began
  cases made with
  | start =>
      cases answer with
      | ok rules => exact Or.inl ⟨_, rfl, rfl, .rules rules⟩
      | error fault => exact Or.inr ⟨.abandoned fault, rfl, rfl⟩
  | rules rules => exact Or.inl ⟨_, rfl, rfl, .routes rules answer⟩
  | routes rules bindings =>
      exact Or.inl ⟨_, rfl, rfl, .authorities rules bindings answer⟩
  | authorities rules bindings grants =>
      exact Or.inl ⟨_, rfl, rfl, .blackList rules bindings grants answer⟩
  | blackList rules bindings grants blackList =>
      let finished : CycleReads :=
        { rules := rules
          bindings := bindings
          grants := grants
          blackList := blackList
          whiteList := answer }
      refine Or.inr ⟨.completed finished, ?_, rfl⟩
      have published :=
        finished.outcome_snapshot settings (before.generation + 1)
      have reported := finished.outcome_report settings (before.generation + 1)
      simp only [FinishedCycle.lastStep, FinishedCycle.publish,
        FinishedCycle.report, ← published, ← reported]
      rfl

/-! ## Finding the cycles in a sequence of reads -/

/-- The finished cycles of a sequence of reads, oldest first.  A cycle begins
where the routes are read. -/
def finishedCycles : List Read → List FinishedCycle
  | ⟨.routes, .error fault⟩ :: rest => .abandoned fault :: finishedCycles rest
  | ⟨.routes, .ok rules⟩ :: ⟨.bindings, bindings⟩ :: ⟨.authorities, grants⟩ ::
      ⟨.addresses .black, blackList⟩ :: ⟨.addresses .white, whiteList⟩ ::
        rest =>
      .completed
          { rules := rules
            bindings := bindings
            grants := grants
            blackList := blackList
            whiteList := whiteList } ::
        finishedCycles rest
  | _ => []

theorem finishedCycles_reads_append (cycle : FinishedCycle)
    (rest : List Read) :
    finishedCycles (cycle.reads ++ rest) = cycle :: finishedCycles rest := by
  cases cycle <;> rfl

theorem finishedCycles_of_unfinished {settings : ResolverSettings}
    {unfinished : List Read} {progress : Progress}
    (made : progress.MadeOf settings unfinished) :
    finishedCycles unfinished = [] := by
  cases made <;> rfl

theorem finishedCycles_flatMap_reads_append {settings : ResolverSettings}
    {unfinished : List Read} {progress : Progress}
    (made : progress.MadeOf settings unfinished)
    (cycles : List FinishedCycle) :
    finishedCycles (cycles.flatMap FinishedCycle.reads ++ unfinished) =
      cycles := by
  induction cycles with
  | nil => simpa using finishedCycles_of_unfinished made
  | cons cycle rest ih =>
      rw [List.flatMap_cons, List.append_assoc, finishedCycles_reads_append, ih]

end GatewayPolicy
