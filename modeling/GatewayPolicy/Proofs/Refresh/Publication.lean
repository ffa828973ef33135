import GatewayPolicy.Proofs.Refresh.History

/-!
# What is published

At every point of every history of a coordinator, also while a cycle is
running, all its readers are shown one snapshot: the empty one of generation 0,
or the value of the reads of the last cycle that could read the routes.  Its
generation is the number of such cycles, a cycle without routes changes nothing
and says so, and no report disagrees with what is published when its call
returns.
-/

set_option autoImplicit false

namespace GatewayPolicy

/-! ## Readers -/

/-- What a reader is shown: the snapshot as a whole and category by category. -/
structure SnapshotView where
  snapshot : Snapshot
  routes : List ResolvedRoute
  authorities : AuthorityMap
  blackList : List AddressEntry
  whiteList : List AddressEntry

def Snapshot.view (snapshot : Snapshot) : SnapshotView :=
  { snapshot := snapshot
    routes := snapshot.routes
    authorities := snapshot.authorities
    blackList := snapshot.blackList
    whiteList := snapshot.whiteList }

def Coordinator.view (coordinator : Coordinator) : SnapshotView :=
  { snapshot := coordinator.snapshot
    routes := coordinator.routes
    authorities := coordinator.authorities
    blackList := coordinator.addresses .black
    whiteList := coordinator.addresses .white }

theorem Coordinator.view_eq (coordinator : Coordinator) :
    coordinator.view = coordinator.snapshot.view := rfl

/-! ## The value and the number of what cycles publish -/

theorem FinishedCycle.publish_generation (settings : ResolverSettings)
    (before : Snapshot) (cycle : FinishedCycle) :
    (cycle.publish settings before).generation =
      before.generation + if cycle.isCompleted then 1 else 0 := by
  cases cycle with
  | completed reads => rfl
  | abandoned fault => exact (UInt64.add_zero _).symm

theorem publishAll_generation (settings : ResolverSettings)
    (first : Snapshot) (cycles : List FinishedCycle) :
    (publishAll settings first cycles).generation =
      first.generation +
        UInt64.ofNat (cycles.countP FinishedCycle.isCompleted) := by
  induction cycles generalizing first with
  | nil => exact (UInt64.add_zero _).symm
  | cons cycle rest ih =>
      have step : publishAll settings first (cycle :: rest) =
          publishAll settings (cycle.publish settings first) rest := rfl
      rw [step, ih, FinishedCycle.publish_generation, List.countP_cons,
        UInt64.ofNat_add, UInt64.add_assoc]
      congr 1
      rw [UInt64.add_comm]
      congr 1
      split <;> rfl

theorem publishAll_cases (settings : ResolverSettings) (first : Snapshot)
    (cycles : List FinishedCycle) :
    ((∀ cycle ∈ cycles, cycle.isCompleted = false) ∧
      publishAll settings first cycles = first) ∨
    ∃ earlier reads later,
      cycles = earlier ++ .completed reads :: later ∧
      (∀ cycle ∈ later, cycle.isCompleted = false) ∧
      publishAll settings first cycles =
        reads.snapshot settings
          (publishAll settings first cycles).generation := by
  induction cycles generalizing first with
  | nil => exact Or.inl ⟨nofun, rfl⟩
  | cons cycle rest ih =>
      have step : publishAll settings first (cycle :: rest) =
          publishAll settings (cycle.publish settings first) rest := rfl
      rw [step]
      rcases ih (cycle.publish settings first) with
        ⟨none, kept⟩ | ⟨earlier, reads, later, split, none, value⟩
      · cases cycle with
        | completed reads =>
            refine Or.inr ⟨[], reads, rest, rfl, none, ?_⟩
            rw [kept]
            rfl
        | abandoned fault =>
            refine Or.inl ⟨?_, kept⟩
            intro cycle member
            rcases List.mem_cons.mp member with rfl | member
            · rfl
            · exact none cycle member
      · exact Or.inr ⟨cycle :: earlier, reads, later, by rw [split]; rfl, none,
          value⟩

/-! ## Every reader sees the value of one cycle -/

/-- The reads of a history are those of its finished cycles and of the one
that is running.  Whoever reads the coordinator then, from inside that cycle
or from outside, is shown the empty snapshot if no finished cycle could read
the routes, and otherwise what the reads of the last such cycle determine. -/
theorem view_determined_by_one_cycle {State : Type}
    (answers : State → Reading) (settings : ResolverSettings) (store : State)
    (events : List (RefreshEvent State)) :
    let system := RefreshSystem.new settings store
    let reads := system.history answers events
    let cycles := finishedCycles reads
    let coordinator := (system.run answers events).coordinator
    (∃ unfinished,
      reads = cycles.flatMap FinishedCycle.reads ++ unfinished ∧
      unfinished.length < 5 ∧
      (coordinator.isRefreshing = false → unfinished = [])) ∧
    (((∀ cycle ∈ cycles, cycle.isCompleted = false) ∧
        coordinator.view = Snapshot.empty.view) ∨
      ∃ earlier last later,
        cycles = earlier ++ .completed last :: later ∧
        (∀ cycle ∈ later, cycle.isCompleted = false) ∧
        coordinator.view =
          (last.snapshot settings
            (UInt64.ofNat (cycles.countP FinishedCycle.isCompleted))).view) := by
  intro system reads cycles coordinator
  obtain ⟨unfinished, follows, split⟩ :=
    RefreshSystem.run_new_follows answers settings store events
  obtain ⟨progress, made⟩ := follows.exists_progress
  constructor
  · refine ⟨unfinished, split, made.length_lt, ?_⟩
    intro free
    exact follows.unfinished_of_idle (Coordinator.idle_of_free free)
  · have published :
        coordinator.snapshot = publishAll settings .empty cycles :=
      follows.published
    have generation :
        (publishAll settings .empty cycles).generation =
          UInt64.ofNat (cycles.countP FinishedCycle.isCompleted) := by
      rw [publishAll_generation]
      exact UInt64.zero_add _
    rw [Coordinator.view_eq, published, ← generation]
    rcases publishAll_cases settings .empty cycles with
      ⟨none, kept⟩ | ⟨earlier, last, later, parts, none, value⟩
    · exact Or.inl ⟨none, congrArg Snapshot.view kept⟩
    · exact Or.inr
        ⟨earlier, last, later, parts, none, congrArg Snapshot.view value⟩

/-! ## Generations count the cycles that published -/

theorem generation_toNat {State : Type} (answers : State → Reading)
    (settings : ResolverSettings) (store : State)
    (events : List (RefreshEvent State)) :
    let system := RefreshSystem.new settings store
    let cycles := finishedCycles (system.history answers events)
    cycles.length < UInt64.size →
      (system.run answers events).coordinator.snapshot.generation.toNat =
        cycles.countP FinishedCycle.isCompleted := by
  intro system cycles few
  obtain ⟨unfinished, follows, split⟩ :=
    RefreshSystem.run_new_follows answers settings store events
  have counted : cycles.countP FinishedCycle.isCompleted < UInt64.size :=
    Nat.lt_of_le_of_lt List.countP_le_length few
  rw [follows.published, publishAll_generation]
  exact (congrArg UInt64.toNat (UInt64.zero_add _)).trans
    (UInt64.toNat_ofNat_of_lt counted)

/-- One more event after any history.  Generations count the completed cycles,
and a report that is returned carries the published one.  The event publishes
nothing, or it completes a cycle and publishes the next generation, whichever
of the other categories failed, or it abandons a cycle.  An abandoned cycle
made no read but that of the routes, keeps the snapshot as it is, and reports
the fault of this read for every category. -/
theorem generation_counts_completed_cycles {State : Type}
    (answers : State → Reading) (settings : ResolverSettings) (store : State)
    (events : List (RefreshEvent State)) (event : RefreshEvent State)
    (few : (finishedCycles ((RefreshSystem.new settings store).history answers
      (events ++ [event]))).length < UInt64.size) :
    let system := RefreshSystem.new settings store
    let before := system.run answers events
    let after := (before.step answers event).1
    let reply := (before.step answers event).2
    let cycles := finishedCycles (system.history answers events)
    let cyclesAfter :=
      finishedCycles (system.history answers (events ++ [event]))
    before.coordinator.snapshot.generation.toNat =
      cycles.countP FinishedCycle.isCompleted ∧
    after.coordinator.snapshot.generation.toNat =
      cyclesAfter.countP FinishedCycle.isCompleted ∧
    (∀ report, reply = some (.returned (some report)) →
      report.generation = after.coordinator.snapshot.generation) ∧
    ((cyclesAfter = cycles ∧
        after.coordinator.snapshot = before.coordinator.snapshot) ∨
      (∃ reads,
        cyclesAfter = cycles ++ [.completed reads] ∧
        after.coordinator.snapshot.generation.toNat =
          before.coordinator.snapshot.generation.toNat + 1) ∨
      (∃ fault,
        cyclesAfter = cycles ++ [.abandoned fault] ∧
        system.history answers (events ++ [event]) =
          cycles.flatMap FinishedCycle.reads ++ [⟨.routes, .error fault⟩] ∧
        after.coordinator.snapshot = before.coordinator.snapshot ∧
        ∀ report, reply = some (.returned (some report)) →
          report.installed = false ∧
          report.generation = before.coordinator.snapshot.generation ∧
          report.ambiguities = [] ∧
          report.routes = .degraded fault.toIssue.message ∧
          report.authorities = .degraded fault.toIssue.message ∧
          report.blackList = .degraded fault.toIssue.message ∧
          report.whiteList = .degraded fault.toIssue.message)) := by
  intro system before after reply cycles cyclesAfter
  obtain ⟨unfinished, ended, still, split, found, progresses⟩ :=
    RefreshSystem.run_new_progresses answers settings store events event
  have grown : cyclesAfter = cycles ++ ended := found
  have ran : system.run answers (events ++ [event]) = after :=
    RefreshSystem.run_append answers system events [event]
  have numberAfter : after.coordinator.snapshot.generation.toNat =
      cyclesAfter.countP FinishedCycle.isCompleted := by
    rw [← ran]
    exact generation_toNat answers settings store (events ++ [event]) few
  have fewBefore : cycles.length < UInt64.size := by
    have total : cyclesAfter.length = cycles.length + ended.length := by
      rw [grown, List.length_append]
    have limit : cyclesAfter.length < UInt64.size := few
    omega
  have numberBefore : before.coordinator.snapshot.generation.toNat =
      cycles.countP FinishedCycle.isCompleted :=
    generation_toNat answers settings store events fewBefore
  refine ⟨numberBefore, numberAfter, ?_, ?_⟩
  · intro report returned
    cases progresses with
    | goesOn published silent => exact absurd returned (silent report)
    | ends cycle made published reported =>
        rw [reported report returned, published]
        exact cycle.report_generation settings before.coordinator.snapshot
  · cases progresses with
    | goesOn published silent =>
        rw [List.append_nil] at grown
        exact Or.inl ⟨grown, published⟩
    | ends cycle made published reported =>
        right
        cases cycle with
        | completed reads =>
            refine Or.inl ⟨reads, grown, ?_⟩
            rw [numberAfter, numberBefore, grown, List.countP_append]
            rfl
        | abandoned fault =>
            refine Or.inr ⟨fault, grown, ?_, published, ?_⟩
            · rw [RefreshSystem.history_append_singleton]
              refine (congrArg (· ++ _) split).trans ?_
              rw [List.append_assoc, ← made]
              rfl
            · intro report returned
              rw [reported report returned]
              exact ⟨rfl, rfl, rfl, rfl, rfl, rfl, rfl⟩

theorem generation_of_outage :
    let answers : Bool → Reading := fun readable _ =>
      if readable then .ok [] else .error (.unavailable "down")
    let system := RefreshSystem.new { keyResolver := "path" } true
    let events : List (RefreshEvent Bool) :=
      [.call .refresh, .read, .read, .read, .read, .read,
        .edit fun _ => false, .call .request]
    let after := ((system.run answers events).step answers .read).1
    after.coordinator.snapshot.generation.toNat = 1 := by
  intro answers system events after
  have few : (finishedCycles (system.history answers
      (events ++ [.read]))).length < UInt64.size := by
    decide
  exact (generation_counts_completed_cycles answers { keyResolver := "path" }
    true events .read few).2.1

end GatewayPolicy
