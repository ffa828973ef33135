import GatewayPolicy.Proofs.Refresh.Invariant
import GatewayPolicy.Refresh.System

/-!
# Histories of a coordinator

What a load method does stands in the order of events before the read; one
that goes on after it has chosen its answer keeps the answer in the state of its
store.

The main statement is that the invariant holds at every point of every such
order, for the cycles that are found in the reads made up to that point.
-/

set_option autoImplicit false

namespace GatewayPolicy

namespace RefreshSystem

variable {State : Type} (answers : State → Reading)

def readsOf (system : RefreshSystem State) : RefreshEvent State → List Read
  | .edit _ => []
  | .call _ => []
  | .read => (system.ask answers).toList

def run (system : RefreshSystem State) :
    List (RefreshEvent State) → RefreshSystem State
  | [] => system
  | event :: rest => run (system.step answers event).1 rest

def history (system : RefreshSystem State) :
    List (RefreshEvent State) → List Read
  | [] => []
  | event :: rest =>
      system.readsOf answers event ++
        history (system.step answers event).1 rest

theorem run_append (system : RefreshSystem State)
    (first second : List (RefreshEvent State)) :
    system.run answers (first ++ second) =
      (system.run answers first).run answers second := by
  induction first generalizing system with
  | nil => rfl
  | cons event rest ih => exact ih (system.step answers event).1

theorem history_append (system : RefreshSystem State)
    (first second : List (RefreshEvent State)) :
    system.history answers (first ++ second) =
      system.history answers first ++
        (system.run answers first).history answers second := by
  induction first generalizing system with
  | nil => rfl
  | cons event rest ih =>
      simp only [List.cons_append, history, run, ih, List.append_assoc]

theorem history_append_singleton (system : RefreshSystem State)
    (events : List (RefreshEvent State)) (event : RefreshEvent State) :
    system.history answers (events ++ [event]) =
      system.history answers events ++
        (system.run answers events).readsOf answers event := by
  rw [history_append]
  simp only [history, List.append_nil]

/-! ## What an event does to the invariant -/

inductive Progresses (settings : ResolverSettings) (before : Coordinator)
    (unfinished : List Read) (after : Coordinator) (reply : Option Reply)
    (reads : List Read) : List FinishedCycle → List Read → Prop where
  | goesOn (published : after.snapshot = before.snapshot)
      (silent : ∀ report, reply ≠ some (.returned (some report))) :
      Progresses settings before unfinished after reply reads []
        (unfinished ++ reads)
  | ends (cycle : FinishedCycle) (made : cycle.reads = unfinished ++ reads)
      (published : after.snapshot = cycle.publish settings before.snapshot)
      (reported : ∀ report, reply = some (.returned (some report)) →
        report = cycle.report settings before.snapshot) :
      Progresses settings before unfinished after reply reads [cycle] []

variable {settings : ResolverSettings} {first : Snapshot}
  {finished : List FinishedCycle} {unfinished : List Read}

/-- A call that runs a cycle has its report from a read, and the others have
none. -/
theorem call_silent (coordinator : Coordinator) (call : RefreshCall)
    (report : RefreshReport) :
    (coordinator.call call).2 ≠ .returned (some report) := by
  rcases coordinator.call_cases call with
    ⟨_, step⟩ | ⟨_, _, _, step⟩ | ⟨_, _, _, step⟩ <;>
  · rw [step]
    exact nofun

theorem call_snapshot (coordinator : Coordinator) (call : RefreshCall) :
    (coordinator.call call).1.snapshot = coordinator.snapshot := by
  rcases coordinator.call_cases call with
    ⟨_, step⟩ | ⟨_, _, _, step⟩ | ⟨_, _, _, step⟩ <;>
  exact congrArg (fun result => result.1.snapshot) step

theorem report_of_endsCycle {before after : Coordinator} {loop : RefreshLoop}
    {cycle : FinishedCycle} {reply : Reply} {report : RefreshReport}
    (ends : before.EndsCycle settings loop cycle after reply)
    (returned : reply = .returned (some report)) :
    report = cycle.report settings before.snapshot := by
  have activity := ends.activity
  split at activity
  · rw [activity.2] at returned
    cases returned
  · rw [activity.2] at returned
    cases returned
    rfl

theorem step_follows (system : RefreshSystem State)
    (event : RefreshEvent State)
    (follows :
      system.coordinator.Follows settings first finished unfinished) :
    ∃ ended still,
      (system.step answers event).1.coordinator.Follows settings first
        (finished ++ ended) still ∧
      Progresses settings system.coordinator unfinished
        (system.step answers event).1.coordinator
        (system.step answers event).2 (system.readsOf answers event)
        ended still := by
  cases event with
  | edit change =>
      refine ⟨[], _, ?_, .goesOn rfl nofun⟩
      simpa [step, readsOf, edit] using follows
  | call call =>
      refine ⟨[], _, ?_, .goesOn (call_snapshot _ call) ?_⟩
      · simpa [step, readsOf] using follows.call call
      · intro report replied
        exact call_silent system.coordinator call report
          (Option.some.inj replied)
  | read =>
      cases activity : system.coordinator.activity with
      | idle =>
          have unasked := Coordinator.ask_of_idle activity
            (answers system.store)
          refine ⟨[], _, ?_, .goesOn ?_ ?_⟩
          · simpa [step, readsOf, ask, unasked] using follows
          · simp [step, ask, unasked]
          · simp [step, ask, unasked]
      | reading cycle =>
          let read := Read.of (answers system.store) cycle.awaits
          have asked : system.ask answers = some read :=
            Coordinator.ask_of_reading activity _
          have reads : system.readsOf answers .read = [read] := by
            rw [readsOf, asked]
            rfl
          have stepped : system.step answers .read =
              ({ system with
                  coordinator := (system.coordinator.read read).1 },
                some (system.coordinator.read read).2) := by
            simp only [step, asked]
          rw [stepped, reads]
          have awaited : read.category = cycle.awaits := rfl
          rcases Coordinator.read_cases follows activity awaited with
            ⟨next, taken, still⟩ | ⟨last, made, ends, still⟩
          · refine ⟨[], _, ?_, .goesOn ?_ ?_⟩
            · rw [List.append_nil]
              exact still
            · exact congrArg (fun result => result.1.snapshot) taken
            · simp [taken]
          · refine ⟨[last], [], still, .ends last made ends.published ?_⟩
            intro report replied
            exact report_of_endsCycle ends (Option.some.inj replied)

/-! ## What a run does to the invariant -/

/-- The reads that were not yet part of a finished cycle, with those that an
event adds, are the reads of the cycles that it ends and what is left. -/
theorem Progresses.reads_eq {before after : Coordinator}
    {reply : Option Reply} {reads still : List Read}
    {ended : List FinishedCycle}
    (progresses :
      Progresses settings before unfinished after reply reads ended still) :
    unfinished ++ reads = ended.flatMap FinishedCycle.reads ++ still := by
  cases progresses with
  | goesOn published silent => simp
  | ends cycle made published reported => simp [made]

theorem run_follows (system : RefreshSystem State)
    (events : List (RefreshEvent State))
    (follows :
      system.coordinator.Follows settings first finished unfinished) :
    ∃ ended still,
      (system.run answers events).coordinator.Follows settings first
        (finished ++ ended) still ∧
      unfinished ++ system.history answers events =
        ended.flatMap FinishedCycle.reads ++ still := by
  induction events generalizing system finished unfinished with
  | nil =>
      refine ⟨[], unfinished, ?_, ?_⟩
      · simpa [run] using follows
      · simp [history]
  | cons event rest ih =>
      obtain ⟨ended, still, next, progresses⟩ :=
        step_follows answers system event follows
      obtain ⟨later, left, final, reads⟩ := ih _ next
      refine ⟨ended ++ later, left, ?_, ?_⟩
      · rw [← List.append_assoc]
        exact final
      · rw [history, ← List.append_assoc, progresses.reads_eq,
          List.append_assoc, reads, List.flatMap_append, List.append_assoc]

theorem finishedCycles_eq {coordinator : Coordinator} {reads : List Read}
    (follows : coordinator.Follows settings first finished unfinished)
    (split : reads = finished.flatMap FinishedCycle.reads ++ unfinished) :
    finishedCycles reads = finished := by
  obtain ⟨progress, made⟩ := follows.exists_progress
  rw [split]
  exact finishedCycles_flatMap_reads_append made finished

/-- A run from the start follows the cycles found in its reads. -/
theorem run_new_follows (settings : ResolverSettings) (store : State)
    (events : List (RefreshEvent State)) :
    let system := new settings store
    let reads := system.history answers events
    ∃ unfinished,
      (system.run answers events).coordinator.Follows settings .empty
        (finishedCycles reads) unfinished ∧
      reads = (finishedCycles reads).flatMap FinishedCycle.reads ++
        unfinished := by
  intro system reads
  obtain ⟨ended, still, follows, split⟩ :=
    run_follows answers system events (Coordinator.Follows.new settings)
  rw [List.nil_append] at follows split
  rw [finishedCycles_eq follows split]
  exact ⟨still, follows, split⟩

/-- One more event adds the cycle that it ends to those found before. -/
theorem run_new_progresses (settings : ResolverSettings) (store : State)
    (events : List (RefreshEvent State)) (event : RefreshEvent State) :
    let system := new settings store
    let before := system.run answers events
    let cycles := finishedCycles (system.history answers events)
    ∃ unfinished ended still,
      system.history answers events =
        cycles.flatMap FinishedCycle.reads ++ unfinished ∧
      finishedCycles (system.history answers (events ++ [event])) =
        cycles ++ ended ∧
      Progresses settings before.coordinator unfinished
        (before.step answers event).1.coordinator
        (before.step answers event).2 (before.readsOf answers event) ended
        still := by
  intro system before cycles
  obtain ⟨unfinished, follows, split⟩ :=
    run_new_follows answers settings store events
  obtain ⟨ended, still, next, progresses⟩ :=
    step_follows answers before event follows
  refine ⟨unfinished, ended, still, split, ?_, progresses⟩
  apply finishedCycles_eq next
  let reads := before.readsOf answers event
  calc system.history answers (events ++ [event])
      = system.history answers events ++ reads :=
        history_append_singleton answers system events event
    _ = (cycles.flatMap FinishedCycle.reads ++ unfinished) ++ reads :=
        congrArg (· ++ reads) split
    _ = (cycles ++ ended).flatMap FinishedCycle.reads ++ still := by
        rw [List.append_assoc, progresses.reads_eq, List.flatMap_append,
          List.append_assoc]

end RefreshSystem

end GatewayPolicy
