import GatewayPolicy.Proofs.Refresh.Invariant

/-!
# Calls on a store that stands still

A call that makes its reads one after the other, on a store that nobody
changes and with nobody to note a request, runs one cycle.  That cycle, and so
what the call publishes and reports, is determined by what the store answers.
-/

set_option autoImplicit false

namespace GatewayPolicy

def FinishedCycle.ofReading (reading : Reading) : FinishedCycle :=
  match reading .routes with
  | .ok rules =>
      .completed
        { rules := rules
          bindings := reading .bindings
          grants := reading .authorities
          blackList := reading (.addresses .black)
          whiteList := reading (.addresses .white) }
  | .error fault => .abandoned fault

theorem FinishedCycle.ofReading_of_ok {reading : Reading}
    {rules : List RouteRule} (readable : reading .routes = .ok rules) :
    ofReading reading =
      .completed
        { rules := rules
          bindings := reading .bindings
          grants := reading .authorities
          blackList := reading (.addresses .black)
          whiteList := reading (.addresses .white) } := by
  simp only [ofReading, readable]

theorem FinishedCycle.ofReading_of_error {reading : Reading}
    {fault : StoreFault} (unreadable : reading .routes = .error fault) :
    ofReading reading = .abandoned fault := by
  simp only [ofReading, unreadable]

theorem FinishedCycle.eq_ofReading {reading : Reading} {cycle : FinishedCycle}
    (answered : ∀ read ∈ cycle.reads, ∃ category,
      read = Read.of reading category) :
    cycle = ofReading reading := by
  have answer {category : Category}
      {answer : Except StoreFault (List category.Row)}
      (made : (⟨category, answer⟩ : Read) ∈ cycle.reads) :
      answer = reading category := by
    obtain ⟨_, same⟩ := answered _ made
    exact Read.answer_of_eq_of same
  cases cycle with
  | completed reads =>
      obtain ⟨rules, bindings, grants, blackList, whiteList⟩ := reads
      have routes : .ok rules = reading .routes := answer (.head _)
      have bindingsRead : bindings = reading .bindings :=
        answer (.tail _ (.head _))
      have grantsRead : grants = reading .authorities :=
        answer (.tail _ (.tail _ (.head _)))
      have blackRead : blackList = reading (.addresses .black) :=
        answer (.tail _ (.tail _ (.tail _ (.head _))))
      have whiteRead : whiteList = reading (.addresses .white) :=
        answer (.tail _ (.tail _ (.tail _ (.tail _ (.head _)))))
      rw [ofReading_of_ok routes.symm, bindingsRead, grantsRead, blackRead,
        whiteRead]
  | abandoned fault =>
      have routes : .error fault = reading .routes := answer (.head _)
      rw [ofReading_of_error routes.symm]

namespace Coordinator

theorem follow_returned (reading : Reading) (reads : Nat)
    (report : Option RefreshReport) (coordinator : Coordinator) :
    (Reply.follow (answerFrom reading) reads (.returned report)).run
      coordinator = (report, coordinator) := by
  cases reads <;> rfl

theorem follow_reading (reading : Reading) (reads : Nat)
    (coordinator : Coordinator) :
    (Reply.follow (answerFrom reading) (reads + 1) .reading).run coordinator =
      match coordinator.ask reading with
      | some read =>
          (Reply.follow (answerFrom reading) reads
            (coordinator.read read).2).run (coordinator.read read).1
      | none => (none, coordinator) := by
  have answered : (answerFrom reading).run coordinator =
      match coordinator.ask reading with
      | some read => ((coordinator.read read).2, (coordinator.read read).1)
      | none => (.returned none, coordinator) :=
    rfl
  rw [Reply.follow, StateT.run_bind, answered]
  cases coordinator.ask reading with
  | some read => rfl
  | none => exact follow_returned reading reads none coordinator

/-- The reads of the cycle end the call: five of them, or the first one where
the routes cannot be read. -/
theorem complete_beginCycle (coordinator : Coordinator) (loop : RefreshLoop)
    (reading : Reading) :
    complete reading (coordinator.beginCycle loop) =
      let cycle := FinishedCycle.ofReading reading
      ({ coordinator with
          snapshot := cycle.publish coordinator.settings coordinator.snapshot
          pending := false
          activity := .idle },
        some (cycle.report coordinator.settings coordinator.snapshot)) := by
  cases routes : reading .routes with
  | error fault =>
      rw [FinishedCycle.ofReading_of_error routes]
      simp only [complete, beginCycle, Category.all, List.length_cons,
        List.length_nil, follow_reading, ask, read, Cycle.start, Cycle.awaits,
        Progress.awaits, Read.of, Cycle.advance, routes]
      rw [resume_of_not_pending rfl, follow_returned]
      rfl
  | ok rules =>
      rw [FinishedCycle.ofReading_of_ok routes]
      simp only [complete, beginCycle, Category.all, List.length_cons,
        List.length_nil, follow_reading, ask, read, Cycle.start, Cycle.awaits,
        Progress.awaits, Read.of, Cycle.advance, routes]
      rw [resume_of_not_pending rfl, follow_returned]
      simp only [FinishedCycle.publish, FinishedCycle.report,
        ← CycleReads.outcome_snapshot, ← CycleReads.outcome_report]
      rfl

/-- A call that finds the coordinator free leaves it free, with the snapshot
and the report of the one cycle that it ran. -/
theorem complete_call {coordinator : Coordinator}
    (free : coordinator.isRefreshing = false) (call : RefreshCall)
    (reading : Reading) :
    complete reading (coordinator.call call) =
      let cycle := FinishedCycle.ofReading reading
      ({ coordinator with
          snapshot := cycle.publish coordinator.settings coordinator.snapshot
          pending := false
          activity := .idle },
        some (cycle.report coordinator.settings coordinator.snapshot)) := by
  rw [call_of_idle (idle_of_free free) call]
  exact coordinator.complete_beginCycle call.loop reading

end Coordinator

end GatewayPolicy
