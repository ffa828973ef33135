import GatewayPolicy.Proofs.Refresh.Rest
import GatewayPolicy.Refresh.Clock

/-!
# When a snapshot was published

The time that is shown of a snapshot is the one of its own publication: only a
cycle that publishes sets it, and one that is abandoned leaves it with the
snapshot that is kept.
-/

set_option autoImplicit false

namespace GatewayPolicy

theorem Coordinator.snapshot_resume (coordinator : Coordinator)
    (report : RefreshReport) (loop : RefreshLoop) :
    (coordinator.resume report loop).1.snapshot = coordinator.snapshot := by
  cases pending : coordinator.pending with
  | true => rw [resume_of_pending pending]; rfl
  | false => rw [resume_of_not_pending pending]; rfl

theorem CycleTimes.read_cases (times : CycleTimes) (now : Clock)
    (coordinator : Coordinator) (read : Read) :
    let after := (coordinator.read read).1
    let timed := times.read now coordinator read
    (after.snapshot = coordinator.snapshot ∧
      timed.loadedAtMs = times.loadedAtMs) ∨
    ∃ cycle report,
      coordinator.activity = .reading cycle ∧
      cycle.advance coordinator.settings read =
        .completed after.snapshot report ∧
      timed.loadedAtMs = now.wallMs ∧
      timed.elapsedMs = .ofNat (now.steadyMs - times.startedMs) := by
  cases activity : coordinator.activity with
  | idle =>
      left
      simp only [Coordinator.read, CycleTimes.read, activity, and_self]
  | reading cycle =>
      cases advanced : cycle.advance coordinator.settings read with
      | ongoing next =>
          left
          simp only [Coordinator.read, CycleTimes.read, activity, advanced,
            and_self]
      | completed snapshot report =>
          right
          refine ⟨cycle, report, rfl, ?_⟩
          simp only [Coordinator.read, CycleTimes.read, activity, advanced,
            Coordinator.snapshot_resume, true_and]
          exact ⟨rfl, rfl⟩
      | abandoned report =>
          left
          simp only [Coordinator.read, CycleTimes.read, activity, advanced,
            Coordinator.snapshot_resume, true_and]
          rfl

end GatewayPolicy
