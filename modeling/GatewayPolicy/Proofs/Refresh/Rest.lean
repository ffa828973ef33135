import GatewayPolicy.Proofs.Refresh.History

/-!
# A coordinator at rest

Whatever has happened to a coordinator, its settings are those it was made
with, and while it is idle no request is noted: a request that finds it idle is
served at once, and one that meets a running cycle is taken up before the call
ends.
-/

set_option autoImplicit false

namespace GatewayPolicy

namespace Coordinator

def Settled (coordinator : Coordinator) : Prop :=
  coordinator.activity = .idle → coordinator.pending = false

theorem settled_of_reading {coordinator : Coordinator} {cycle : Cycle}
    (busy : coordinator.activity = .reading cycle) : coordinator.Settled := by
  intro idle
  rw [busy] at idle
  cases idle

/-- All that a read can do: nothing, or one step of the cycle, or to end it
and have its loop go on. -/
theorem read_forms (coordinator : Coordinator) (read : Read) :
    coordinator.read read = (coordinator, .returned none) ∨
    (∃ next, coordinator.read read =
      ({ coordinator with activity := .reading next }, .reading)) ∨
    ∃ snapshot report loop, coordinator.read read =
      (coordinator.publish snapshot).resume report loop := by
  cases activity : coordinator.activity with
  | idle =>
      left
      simp only [Coordinator.read, activity]
  | reading cycle =>
      right
      cases advanced : cycle.advance coordinator.settings read with
      | ongoing next =>
          left
          exact ⟨next, read_of_ongoing activity advanced⟩
      | completed snapshot report =>
          right
          refine ⟨snapshot, report, cycle.loop, ?_⟩
          simp only [Coordinator.read, activity, advanced]
      | abandoned report =>
          right
          refine ⟨coordinator.snapshot, report, cycle.loop, ?_⟩
          simp only [Coordinator.read, activity, advanced]
          rfl

theorem settled_resume (coordinator : Coordinator) (report : RefreshReport)
    (loop : RefreshLoop) : (coordinator.resume report loop).1.Settled := by
  cases pending : coordinator.pending with
  | true =>
      rw [resume_of_pending pending]
      exact settled_of_reading rfl
  | false =>
      rw [resume_of_not_pending pending]
      exact fun _ => pending

theorem settings_resume (coordinator : Coordinator) (report : RefreshReport)
    (loop : RefreshLoop) :
    (coordinator.resume report loop).1.settings = coordinator.settings := by
  cases pending : coordinator.pending with
  | true => rw [resume_of_pending pending]; rfl
  | false => rw [resume_of_not_pending pending]; rfl

theorem Settled.call {coordinator : Coordinator}
    (settled : coordinator.Settled) (call : RefreshCall) :
    (coordinator.call call).1.Settled := by
  rcases coordinator.call_cases call with
    ⟨_, step⟩ | ⟨_, _, _, step⟩ | ⟨_, busy, _, step⟩
  · rw [step]
    exact settled_of_reading rfl
  · rw [step]
    exact settled
  · rw [step]
    exact settled_of_reading busy

theorem settings_call (coordinator : Coordinator) (call : RefreshCall) :
    (coordinator.call call).1.settings = coordinator.settings := by
  rcases coordinator.call_cases call with
    ⟨_, step⟩ | ⟨_, _, _, step⟩ | ⟨_, _, _, step⟩ <;>
  exact congrArg (fun result => result.1.settings) step

theorem Settled.read {coordinator : Coordinator}
    (settled : coordinator.Settled) (read : Read) :
    (coordinator.read read).1.Settled := by
  rcases coordinator.read_forms read with
    step | ⟨_, step⟩ | ⟨_, _, _, step⟩ <;> rw [step]
  · exact settled
  · exact settled_of_reading rfl
  · exact settled_resume _ _ _

theorem settings_read (coordinator : Coordinator) (read : Read) :
    (coordinator.read read).1.settings = coordinator.settings := by
  rcases coordinator.read_forms read with
    step | ⟨_, step⟩ | ⟨_, _, _, step⟩ <;> rw [step]
  exact settings_resume _ _ _

end Coordinator

/-! ## Events -/

namespace RefreshSystem

variable {State : Type} (answers : State → Reading)

theorem settings_step (system : RefreshSystem State)
    (event : RefreshEvent State) :
    (system.step answers event).1.coordinator.settings =
      system.coordinator.settings := by
  cases event with
  | edit change => rfl
  | call call => exact system.coordinator.settings_call call
  | read =>
      cases asked : system.ask answers with
      | none => simp only [step, asked]
      | some read =>
          simpa only [step, asked] using system.coordinator.settings_read read

theorem settings_run (system : RefreshSystem State)
    (events : List (RefreshEvent State)) :
    (system.run answers events).coordinator.settings =
      system.coordinator.settings := by
  induction events generalizing system with
  | nil => rfl
  | cons event rest ih =>
      exact (ih (system.step answers event).1).trans
        (settings_step answers system event)

end RefreshSystem

end GatewayPolicy
