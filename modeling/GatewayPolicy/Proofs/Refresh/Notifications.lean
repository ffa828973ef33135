import GatewayPolicy.Proofs.Change.Delivery
import GatewayPolicy.Proofs.Change.Outcomes
import GatewayPolicy.Proofs.Refresh.Coalescing
import GatewayPolicy.Proofs.Refresh.Publication
import GatewayPolicy.Proofs.Refresh.Rest

/-!
# Notifying a coordinator

A coordinator that has subscribed to a topic requests a refresh whenever the
topic is published.  What comes of a publication depends on where it meets the
coordinator.  If it is idle, each of its subscriptions costs a whole call, and
the next handler waits until that has returned.  If a cycle is running, a
request is only noted, so that however many there are they come to one more
cycle.  Without a subscription of the coordinator nothing happens to it.
-/

set_option autoImplicit false

namespace GatewayPolicy

structure LoggedSystem (State : Type) where
  system : RefreshSystem State
  loads : List (Load State)

/-- A store and what lies around it.  The change channel is part of the state,
since load methods and handlers may subscribe and unsubscribe. -/
structure Surroundings (State Other : Type) where
  answers : State → Reading
  channel : State → ChangeChannel (ChangeHandler Other)
  /-- What another handler does when it is notified of a topic.  It leaves the
  coordinator alone. -/
  effect : Other → String → State → State

section WholeCalls

variable {State : Type} (answers : State → Reading)
  (scripts : Nat → LoadScript State)

/-- A call on the system with its first load calls.  They follow the scripts
from where the log has come to. -/
def LoggedSystem.callRun (before : LoggedSystem State) (call : RefreshCall) :
    Nat → CallRun State :=
  CallRun.after answers before.system call fun load =>
    scripts (before.loads.length + load)

def LoggedSystem.followedBy (before : LoggedSystem State)
    (run : CallRun State) : LoggedSystem State :=
  { system := run.system, loads := before.loads ++ run.loads }

/-- A call from its beginning to its return. -/
def wholeCall (call : RefreshCall) :
    Behaviour (LoggedSystem State) (Option RefreshReport) :=
  fun before report after => ∃ count,
    let run := before.callRun answers scripts call
    (∀ earlier < count, (run earlier).reply = some .reading) ∧
    (run count).reply = some (.returned report) ∧
    after = before.followedBy (run count)

theorem wholeCall_ends {before : LoggedSystem State} {call : RefreshCall}
    {count : Nat} {report : Option RefreshReport}
    (running : ∀ earlier < count,
      (before.callRun answers scripts call earlier).reply = some .reading)
    (returned : (before.callRun answers scripts call count).reply =
      some (.returned report)) :
    (wholeCall answers scripts call).Ends before report
      (before.followedBy (before.callRun answers scripts call count)) := by
  intro other world
  constructor
  · rintro ⟨number, runningToo, returnedToo, rfl⟩
    -- a call that has returned does not run any longer
    rcases Nat.lt_trichotomy number count with less | rfl | more
    · have both := (running number less).symm.trans returnedToo
      cases both
    · have both := returnedToo.symm.trans returned
      cases both
      exact ⟨rfl, rfl⟩
    · have both := (runningToo count more).symm.trans returned
      cases both
  · rintro ⟨rfl, rfl⟩
    exact ⟨count, running, returned, rfl⟩

theorem wholeCall_ends_of_busy {before : LoggedSystem State} {cycle : Cycle}
    (busy : before.system.coordinator.activity = .reading cycle) :
    (wholeCall answers scripts .request).Ends before none
      { before with
        system :=
          { before.system with
            coordinator := before.system.coordinator.note } } := by
  have step := RefreshSystem.step_request_of_reading answers busy
  have start : before.callRun answers scripts .request 0 =
      { system :=
          { before.system with
            coordinator := before.system.coordinator.note }
        reply := some (.returned none)
        loads := [] } := by
    simp only [LoggedSystem.callRun, CallRun.after, CallRun.start, step]
  have ends : (wholeCall answers scripts .request).Ends before none
      (before.followedBy (before.callRun answers scripts .request 0)) :=
    wholeCall_ends answers scripts
      (fun _ earlier => absurd earlier (Nat.not_lt_zero _))
      (congrArg CallRun.reply start)
  rw [start, LoggedSystem.followedBy, List.append_nil] at ends
  exact ends

theorem CallRun.settings_after (answers : State → Reading)
    (system : RefreshSystem State) (call : RefreshCall)
    (scripts : Nat → LoadScript State) (count : Nat) :
    let run := CallRun.after answers system call scripts count
    run.system.coordinator.settings = system.coordinator.settings := by
  induction count with
  | zero => exact RefreshSystem.settings_step answers system (.call call)
  | succ count ih =>
      simp only [CallRun.after, CallRun.next]
      split
      · simp only [RefreshSystem.settings_run]
        exact ih
      · simp only [Coordinator.settings_read, RefreshSystem.settings_run]
        exact ih

/-! ## Calls that nothing interrupts -/

/-- Between the two the coordinator ran the cycles, one after the other, and it
is idle again. -/
structure LoggedSystem.RunsCycles (answers : State → Reading)
    (before : LoggedSystem State) (cycles : List (ServedCycle answers))
    (after : LoggedSystem State) : Prop where
  loads : after.loads = before.loads ++ cycles.flatMap ServedCycle.loads
  settings : after.system.coordinator.settings =
    before.system.coordinator.settings
  published : after.system.coordinator.snapshot =
    publishAll before.system.coordinator.settings
      before.system.coordinator.snapshot (cycles.map ServedCycle.cycle)
  idle : after.system.coordinator.activity = .idle
  pending : after.system.coordinator.pending = false

/-- Without requests in its load calls, a call on an idle coordinator runs one
cycle. -/
theorem exists_cycle_of_idle {before : LoggedSystem State}
    (call : RefreshCall)
    (idle : before.system.coordinator.activity = .idle)
    (quiet : ∀ load, .requestRefresh ∉ (scripts load).acts) :
    ∃ (cycle : ServedCycle answers) (report : Option RefreshReport)
        (after : LoggedSystem State),
      (wholeCall answers scripts call).Ends before report after ∧
      before.RunsCycles answers [cycle] after := by
  let shifted : Nat → LoadScript State := fun load =>
    scripts (before.loads.length + load)
  obtain ⟨count, served, last, completes⟩ :=
    CallRun.exists_completes answers idle call shifted
      ⟨0, fun load _ => quiet _⟩
  have returned := completes.returned
  have alone : served = [] := by
    -- a cycle before the last one would have been met by a request
    rcases served with _ | ⟨cycle, rest⟩
    · rfl
    · exfalso
      obtain ⟨load, member, requested⟩ :=
        List.any_eq_true.mp (returned.requested cycle (.head _))
      have made : load.script ∈ (List.range count).map shifted := by
        rw [← completes.made.scripts_eq, returned.loads]
        refine List.mem_map_of_mem (List.mem_flatMap.mpr ⟨cycle, ?_, member⟩)
        simp
      obtain ⟨number, _, script⟩ := List.mem_map.mp made
      have request := load.script.isRequested_iff.mp requested
      rw [← script] at request
      exact quiet _ request
  subst alone
  obtain ⟨running, ended⟩ := completes.returnsAfter
  refine ⟨last, _, _, wholeCall_ends answers scripts running ended, ?_⟩
  exact
    { loads := congrArg (before.loads ++ ·) returned.loads
      settings :=
        CallRun.settings_after answers before.system call shifted count
      published := returned.published
      idle := returned.idle
      pending := returned.pending }

end WholeCalls

namespace LoggedSystem.RunsCycles

variable {State : Type} {answers : State → Reading}
  {before between after : LoggedSystem State}
  {cycles later : List (ServedCycle answers)}

theorem none (idle : before.system.coordinator.activity = .idle)
    (settled : before.system.coordinator.pending = false) :
    before.RunsCycles answers [] before where
  loads := (List.append_nil before.loads).symm
  settings := rfl
  published := rfl
  idle := idle
  pending := settled

theorem trans (first : before.RunsCycles answers cycles between)
    (second : between.RunsCycles answers later after) :
    before.RunsCycles answers (cycles ++ later) after where
  loads := by
    rw [second.loads, first.loads, List.flatMap_append, List.append_assoc]
  settings := second.settings.trans first.settings
  published := by
    rw [second.published, first.published, first.settings, List.map_append,
      publishAll, publishAll, publishAll, List.foldl_append]
  idle := second.idle
  pending := second.pending

theorem generation (runs : before.RunsCycles answers cycles after)
    (readable : ∀ load ∈ cycles.flatMap ServedCycle.loads,
      load.category = .routes →
        ∃ rules, answers load.store .routes = .ok rules) :
    after.system.coordinator.snapshot.generation =
      before.system.coordinator.snapshot.generation +
        UInt64.ofNat cycles.length := by
  have completed : ∀ cycle ∈ cycles, cycle.cycle.isCompleted = true := by
    intro cycle member
    refine ServedCycle.isCompleted_of_routes fun load inCycle => ?_
    exact readable load (List.mem_flatMap.mpr ⟨cycle, member, inCycle⟩)
  have all : (cycles.map ServedCycle.cycle).countP FinishedCycle.isCompleted =
      cycles.length := by
    rw [List.countP_map]
    exact List.countP_eq_length.mpr completed
  rw [runs.published, publishAll_generation, all]

end LoggedSystem.RunsCycles

/-! ## Acts one after the other -/

namespace LoadAct

variable {State : Type} (answers : State → Reading)
  (scripts : Nat → LoadScript State)

/-- Does the act, wherever that may be.  A request is a whole call. -/
def perform : LoadAct State → Behaviour (LoggedSystem State) Unit
  | edit change => fun before _ after =>
      after = { before with system := before.system.edit change }
  | requestRefresh => do
      let _ ← wholeCall answers scripts .request
      return ()

variable {before : LoggedSystem State}

theorem perform_request_ends {report : Option RefreshReport}
    {after : LoggedSystem State}
    (ends : (wholeCall answers scripts .request).Ends before report after) :
    (perform answers scripts .requestRefresh).Ends before () after :=
  ends.bind (Behaviour.ends_pure () after)

end LoadAct

/-! ## Publications -/

namespace Surroundings

variable {State Other : Type} (around : Surroundings State Other)

def reaction (topic : String) : ChangeHandler Other → LoadAct State
  | .coordinator => .requestRefresh
  | .other handler => .edit (around.effect handler topic)

/-- The reaction of the coordinator is what it does on a change. -/
theorem step_reaction_coordinator (system : RefreshSystem State)
    (topic : String) :
    system.step around.answers (around.reaction topic .coordinator).event =
      let (coordinator, reply) := system.coordinator.onChange topic
      ({ system with coordinator := coordinator }, some reply) :=
  rfl

def live (store : State) (topic : String) : List (ChangeHandler Other) :=
  (around.channel store).handlers topic

def subscriptions (store : State) (topic : String) : Nat :=
  (around.live store topic).countP ChangeHandler.isCoordinator

def otherSubscriptions (store : State) (topic : String) : Nat :=
  (around.live store topic).countP fun handler =>
    !handler.isCoordinator

theorem length_live (store : State) (topic : String) :
    (around.live store topic).length =
      around.subscriptions store topic +
        around.otherSubscriptions store topic := by
  simpa [subscriptions, otherSubscriptions] using
    List.length_eq_countP_add_countP ChangeHandler.isCoordinator
      (l := around.live store topic)

/-- What publishing a topic comes to: the reactions of the handlers that its
delivery calls. -/
def acts (store : State) (topic : String) : List (LoadAct State) :=
  ((around.channel store).delivery topic).calls.map (around.reaction topic)

theorem acts_eq (store : State) (topic : String) :
    around.acts store topic =
      (around.live store topic).map (around.reaction topic) := by
  rw [acts, ChangeChannel.calls_delivery]
  rfl

variable (scripts : Nat → LoadScript State)

def notify (topic : String) (handler : ChangeHandler Other) :
    Behaviour (LoggedSystem State) Unit :=
  (around.reaction topic handler).perform around.answers scripts

def publish (topic : String) : Behaviour (LoggedSystem State) Nat :=
  fun before =>
    (around.channel before.system.store).publish topic
      (around.notify scripts topic) before

variable {before : LoggedSystem State}

/-- A publication does what it comes to, and returns the number of the
handlers. -/
theorem publish_ends {topic : String} {after : LoggedSystem State}
    (ends : ((around.acts before.system.store topic).forM
      (LoadAct.perform around.answers scripts)).Ends before () after) :
    (around.publish scripts topic).Ends before
      (around.subscriptions before.system.store topic +
        around.otherSubscriptions before.system.store topic) after := by
  have same : ((around.live before.system.store topic).map
      (around.reaction topic)).forM
        (LoadAct.perform around.answers scripts) =
        (around.live before.system.store topic).forM
          (around.notify scripts topic) :=
    List.forM_map
  rw [acts_eq, same] at ends
  rw [← length_live]
  exact ChangeChannel.publish_ends ends

end Surroundings

end GatewayPolicy
