import GatewayPolicy.Proofs.Refresh.Notifications
import GatewayPolicy.Proofs.Refresh.Quiet
import GatewayPolicy.Server.Basic

/-!
# How the server drives its coordinator

On a store that stands still a call that the server makes is the call of its
coordinator, and a change that it publishes is the publication of its channel
with the coordinator subscribed to it.
-/

set_option autoImplicit false

namespace GatewayPolicy

namespace Server

variable (reading : Reading) (now : Clock)

theorem advance_still (server : Server) :
    let advanced := (advance (.still reading now)).run server
    let answered := (Coordinator.answerFrom reading).run server.coordinator
    advanced.1 = answered.1 ∧
    ∃ times, advanced.2 =
      { server with coordinator := answered.2, times := times } := by
  obtain ⟨configuration, ⟨settings, snapshot, pending, activity⟩, times,
    changes⟩ := server
  cases activity with
  | idle => exact ⟨rfl, times, rfl⟩
  | reading cycle => exact ⟨rfl, _, rfl⟩

theorem follow_still (reads : Nat) (reply : Reply) (server : Server) :
    let followed :=
      (reply.follow (advance (.still reading now)) reads).run server
    let done :=
      (reply.follow (Coordinator.answerFrom reading) reads).run
        server.coordinator
    followed.1 = done.1 ∧
    ∃ times, followed.2 =
      { server with coordinator := done.2, times := times } := by
  induction reads generalizing reply server with
  | zero => cases reply <;> exact ⟨rfl, server.times, rfl⟩
  | succ reads ih =>
      cases reply with
      | returned report => exact ⟨rfl, server.times, rfl⟩
      | waiting => exact ⟨rfl, server.times, rfl⟩
      | reading =>
          obtain ⟨replied, times, advanced⟩ := advance_still reading now server
          have first : (Reply.reading.follow (advance (.still reading now))
              (reads + 1)).run server =
            (((advance (.still reading now)).run server).1.follow
              (advance (.still reading now)) reads).run
                ((advance (.still reading now)).run server).2 := rfl
          rw [replied, advanced] at first
          dsimp only
          rw [first]
          exact ih _ _

theorem serve_still (server : Server)
    (call : Coordinator → Coordinator × Reply) :
    let served := (serve (.still reading now) call).run server
    let done := Coordinator.complete reading (call server.coordinator)
    served.1 = done.2 ∧
    ∃ times, served.2 =
      { server with coordinator := done.1, times := times } :=
  follow_still reading now Category.all.length (call server.coordinator).2
    { server with
      coordinator := (call server.coordinator).1
      times := server.times.call now (call server.coordinator).2 }

/-! ## Publishing a change -/

/-- A request that a change makes leaves the coordinator as it does where the
load calls are told one by one. -/
theorem exists_ends_request (before : LoggedSystem Unit) :
    ∃ report loads,
      let done := Coordinator.complete reading
        (before.system.coordinator.call .request)
      (wholeCall (fun _ => reading) (fun _ => .answerOnly) .request).Ends
        before report
        { system := { store := (), coordinator := done.1 }, loads := loads } := by
  cases activity : before.system.coordinator.activity with
  | idle =>
      obtain ⟨cycle, report, after, ends, runs⟩ :=
        exists_cycle_of_idle (fun _ => reading) (fun _ => .answerOnly) .request
          activity (fun _ => nofun)
      have only : cycle.cycle = FinishedCycle.ofReading reading := by
        refine FinishedCycle.eq_ofReading fun read made => ?_
        rw [← cycle.reads_eq] at made
        obtain ⟨load, _, rfl⟩ := List.mem_map.mp made
        exact ⟨load.category, rfl⟩
      have free : before.system.coordinator.isRefreshing = false := by
        rw [Coordinator.isRefreshing, activity]
      refine ⟨report, after.loads, ?_⟩
      dsimp only
      rw [Coordinator.complete_call free, ← only]
      obtain ⟨⟨_, ⟨_, _, _, _⟩⟩, _⟩ := after
      obtain ⟨_, rfl, rfl, rfl, rfl⟩ := runs
      exact ends
  | reading cycle =>
      have ends := wholeCall_ends_of_busy (fun _ => reading)
        (fun _ => .answerOnly) activity
      refine ⟨none, before.loads, ?_⟩
      dsimp only
      rw [Coordinator.request_of_reading activity]
      exact ends

def surroundings (server : Server) (reading : Reading) :
    Surroundings Unit Empty :=
  { answers := fun _ => reading
    channel := fun _ => server.changes
    effect := nofun }

theorem exists_ends_notify (server : Server) (topic : String)
    (handlers : List (ChangeHandler Empty)) (server' : Server)
    (loads : List (Load Unit)) :
    ∃ loads',
      let notified :=
        (handlers.forM (notify (.still reading now) topic)).run server'
      (handlers.forM
        ((server.surroundings reading).notify (fun _ => .answerOnly)
          topic)).Ends
        { system := { store := (), coordinator := server'.coordinator }
          loads := loads }
        ()
        { system := { store := (), coordinator := notified.2.coordinator }
          loads := loads' } := by
  induction handlers generalizing server' loads with
  | nil => exact ⟨loads, Behaviour.ends_pure () _⟩
  | cons handler rest ih =>
      cases handler with
      | other handler => exact handler.elim
      | coordinator =>
          obtain ⟨report, between, ends⟩ := exists_ends_request reading
            { system := { store := (), coordinator := server'.coordinator }
              loads := loads }
          obtain ⟨_, times, served⟩ :=
            serve_still reading now server' fun c => c.onChange topic
          obtain ⟨after, later⟩ := ih
            ((notify (.still reading now) topic .coordinator).run server').2
            between
          have moved :
              ((notify (.still reading now) topic .coordinator).run
                server').2.coordinator =
              (Coordinator.complete reading
                (server'.coordinator.call .request)).1 :=
            congrArg Server.coordinator served
          rw [moved] at later
          exact ⟨after, Behaviour.ends_forM_cons
            (LoadAct.perform_request_ends _ _ ends) later⟩

/-- Publishing a change tells as many handlers, and leaves the coordinator as
it is left, as publishing the topic on the channel that the server holds. -/
theorem publishChange_ends (server : Server) :
    ∃ loads,
      let published := (publishChange (.still reading now)).run server
      ((server.surroundings reading).publish (fun _ => .answerOnly)
        routeRefreshTopic).Ends
        { system := { store := (), coordinator := server.coordinator }
          loads := [] }
        published.1
        { system := { store := (), coordinator := published.2.coordinator }
          loads := loads } := by
  obtain ⟨loads, ends⟩ := exists_ends_notify reading now server
    routeRefreshTopic (server.changes.handlers routeRefreshTopic) server []
  exact ⟨loads, ChangeChannel.publish_ends ends⟩

end Server

end GatewayPolicy
