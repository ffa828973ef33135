import GatewayPolicy.Proofs.Refresh.Calls
import GatewayPolicy.Session.Run

/-!
# Sessions are histories

Whatever the scripts of a session do, to the coordinator and what lies around
it they do nothing but what a history of events does.  In the middle of a
cycle they come down to acts, as a load method has them, so that a call of a
session is a call with its load calls.
-/

set_option autoImplicit false

namespace GatewayPolicy

theorem CallRun.after_getD {State : Type} (answers : State → Reading)
    (system : RefreshSystem State) (call : RefreshCall)
    (scripts : List (LoadScript State)) {count : Nat}
    (few : count ≤ scripts.length) :
    after answers system call (fun load => scripts.getD load .answerOnly)
        count =
      (scripts.take count).foldl (next answers)
        (start answers system call) := by
  induction count with
  | zero => rfl
  | succ count ih =>
      have inside : count < scripts.length := few
      rw [after, ih (Nat.le_of_lt inside), List.take_add_one,
        List.getD_eq_getElem?_getD, List.getElem?_eq_getElem inside,
        List.foldl_append]
      rfl

namespace Session

/-- The computation is a history, and one of acts while a cycle is running. -/
structure Historic {α : Type} (computation : Run α) : Prop where
  events : ∀ system, ∃ events,
    (computation.run system).2 = system.run World.reading events
  acts : ∀ (system : RefreshSystem World) (cycle : Cycle),
    system.coordinator.activity = .reading cycle →
    ∃ acts : List (LoadAct World),
      (computation.run system).2 =
        system.run World.reading (acts.map LoadAct.event)

namespace Historic

variable {α β : Type}

theorem of_acts {computation : Run α}
    (acts : ∀ system, ∃ acts : List (LoadAct World),
      (computation.run system).2 =
        system.run World.reading (acts.map LoadAct.event)) :
    Historic computation where
  events := fun system => (acts system).imp' _ fun _ done => done
  acts := fun system _ _ => acts system

theorem of_silent {computation : Run α}
    (silent : ∀ system, (computation.run system).2 = system) :
    Historic computation :=
  of_acts fun system => ⟨[], silent system⟩

theorem pure (value : α) : Historic (pure value) :=
  of_silent fun _ => rfl

theorem world : Historic Session.world :=
  of_silent fun _ => rfl

theorem coordinator : Historic Session.coordinator :=
  of_silent fun _ => rfl

theorem edit (change : World → World) : Historic (Session.edit change) :=
  of_acts fun _ => ⟨[.edit change], rfl⟩

theorem bind {first : Run α} {next : α → Run β} (begins : Historic first)
    (goesOn : ∀ value, Historic (next value)) : Historic (first >>= next) where
  events := by
    intro system
    obtain ⟨early, begun⟩ := begins.events system
    obtain ⟨late, ended⟩ := (goesOn (first.run system).1).events
      (first.run system).2
    refine ⟨early ++ late, ended.trans ?_⟩
    rw [begun, RefreshSystem.run_append]
  acts := by
    intro system cycle busy
    obtain ⟨early, begun⟩ := begins.acts system cycle busy
    have still :
        (first.run system).2.coordinator.activity = .reading cycle := by
      rw [begun]
      exact RefreshSystem.activity_run_acts _ system early busy
    obtain ⟨late, ended⟩ :=
      (goesOn (first.run system).1).acts (first.run system).2 cycle still
    refine ⟨early ++ late, ended.trans ?_⟩
    rw [begun, List.map_append, RefreshSystem.run_append]

theorem map {first : Run α} (f : α → β) (historic : Historic first) :
    Historic (f <$> first) :=
  historic.bind fun _ => .pure _

theorem forM {H : Type} {each : H → Run Unit} (handlers : List H)
    (historic : ∀ handler, Historic (each handler)) :
    Historic (handlers.forM each) := by
  induction handlers with
  | nil => exact .pure ()
  | cons handler rest ih => exact (historic handler).bind fun _ => ih

end Historic

/-! ## Reads and calls -/

section Calls

variable {run : ScriptRunner}

theorem historic_emit (event : Event) : Historic (emit event) :=
  .edit _

theorem historic_takeHook (category : Category) :
    Historic (takeHook category) := by
  refine Historic.world.bind fun world => ?_
  dsimp only
  split
  · exact .pure none
  · exact (Historic.edit _).bind fun _ => .pure _

variable (run) in
theorem run_advance {system : RefreshSystem World} {cycle : Cycle}
    (busy : system.coordinator.activity = .reading cycle) :
    let asked := ((read run cycle.awaits).run system).2
    (advance run).run system =
      (take (.of asked.store.reading cycle.awaits)).run asked := by
  obtain ⟨store, ⟨settings, snapshot, pending, activity⟩⟩ := system
  obtain rfl : activity = .reading cycle := busy
  rfl

theorem run_take {system : RefreshSystem World} {cycle : Cycle}
    (busy : system.coordinator.activity = .reading cycle) :
    ∃ change : World → World,
      ((take (.of system.store.reading cycle.awaits)).run system).2 =
        (system.step World.reading .read).1.edit change := by
  obtain ⟨store, ⟨settings, snapshot, pending, activity⟩⟩ := system
  obtain rfl : activity = .reading cycle := busy
  exact ⟨fun world =>
    { world with
      times := world.times.read world.clock
        ⟨settings, snapshot, pending, .reading cycle⟩
        (.of store.reading cycle.awaits) }, rfl⟩

variable (run) in
theorem run_serve (call : RefreshCall) (system : RefreshSystem World) :
    ∃ change : World → World,
      (serve run fun c => c.call call).run system =
        ((system.coordinator.call call).2.follow (advance run)
          (Category.all.length * (system.store.scripts + 1))).run
            ((system.step World.reading (.call call)).1.edit change) :=
  ⟨_, rfl⟩

variable (run) in
theorem run_follow_reading (reads : Nat) (system : RefreshSystem World) :
    (Reply.reading.follow (advance run) (reads + 1)).run system =
      let advanced := (advance run).run system
      (advanced.1.follow (advance run) reads).run advanced.2 :=
  rfl

theorem run_follow_returned (reads : Nat) (report : Option RefreshReport)
    (system : RefreshSystem World) :
    ((Reply.returned report).follow (advance run) reads).run system =
      (report, system) := by
  cases reads <;> rfl

variable (historic : ∀ label steps, Historic (run label steps))

include historic

theorem historic_read (category : Category) : Historic (read run category) := by
  refine Historic.bind ?_ fun _ => Historic.world.bind fun _ => .pure _
  refine (historic_emit _).bind fun _ => ?_
  refine (historic_takeHook category).bind fun hook => ?_
  cases hook with
  | none => exact .pure ()
  | some hook => exact historic _ _

/-- A read of a cycle is a load call: what the script of its hook comes to is
done before the store answers. -/
theorem advance_eq_next {made : CallRun World} {cycle : Cycle}
    (busy : made.system.coordinator.activity = .reading cycle)
    (change : World → World) :
    ∃ (script : LoadScript World) (change' : World → World),
      let next := made.next World.reading script
      let advanced := (advance run).run (made.system.edit change)
      next.reply = some advanced.1 ∧ advanced.2 = next.system.edit change' := by
  let edited := made.system.edit change
  obtain ⟨acts, done⟩ :=
    (historic_read historic cycle.awaits).acts edited cycle busy
  let script : LoadScript World :=
    { before := .edit change :: acts, after := [] }
  have asked : made.system.run World.reading
      (script.before.map LoadAct.event) =
        ((read run cycle.awaits).run edited).2 := done.symm
  have whole : script.acts = script.before := List.append_nil _
  have next : made.next World.reading script = _ :=
    CallRun.next_eq busy script
  have advanced : (advance run).run edited = _ := run_advance run busy
  rw [whole, asked] at next
  refine ⟨script, fun world =>
    { world with
      times := world.times.read world.clock
        ((read run cycle.awaits).run edited).2.coordinator
        (.of world.reading cycle.awaits) }, ?_⟩
  dsimp only
  rw [next, advanced]
  exact ⟨rfl, rfl⟩

omit historic in
theorem next_cases {made : CallRun World} {settings : ResolverSettings}
    {first : Snapshot} {served : List (ServedCycle World.reading)}
    {unfinished : List (Load World)}
    (serving : made.Serving World.reading settings first served unfinished)
    (script : LoadScript World) :
    (∃ served unfinished,
      (made.next World.reading script).Serving World.reading settings first
        served unfinished) ∨
    ∃ report, (made.next World.reading script).reply =
      some (.returned report) := by
  obtain ⟨_, _, goesOn | ⟨_, _, goesOn | ended⟩⟩ := serving.next script
  · exact Or.inl ⟨_, _, goesOn⟩
  · exact Or.inl ⟨_, _, goesOn⟩
  · exact Or.inr ⟨_, ended.reply⟩

/-- Following a call makes load calls until it returns, unless that takes more
reads than allowed. -/
theorem follow_eq_foldl {made : CallRun World} {settings : ResolverSettings}
    {first : Snapshot} {served : List (ServedCycle World.reading)}
    {unfinished : List (Load World)}
    (serving : made.Serving World.reading settings first served unfinished)
    (change : World → World) (reads : Nat) :
    ∃ (scripts : List (LoadScript World)) (change' : World → World),
      let followed :=
        (Reply.reading.follow (advance run) reads).run
          (made.system.edit change)
      let next := CallRun.next World.reading
      let last := scripts.foldl next made
      (∀ count < scripts.length,
        ((scripts.take count).foldl next made).reply = some .reading) ∧
      followed.2 = last.system.edit change' ∧
      (last.reply = some (.returned followed.1) ∨
        last.reply = some .reading ∧ scripts.length = reads ∧
          followed.1 = none) := by
  induction reads generalizing made served unfinished change with
  | zero =>
      exact ⟨[], change, nofun, rfl, Or.inr ⟨serving.reply, rfl, rfl⟩⟩
  | succ reads ih =>
      obtain ⟨cycle, busy⟩ := serving.busy
      obtain ⟨script, change', replied, advanced⟩ :=
        advance_eq_next historic busy change
      have first := run_follow_reading run reads (made.system.edit change)
      rcases next_cases serving script with
        ⟨served, unfinished, goesOn⟩ | ⟨report, returned⟩
      · have reading : ((advance run).run (made.system.edit change)).1 =
            .reading :=
          Option.some.inj (replied.symm.trans goesOn.reply)
        obtain ⟨scripts, change'', running, ended, last⟩ := ih goesOn change'
        simp only [reading, advanced] at first
        rw [← first] at ended last
        refine ⟨script :: scripts, change'', ?_, ended, ?_⟩
        · intro count few
          cases count with
          | zero => exact serving.reply
          | succ count => exact running count (Nat.lt_of_succ_lt_succ few)
        · simpa using last
      · have done : ((advance run).run (made.system.edit change)).1 =
            .returned report :=
          Option.some.inj (replied.symm.trans returned)
        simp only [done, advanced, run_follow_returned] at first
        refine ⟨[script], change', ?_, congrArg Prod.snd first, Or.inl ?_⟩
        · intro count few
          obtain rfl : count = 0 := Nat.lt_one_iff.mp few
          exact serving.reply
        · rw [first]
          exact returned

/-- A call that a session makes of an idle coordinator is a call with its load
calls.  The world is only edited besides, and the call is not cut off unless it
takes more reads than the session allows. -/
theorem serve_eq_after {system : RefreshSystem World}
    (idle : system.coordinator.activity = .idle) (call : RefreshCall) :
    ∃ (scripts : Nat → LoadScript World) (count : Nat)
        (change : World → World),
      let served := (serve run fun c => c.call call).run system
      let made := CallRun.after World.reading system call scripts
      (∀ earlier < count, (made earlier).reply = some .reading) ∧
      served.2 = (made count).system.edit change ∧
      ((made count).reply = some (.returned served.1) ∨
        (made count).reply = some .reading ∧
          count = Category.all.length * (system.store.scripts + 1) ∧
          served.1 = none) := by
  have serving : (CallRun.start World.reading system call).Serving _ _ _ _ _ :=
    CallRun.serving_start idle call
  have begun : (system.coordinator.call call).2 = .reading :=
    Option.some.inj serving.reply
  obtain ⟨timed, served⟩ := run_serve run call system
  rw [begun] at served
  obtain ⟨scripts, change, running, ended, last⟩ :=
    follow_eq_foldl historic serving timed
      (Category.all.length * (system.store.scripts + 1))
  refine ⟨fun load => scripts.getD load .answerOnly, scripts.length, change, ?_⟩
  dsimp only
  rw [CallRun.after_getD _ _ _ _ (Nat.le_refl _), List.take_length, served]
  refine ⟨fun earlier before => ?_, ended, ?_⟩
  · rw [CallRun.after_getD _ _ _ _ (Nat.le_of_lt before)]
    exact running earlier before
  · exact last

theorem exists_events_advance (system : RefreshSystem World) :
    ∃ events, ((advance run).run system).2 =
      system.run World.reading events := by
  cases activity : system.coordinator.activity with
  | idle =>
      obtain ⟨store, ⟨settings, snapshot, pending, _⟩⟩ := system
      obtain rfl := activity
      exact ⟨[], rfl⟩
  | reading cycle =>
      obtain ⟨acts, done⟩ :=
        (historic_read historic cycle.awaits).acts system cycle activity
      have still :
          ((read run cycle.awaits).run system).2.coordinator.activity =
            .reading cycle := by
        rw [done]
        exact RefreshSystem.activity_run_acts _ system acts activity
      obtain ⟨change, taken⟩ := run_take still
      refine ⟨acts.map LoadAct.event ++ [.read, .edit change], ?_⟩
      rw [run_advance run activity, taken, RefreshSystem.run_append, ← done]
      rfl

theorem exists_events_follow (reads : Nat) (reply : Reply)
    (system : RefreshSystem World) :
    ∃ events, ((reply.follow (advance run) reads).run system).2 =
      system.run World.reading events := by
  induction reads generalizing reply system with
  | zero => cases reply <;> exact ⟨[], rfl⟩
  | succ reads ih =>
      cases reply with
      | waiting => exact ⟨[], rfl⟩
      | returned report => exact ⟨[], rfl⟩
      | reading =>
          obtain ⟨early, begun⟩ := exists_events_advance historic system
          obtain ⟨late, ended⟩ := ih ((advance run).run system).1
            ((advance run).run system).2
          refine ⟨early ++ late, ?_⟩
          rw [run_follow_reading, RefreshSystem.run_append, ← begun]
          exact ended

theorem historic_serve (call : RefreshCall) :
    Historic (serve run fun c => c.call call) where
  events := by
    intro system
    obtain ⟨change, served⟩ := run_serve run call system
    obtain ⟨events, followed⟩ := exists_events_follow historic
      (Category.all.length * (system.store.scripts + 1))
      (system.coordinator.call call).2
      ((system.step World.reading (.call call)).1.edit change)
    refine ⟨.call call :: .edit change :: events, ?_⟩
    rw [served, followed]
    rfl
  acts := by
    intro system cycle busy
    obtain ⟨change, served⟩ := run_serve run call system
    rw [served]
    rcases system.coordinator.call_cases call with
      ⟨idle, _⟩ | ⟨_, _, _, called⟩ | ⟨_, _, rfl, called⟩
    · rw [busy] at idle
      cases idle
    · refine ⟨[.edit change], ?_⟩
      rw [RefreshSystem.step, called]
      rfl
    · refine ⟨[.requestRefresh, .edit change], ?_⟩
      rw [called, run_follow_returned]
      rfl

/-! ## Steps -/

omit historic in
theorem historic_takeRecorderScript (place : Nat) :
    Historic (takeRecorderScript place) :=
  Historic.world.bind fun _ => (Historic.edit _).bind fun _ => .pure _

theorem historic_notify (topic : String)
    (handler : ChangeHandler Recorder) :
    Historic (notify run topic handler) := by
  cases handler with
  | coordinator => exact (historic_serve historic .request).map _
  | other recorder =>
      refine (historic_emit _).bind fun _ => ?_
      exact (historic_takeRecorderScript _).bind fun steps => historic _ steps

theorem historic_loadRoutes (settings : ResolverSettings) :
    Historic (Resolve.loadRoutes (read run) settings) := by
  refine (historic_read historic _).bind fun rules => ?_
  cases rules with
  | error fault => exact .pure _
  | ok rules => exact (historic_read historic _).bind fun _ => .pure _

theorem historic_loadAuthorities :
    Historic (Resolve.loadAuthorities (read run)) := by
  refine (historic_read historic _).bind fun rules => ?_
  cases rules with
  | error fault => exact .pure _
  | ok rules => exact (historic_read historic _).bind fun _ => .pure _

theorem historic_loadAddresses (kind : ListKind) :
    Historic (Resolve.loadAddresses (read run) kind) := by
  refine (historic_read historic _).bind fun rules => ?_
  cases rules with
  | error fault => exact .pure _
  | ok rules => exact (historic_read historic _).bind fun _ => .pure _

omit historic in
theorem historic_edit (change : World → World) (answer : Answer) :
    Historic (do edit change; return answer) :=
  (Historic.edit change).bind fun _ => .pure answer

omit historic in
theorem historic_changeDatabase (change : Database.Change) :
    Historic (changeDatabase change) := by
  refine Historic.world.bind fun world => ?_
  cases world.policies.change change with
  | ok policies => exact historic_edit _ _
  | error fault => exact .pure _

omit historic in
theorem historic_subscribeCoordinator (topic : String) :
    Historic (subscribeCoordinator topic) :=
  Historic.world.bind fun _ => (Historic.edit _).bind fun _ => .pure _

omit historic in
theorem historic_subscribeRecorder (topic name : String) (steps : List Step) :
    Historic (subscribeRecorder topic name steps) :=
  Historic.world.bind fun _ => (Historic.edit _).bind fun _ =>
    Historic.world.bind fun _ => (Historic.edit _).bind fun _ => .pure _

omit historic in
theorem historic_unsubscribe (topic : String) (place : Nat) :
    Historic (unsubscribe topic place) := by
  refine Historic.world.bind fun world => ?_
  cases world.subscriptions[place]? with
  | none => exact .pure false
  | some id =>
      exact Historic.world.bind fun _ => (Historic.edit _).bind fun _ => .pure _

theorem historic_publish (channel : ChangeChannel (ChangeHandler Recorder))
    (topic : String) :
    Historic (channel.publish topic (notify run topic)) :=
  (Historic.forM _ fun handler => historic_notify historic topic handler).bind
    fun _ => .pure _

theorem historic_perform (step : Step) : Historic (perform run step) := by
  cases step with
  | setTables tables => exact historic_edit _ _
  | setRoutes rows => exact historic_edit _ _
  | setBindings rows => exact historic_edit _ _
  | setGrants rows => exact historic_edit _ _
  | setAddresses rows => exact historic_edit _ _
  | change change => exact historic_changeDatabase change
  | fail category fault => exact historic_edit _ _
  | heal category => exact historic_edit _ _
  | hook category steps => exact historic_edit _ _
  | load category =>
      refine (historic_read historic category).bind fun rows => ?_
      cases rows <;> exact .pure _
  | resolveRoutes =>
      exact Historic.coordinator.bind fun _ =>
        (historic_loadRoutes historic _).bind fun _ => .pure _
  | resolveAuthorities =>
      exact (historic_loadAuthorities historic).bind fun _ => .pure _
  | resolveAddresses kind =>
      exact (historic_loadAddresses historic kind).bind fun _ => .pure _
  | routeValues =>
      exact Historic.coordinator.bind fun _ =>
        (historic_loadRoutes historic _).bind fun _ => .pure _
  | authorityValues =>
      exact (historic_loadAuthorities historic).bind fun _ => .pure _
  | refresh =>
      exact (historic_serve historic .refresh).bind fun _ =>
        Historic.world.bind fun _ => .pure _
  | requestRefresh =>
      exact (historic_serve historic .request).bind fun _ =>
        Historic.world.bind fun _ => .pure _
  | state => exact .of_silent fun _ => rfl
  | snapshot => exact .of_silent fun _ => rfl
  | summary => exact .of_silent fun _ => rfl
  | routes => exact .of_silent fun _ => rfl
  | authorities => exact .of_silent fun _ => rfl
  | addresses kind => exact .of_silent fun _ => rfl
  | subscribe topic =>
      exact (historic_subscribeCoordinator topic).bind fun _ => .pure _
  | subscribeRecorder topic name steps =>
      exact (historic_subscribeRecorder topic name steps).bind fun _ => .pure _
  | unsubscribe topic place =>
      exact (historic_unsubscribe topic place).bind fun _ => .pure _
  | publish topic =>
      exact Historic.world.bind fun _ =>
        (historic_publish historic _ topic).bind fun _ => .pure _

end Calls

/-! ## Sessions -/

theorem historic_scriptRunner (depth : Nat) (label : Answer → Event)
    (steps : List Step) : Historic (scriptRunner depth label steps) := by
  induction depth generalizing label steps with
  | zero => exact .pure ()
  | succ depth ih =>
      exact .forM steps fun step =>
        (historic_perform ih step).bind fun _ => historic_emit _

theorem historic_performTop (step : Step) : Historic (performTop step) := by
  refine (Historic.edit _).bind fun _ => Historic.world.bind fun world => ?_
  refine (historic_perform (historic_scriptRunner _) step).bind fun _ => ?_
  exact Historic.world.bind fun _ => .pure _

theorem historic_mapM_performTop (steps : List Step) :
    Historic (steps.mapM performTop) := by
  induction steps with
  | nil => exact .pure []
  | cons step rest ih =>
      rw [List.mapM_cons]
      exact (historic_performTop step).bind fun _ => ih.bind fun _ => .pure _

/-- A session is a history of its coordinator and of the world around it. -/
theorem exists_history (store : Store) (settings : ResolverSettings)
    (clock : Clock) (steps : List Step) :
    ∃ events : List (RefreshEvent World),
      let start := start store settings clock steps
      ((steps.mapM performTop).run start).2 =
        start.run World.reading events :=
  (historic_mapM_performTop steps).events _

/-- In a session that has nothing running, a call of the coordinator is a call
with its load calls, whatever the scripts of the session do in them. -/
theorem exists_loads_of_serve {system : RefreshSystem World}
    (free : system.coordinator.isRefreshing = false) (call : RefreshCall)
    (depth : Nat) :
    ∃ (scripts : Nat → LoadScript World) (count : Nat)
        (change : World → World),
      let served :=
        (serve (scriptRunner depth) fun c => c.call call).run system
      let made := CallRun.after World.reading system call scripts
      (∀ earlier < count, (made earlier).reply = some .reading) ∧
      served.2 = (made count).system.edit change ∧
      ((made count).reply = some (.returned served.1) ∨
        (made count).reply = some .reading ∧
          count = Category.all.length * (system.store.scripts + 1) ∧
          served.1 = none) :=
  serve_eq_after (historic_scriptRunner depth)
    (Coordinator.idle_of_free free) call

end Session

end GatewayPolicy
