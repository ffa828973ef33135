import GatewayPolicy.Refresh.System
import GatewayPolicy.Session.Script

/-!
# Running sessions

A read of the store first runs the oldest hook of its category, then fails if
it is set to fail, and then answers from the store as the hook left it.  The
coordinator is driven by the call that found it idle; everything that happens
inside a read only marks it pending.

Steps nest by way of hooks and recorder scripts.  Each of these runs once, so
the number of scripts in a session bounds both how deep steps nest and how
many cycles one call runs.
-/

set_option autoImplicit false

namespace GatewayPolicy.Session

structure Recorder where
  name : String
  place : Nat
  deriving DecidableEq, Repr

structure Hook where
  category : Category
  steps : List Step

structure World where
  policies : Store
  faults : List (Category × StoreFault)
  /-- Hooks that have not run, oldest first. -/
  hooks : List Hook
  channel : ChangeChannel (ChangeHandler Recorder)
  /-- The scripts of recorders that have not been notified, by place. -/
  recorderScripts : List (Nat × List Step)
  subscriptions : List SubscriptionId
  events : List Event
  clock : Clock
  times : CycleTimes
  /-- The number of scripts in the whole session. -/
  scripts : Nat

def World.reading (world : World) : Reading :=
  fun category =>
    match world.faults.lookup category with
    | some fault => .error fault
    | none => world.policies.reading .byUrl category

abbrev Run := StateM (RefreshSystem World)

/-- Runs the steps of a script and records their answers as events. -/
abbrev ScriptRunner := (Answer → Event) → List Step → Run Unit

def world : Run World :=
  return (← get).store

def coordinator : Run Coordinator :=
  return (← get).coordinator

def edit (change : World → World) : Run Unit :=
  modify fun system => system.edit change

def emit (event : Event) : Run Unit :=
  edit fun world => { world with events := world.events ++ [event] }

def takeHook (category : Category) : Run (Option Hook) := do
  let (before, rest) :=
    (← world).hooks.span fun hook => hook.category != category
  match rest with
  | [] => return none
  | hook :: after =>
      edit fun world => { world with hooks := before ++ after }
      return some hook

def announceRead (run : ScriptRunner) (category : Category) : Run Unit := do
  emit (.load category)
  match ← takeHook category with
  | some hook => run (.hook category) hook.steps
  | none => return ()

def read (run : ScriptRunner) (category : Category) :
    Run (Except StoreFault (List category.Row)) := do
  announceRead run category
  return (← world).reading category

/-! ## Refreshing -/

def take (read : Read) : Run Reply := do
  let before ← coordinator
  let (after, reply) := before.read read
  modify fun system => { system with coordinator := after }
  edit fun world =>
    { world with times := world.times.read world.clock before read }
  return reply

def advance (run : ScriptRunner) : Run Reply := do
  match (← coordinator).activity with
  | .idle => return .returned none
  | .reading cycle =>
      let answer ← read run cycle.awaits
      take { category := cycle.awaits, answer := answer }

/-- Makes a call on the coordinator and follows it to its return.  A call that
has to wait for the one that is running stays without an answer. -/
def serve (run : ScriptRunner) (call : Coordinator → Coordinator × Reply) :
    Run (Option RefreshReport) := do
  let (after, reply) := call (← coordinator)
  modify fun system => { system with coordinator := after }
  edit fun world => { world with times := world.times.call world.clock reply }
  reply.follow (advance run) (Category.all.length * ((← world).scripts + 1))

/-! ## Changes -/

def takeRecorderScript (place : Nat) : Run (List Step) := do
  let scripts := (← world).recorderScripts
  edit fun world =>
    { world with
      recorderScripts := scripts.filter fun entry => entry.1 != place }
  return (scripts.lookup place).getD []

def notify (run : ScriptRunner) (topic : String) :
    ChangeHandler Recorder → Run Unit
  | .coordinator => discard (serve run fun c => c.onChange topic)
  | .other recorder => do
      emit (.change recorder.name topic)
      run (.handler recorder.name) (← takeRecorderScript recorder.place)

def keepSubscription (id : SubscriptionId)
    (channel : ChangeChannel (ChangeHandler Recorder)) :
    Run SubscriptionId := do
  edit fun world =>
    { world with
      channel := channel
      subscriptions := world.subscriptions ++ [id] }
  return id

def subscribeRecorder (topic name : String) (steps : List Step) :
    Run SubscriptionId := do
  let place := (← world).subscriptions.length
  let recorder : Recorder := { name := name, place := place }
  edit fun world =>
    { world with recorderScripts := world.recorderScripts ++ [(place, steps)] }
  let (id, channel) := (← world).channel.subscribe topic (.other recorder)
  keepSubscription id channel

def subscribeCoordinator (topic : String) : Run SubscriptionId := do
  let (id, channel) := Coordinator.subscribeTo (← world).channel topic
  keepSubscription id channel

def unsubscribe (topic : String) (place : Nat) : Run Bool := do
  match (← world).subscriptions[place]? with
  | none => return false
  | some id =>
      let (ended, channel) := (← world).channel.unsubscribe topic id
      edit fun world => { world with channel := channel }
      return ended

/-! ## Steps -/

def modifyTables (f : PolicyTables → PolicyTables) : Run Answer := do
  edit fun world => { world with policies := world.policies.mapTables f }
  return .done

def changeDatabase (change : Database.Change) : Run Answer := do
  match (← world).policies.change change with
  | .ok policies =>
      edit fun world => { world with policies := policies }
      return .done
  | .error fault => return .failed fault

def perform (run : ScriptRunner) : Step → Run Answer
  | .setTables tables => modifyTables fun _ => tables
  | .setRoutes rows => modifyTables fun t => { t with routes := rows }
  | .setBindings rows => modifyTables fun t => { t with bindings := rows }
  | .setGrants rows => modifyTables fun t => { t with grants := rows }
  | .setAddresses rows => modifyTables fun t => { t with addresses := rows }
  | .change change => changeDatabase change
  | .fail category fault => do
      edit fun world =>
        { world with
          faults := (category, fault) ::
            world.faults.filter fun entry => entry.1 != category }
      return .done
  | .heal category => do
      edit fun world =>
        { world with
          faults := world.faults.filter fun entry => entry.1 != category }
      return .done
  | .hook category steps => do
      edit fun world =>
        { world with
          hooks := world.hooks ++ [{ category := category, steps := steps }] }
      return .done
  | .load category => do
      match ← read run category with
      | .ok rows => return .rows category rows
      | .error fault => return .failed fault
  | .resolveRoutes => do
      let settings := (← coordinator).settings
      return .routeResolution (← Resolve.loadRoutes (read run) settings)
  | .resolveAuthorities =>
      return .authorityResolution (← Resolve.loadAuthorities (read run))
  | .resolveAddresses kind =>
      return .addressResolution (← Resolve.loadAddresses (read run) kind)
  | .routeValues => do
      let settings := (← coordinator).settings
      return .routes ((← Resolve.loadRoutes (read run) settings).value [])
  | .authorityValues =>
      return .authorities ((← Resolve.loadAuthorities (read run)).value [])
  | .refresh => do
      let report ← serve run fun c => c.call .refresh
      return .report report (← world).times
  | .requestRefresh => do
      let report ← serve run fun c => c.call .request
      return .report report (← world).times
  | .state => return .state (← coordinator).isRefreshing
  | .snapshot =>
      return .snapshot (← coordinator).snapshot (← world).times
  | .summary =>
      return .summary (← coordinator).snapshot.summary (← world).times
  | .routes => return .routes (← coordinator).routes
  | .authorities => return .authorities (← coordinator).authorities
  | .addresses kind =>
      return .addresses ((← coordinator).addresses kind)
  | .subscribe topic => return .subscribed (← subscribeCoordinator topic)
  | .subscribeRecorder topic name steps =>
      return .subscribed (← subscribeRecorder topic name steps)
  | .unsubscribe topic place =>
      return .unsubscribed (← unsubscribe topic place)
  | .publish topic => do
      let channel := (← world).channel
      return .delivered (← channel.publish topic (notify run topic))

def scriptRunner : Nat → ScriptRunner
  | 0 => fun _ _ => return ()
  | depth + 1 => fun label steps =>
      steps.forM fun step => do
        emit (label (← perform (scriptRunner depth) step))

/-! ## Whole sessions -/

structure Outcome where
  answer : Answer
  events : List Event

def start (store : Store) (settings : ResolverSettings) (clock : Clock)
    (steps : List Step) : RefreshSystem World :=
  .new settings
    { policies := store
      faults := []
      hooks := []
      channel := .new
      recorderScripts := []
      subscriptions := []
      events := []
      clock := clock
      times := .unset
      scripts := scriptsIn steps }

def performTop (step : Step) : Run Outcome := do
  edit fun world => { world with events := [] }
  let answer ← perform (scriptRunner (← world).scripts) step
  return { answer := answer, events := (← world).events }

def run (store : Store) (settings : ResolverSettings) (clock : Clock)
    (steps : List Step) : List Outcome :=
  ((steps.mapM performTop).run (start store settings clock steps)).1

end GatewayPolicy.Session
