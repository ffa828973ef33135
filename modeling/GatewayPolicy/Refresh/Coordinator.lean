import GatewayPolicy.Change
import GatewayPolicy.Refresh.Cycle

/-!
# The refresh coordinator

The coordinator owns the published snapshot.  A call that finds it idle takes
its lock and runs cycles; the coordinator is then an automaton that is fed the
reads of its cycles one by one, and between two reads anything else may happen
to it.  Requests that meet a running cycle are not queued but noted in a flag;
one noted request or many make the running call add one more whole cycle, so
that every request is followed by reads made after it.
-/

set_option autoImplicit false

namespace GatewayPolicy

inductive Activity where
  | idle
  /-- A call holds the lock and runs the cycle. -/
  | reading (cycle : Cycle)

structure Coordinator where
  settings : ResolverSettings
  snapshot : Snapshot
  /-- A request arrived that no cycle has taken up yet. -/
  pending : Bool
  activity : Activity

inductive RefreshCall where
  /-- Runs at least one cycle, and waits for the lock if it is taken. -/
  | refresh
  /-- Serves changes: it leaves the work to the call that holds the lock. -/
  | request
  deriving DecidableEq, Repr

inductive Reply where
  | reading
  | waiting
  /-- It returned, with the report of its last cycle if it ran any. -/
  | returned (report : Option RefreshReport)
  deriving DecidableEq, Repr

/-- Makes reads until the call returns, at most the given number of them.  A
call that waits has no report. -/
def Reply.follow {m : Type → Type} [Monad m] (read : m Reply) :
    Nat → Reply → m (Option RefreshReport)
  | _, .returned report => return report
  | _, .waiting => return none
  | 0, .reading => return none
  | reads + 1, .reading => do follow read reads (← read)

namespace Coordinator

def new (settings : ResolverSettings) : Coordinator :=
  { settings := settings
    snapshot := .empty
    pending := false
    activity := .idle }

/-! ## Reading what is published -/

def routes (coordinator : Coordinator) : List ResolvedRoute :=
  coordinator.snapshot.routes

def authorities (coordinator : Coordinator) : AuthorityMap :=
  coordinator.snapshot.authorities

def addresses (coordinator : Coordinator) : ListKind → List AddressEntry
  | .black => coordinator.snapshot.blackList
  | .white => coordinator.snapshot.whiteList

def isRefreshing (coordinator : Coordinator) : Bool :=
  match coordinator.activity with
  | .idle => false
  | .reading _ => true

/-! ## Calls -/

/-- Begins a cycle in a loop that holds the lock.  The cycle serves every
request so far. -/
def beginCycle (coordinator : Coordinator) (loop : RefreshLoop) :
    Coordinator × Reply :=
  ({ coordinator with
      pending := false
      activity := .reading (.start loop coordinator.snapshot.generation) },
    .reading)

def unlock (coordinator : Coordinator) : Coordinator :=
  { coordinator with activity := .idle }

def note (coordinator : Coordinator) : Coordinator :=
  { coordinator with pending := true }

/-- The loop of a request, which holds the lock and has the report of its last
cycle.  The flag counts once more after the lock is free: a request may have
come too late for the last cycle and too early for the lock. -/
def requestLoop (coordinator : Coordinator)
    (refreshed last : Option RefreshReport) : Coordinator × Reply :=
  if coordinator.pending then coordinator.beginCycle (.request refreshed)
  else
    let free := coordinator.unlock
    if free.pending then free.beginCycle (.request refreshed)
    else (free, .returned (last.or refreshed))

def requestRefresh (coordinator : Coordinator)
    (refreshed : Option RefreshReport) : Coordinator × Reply :=
  match coordinator.activity with
  | .idle => coordinator.note.requestLoop refreshed none
  | .reading _ => (coordinator.note, .returned refreshed)

def refresh (coordinator : Coordinator) : Coordinator × Reply :=
  match coordinator.activity with
  | .idle => coordinator.beginCycle .refresh
  | .reading _ => (coordinator, .waiting)

/-- The loop of a refresh, which holds the lock.  Once the lock is free it
leaves what was noted meanwhile to a request. -/
def refreshLoop (coordinator : Coordinator) (last : RefreshReport) :
    Coordinator × Reply :=
  if coordinator.pending then coordinator.beginCycle .refresh
  else
    let free := coordinator.unlock
    if free.pending then free.requestRefresh (some last)
    else (free, .returned (some last))

def resume (coordinator : Coordinator) (report : RefreshReport) :
    RefreshLoop → Coordinator × Reply
  | .refresh => coordinator.refreshLoop report
  | .request refreshed => coordinator.requestLoop refreshed (some report)

def call (coordinator : Coordinator) : RefreshCall → Coordinator × Reply
  | .refresh => coordinator.refresh
  | .request => coordinator.requestRefresh none

def publish (coordinator : Coordinator) (snapshot : Snapshot) : Coordinator :=
  { coordinator with snapshot := snapshot }

def read (coordinator : Coordinator) (read : Read) : Coordinator × Reply :=
  match coordinator.activity with
  | .idle => (coordinator, .returned none)
  | .reading cycle =>
      match cycle.advance coordinator.settings read with
      | .ongoing cycle =>
          ({ coordinator with activity := .reading cycle }, .reading)
      | .completed snapshot report =>
          (coordinator.publish snapshot).resume report cycle.loop
      | .abandoned report => coordinator.resume report cycle.loop

def ask (coordinator : Coordinator) (reading : Reading) : Option Read :=
  match coordinator.activity with
  | .idle => none
  | .reading cycle => some (.of reading cycle.awaits)

/-! ## Changes -/

/-- A change of any topic requests a refresh. -/
def onChange (coordinator : Coordinator) (_topic : String) :
    Coordinator × Reply :=
  coordinator.call .request

/-! ## Calls on a store that stands still -/

def answerFrom (reading : Reading) : StateM Coordinator Reply :=
  fun coordinator =>
    match coordinator.ask reading with
    | some read =>
        let (coordinator, reply) := coordinator.read read
        (reply, coordinator)
    | none => (.returned none, coordinator)

/-- Runs a call whose reads all find the store as it stands: nobody can note a
request meanwhile, so that one cycle ends it. -/
def complete (reading : Reading) (call : Coordinator × Reply) :
    Coordinator × Option RefreshReport :=
  let (report, coordinator) :=
    (call.2.follow (answerFrom reading) Category.all.length).run call.1
  (coordinator, report)

end Coordinator

/-- A handler of changes: the coordinator, or one of the others. -/
inductive ChangeHandler (Other : Type) where
  | coordinator
  | other (handler : Other)
  deriving DecidableEq, Repr

def ChangeHandler.isCoordinator {Other : Type} : ChangeHandler Other → Bool
  | coordinator => true
  | other _ => false

def Coordinator.subscribeTo {Other : Type}
    (channel : ChangeChannel (ChangeHandler Other)) (topic : String) :
    SubscriptionId × ChangeChannel (ChangeHandler Other) :=
  channel.subscribe topic .coordinator

end GatewayPolicy
