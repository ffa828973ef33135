import GatewayPolicy.Refresh.Coordinator

/-!
# A coordinator and its store

A coordinator lives beside a store, and anything may happen to the two in any
order: the store changes, calls arrive, and where a cycle is running the store
answers its next read.  A store is given by the type of its states and by its
answers in each of them, so that a failure switched on or off is a change of
state like any other.
-/

set_option autoImplicit false

namespace GatewayPolicy

inductive RefreshEvent (State : Type) where
  | edit (change : State → State)
  | call (call : RefreshCall)
  /-- The store answers the read that the running cycle waits for. -/
  | read

structure RefreshSystem (State : Type) where
  store : State
  coordinator : Coordinator

namespace RefreshSystem

variable {State : Type} (answers : State → Reading)

def new (settings : ResolverSettings) (store : State) : RefreshSystem State :=
  { store := store, coordinator := .new settings }

def edit (system : RefreshSystem State) (change : State → State) :
    RefreshSystem State :=
  { system with store := change system.store }

def ask (system : RefreshSystem State) : Option Read :=
  system.coordinator.ask (answers system.store)

/-- The system after an event, and what the coordinator replied to it. -/
def step (system : RefreshSystem State) :
    RefreshEvent State → RefreshSystem State × Option Reply
  | .edit change => (system.edit change, none)
  | .call call =>
      let (coordinator, reply) := system.coordinator.call call
      ({ system with coordinator := coordinator }, some reply)
  | .read =>
      match system.ask answers with
      | none => (system, none)
      | some read =>
          let (coordinator, reply) := system.coordinator.read read
          ({ system with coordinator := coordinator }, some reply)

end RefreshSystem

end GatewayPolicy
