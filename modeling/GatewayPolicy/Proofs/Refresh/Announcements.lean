import GatewayPolicy.Proofs.Refresh.Notifications

/-!
# Publications and cycles

Load methods may publish, too.  Inside a load call a publication comes to the
reactions of the handlers that are live then, and these are acts like any
others.  So a call whose load calls publish is a call whose load calls act, and
what is known of requests tells how many cycles it runs: a cycle is followed by
one more if a load call of it asked for that, by a request of its own or by
publishing a topic that the coordinator was subscribed to.
-/

set_option autoImplicit false

namespace GatewayPolicy

/-! ## Load methods that publish -/

inductive AnnouncingAct (State : Type) where
  | act (act : LoadAct State)
  | publish (topic : String)

/-- What a load method does before it takes its answer, and after that. -/
structure AnnouncingScript (State : Type) where
  before : List (AnnouncingAct State)
  after : List (AnnouncingAct State)

def AnnouncingScript.acts {State : Type} (script : AnnouncingScript State) :
    List (AnnouncingAct State) :=
  script.before ++ script.after

namespace LoadAct

variable {State : Type}

def storeAfter : LoadAct State → State → State
  | edit change, store => change store
  | requestRefresh, store => store

def storeAfterAll (acts : List (LoadAct State)) (store : State) : State :=
  acts.foldl (fun store act => act.storeAfter store) store

end LoadAct

namespace Surroundings

variable {State Other : Type} (around : Surroundings State Other)

/-- What an act comes to, done inside a load call. -/
def lowerAct (store : State) : AnnouncingAct State → List (LoadAct State)
  | .act act => [act]
  | .publish topic => around.acts store topic

/-- What acts come to: each finds the store as the ones before have left it. -/
def lower : State → List (AnnouncingAct State) → List (LoadAct State)
  | _, [] => []
  | store, act :: rest =>
      let acts := around.lowerAct store act
      acts ++ lower (LoadAct.storeAfterAll acts store) rest

def lowerScript (store : State) (script : AnnouncingScript State) :
    LoadScript State :=
  let before := around.lower store script.before
  { before := before
    after := around.lower (LoadAct.storeAfterAll before store) script.after }

def callRun (system : RefreshSystem State) (call : RefreshCall)
    (scripts : Nat → AnnouncingScript State) : Nat → CallRun State
  | 0 => .start around.answers system call
  | count + 1 =>
      let run := callRun system call scripts count
      run.next around.answers
        (around.lowerScript run.system.store (scripts count))

def lowered (system : RefreshSystem State) (call : RefreshCall)
    (scripts : Nat → AnnouncingScript State) (number : Nat) :
    LoadScript State :=
  around.lowerScript (around.callRun system call scripts number).system.store
    (scripts number)

end Surroundings

end GatewayPolicy
