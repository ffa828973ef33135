import GatewayPolicy.Keyed

/-!
# The change channel

Handlers subscribe to topics; publishing a topic notifies every handler that
is subscribed to it at that moment, oldest subscription first.  A handler may
itself subscribe and unsubscribe: that takes effect from the next publication.
Each topic keeps its own subscriptions, and the ids are numbered across all
topics.
-/

set_option autoImplicit false

namespace GatewayPolicy

def routeRefreshTopic : String := "route.refresh"

/-- Ids are numbered from 1 across all topics. -/
structure SubscriptionId where
  number : UInt64
  deriving DecidableEq, Repr

structure Subscription (H : Type) where
  id : SubscriptionId
  handler : H

structure ChangeChannel (H : Type) where
  next : UInt64
  /-- The subscriptions of each topic, oldest first. -/
  topics : List (String × List (Subscription H))

namespace ChangeChannel

variable {H : Type}

def new : ChangeChannel H :=
  { next := 1, topics := [] }

def subscriptions (channel : ChangeChannel H) (topic : String) :
    List (Subscription H) :=
  (Keyed.find? topic channel.topics).getD []

def subscribe (channel : ChangeChannel H) (topic : String) (handler : H) :
    SubscriptionId × ChangeChannel H :=
  let id : SubscriptionId := { number := channel.next }
  (id,
    { next := channel.next + 1
      topics :=
        Keyed.update topic
          (fun earlier =>
            earlier.getD [] ++ [{ id := id, handler := handler }])
          channel.topics })

/-- Ends a subscription of the topic, and tells whether there was one to
end. -/
def unsubscribe (channel : ChangeChannel H) (topic : String)
    (id : SubscriptionId) : Bool × ChangeChannel H :=
  match Keyed.find? topic channel.topics with
  | none => (false, channel)
  | some live =>
      let kept := live.filter fun subscription => subscription.id != id
      (live.length != kept.length,
        { channel with topics := Keyed.insert topic kept channel.topics })

def handlers (channel : ChangeChannel H) (topic : String) : List H :=
  (channel.subscriptions topic).map Subscription.handler

/-- Notifies the handlers that are live now and returns their number. -/
def publish {m : Type → Type} [Monad m] (channel : ChangeChannel H)
    (topic : String) (notify : H → m Unit) : m Nat := do
  let handlers := channel.handlers topic
  handlers.forM notify
  return handlers.length

end ChangeChannel

end GatewayPolicy
