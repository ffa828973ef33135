import GatewayPolicy.Change

/-!
# Deliveries

`publish` asks nothing of the monad that it runs in.  Run in the monad of
deliveries it shows all that it does, and nothing that its handlers do: it
calls one handler after the other, and when the last one has returned it
returns a value.  Between two calls the delivery rests, so that anything may
happen to the channel meanwhile.
-/

set_option autoImplicit false

namespace GatewayPolicy

inductive Delivery (H α : Type) where
  | returned (value : α)
  /-- Calls the handler, and goes on when the handler has returned. -/
  | calling (handler : H) (rest : Delivery H α)

namespace Delivery

variable {H α β : Type}

def bind (next : α → Delivery H β) : Delivery H α → Delivery H β
  | returned value => next value
  | calling handler rest => calling handler (bind next rest)

instance : Monad (Delivery H) where
  pure := returned
  bind delivery next := delivery.bind next

def call (handler : H) : Delivery H Unit :=
  calling handler (returned ())

def calls : Delivery H α → List H
  | returned _ => []
  | calling handler rest => handler :: rest.calls

def value : Delivery H α → α
  | returned value => value
  | calling _ rest => rest.value

theorem forM_call_bind (handlers : List H) (next : Unit → Delivery H α) :
    ((handlers.forM call).bind next : Delivery H α) =
      handlers.foldr calling (next ()) := by
  induction handlers with
  | nil => rfl
  | cons handler rest ih => exact congrArg (calling handler) ih

theorem calls_foldr_calling (handlers : List H) (last : Delivery H α) :
    (handlers.foldr calling last).calls = handlers ++ last.calls := by
  induction handlers with
  | nil => rfl
  | cons handler rest ih => exact congrArg (handler :: ·) ih

theorem value_foldr_calling (handlers : List H) (last : Delivery H α) :
    (handlers.foldr calling last).value = last.value := by
  induction handlers with
  | nil => rfl
  | cons handler rest ih => exact ih

end Delivery

/-! ## The delivery of a publication -/

namespace ChangeChannel

variable {H : Type} (channel : ChangeChannel H) (topic : String)

/-- What publishing the topic does, before any of it is done. -/
def delivery : Delivery H Nat :=
  channel.publish topic Delivery.call

theorem delivery_eq :
    channel.delivery topic =
      (channel.handlers topic).foldr Delivery.calling
        (.returned (channel.handlers topic).length) :=
  Delivery.forM_call_bind (channel.handlers topic) fun _ =>
    .returned (channel.handlers topic).length

theorem calls_delivery :
    (channel.delivery topic).calls = channel.handlers topic := by
  rw [delivery_eq, Delivery.calls_foldr_calling]
  exact List.append_nil _

theorem value_delivery :
    (channel.delivery topic).value = (channel.handlers topic).length := by
  rw [delivery_eq, Delivery.value_foldr_calling]
  rfl

end ChangeChannel

end GatewayPolicy
