import GatewayPolicy.Change
import GatewayPolicy.Proofs.Keyed.Lookup

/-!
# The subscriptions of each topic

What `subscribe` and `unsubscribe` make of the subscriptions of the topic that
they name, and that they leave those of every other topic as they are.  Both
need that the topics are listed in order, as they keep them.
-/

set_option autoImplicit false

namespace GatewayPolicy.ChangeChannel

variable {H : Type} {channel : ChangeChannel H}

/-! ## Subscribing -/

theorem sorted_subscribe (sorted : Keyed.Sorted channel.topics)
    (topic : String) (handler : H) :
    Keyed.Sorted (channel.subscribe topic handler).2.topics :=
  Keyed.sorted_update sorted

theorem subscriptions_subscribe (sorted : Keyed.Sorted channel.topics)
    (topic : String) (handler : H) (other : String) :
    (channel.subscribe topic handler).2.subscriptions other =
      if other = topic then
        channel.subscriptions topic ++
          [{ id := { number := channel.next }, handler := handler }]
      else channel.subscriptions other := by
  unfold subscriptions subscribe
  by_cases same : other = topic
  · rw [if_pos same, same, Keyed.find?_update_self _ sorted]
    rfl
  · rw [if_neg same, Keyed.find?_update_of_ne _ same]

/-! ## Unsubscribing -/

theorem sorted_unsubscribe (sorted : Keyed.Sorted channel.topics)
    (topic : String) (id : SubscriptionId) :
    Keyed.Sorted (channel.unsubscribe topic id).2.topics := by
  unfold unsubscribe
  split
  · exact sorted
  · exact Keyed.sorted_update sorted

theorem next_unsubscribe (channel : ChangeChannel H) (topic : String)
    (id : SubscriptionId) :
    (channel.unsubscribe topic id).2.next = channel.next := by
  unfold unsubscribe
  split <;> rfl

theorem subscriptions_unsubscribe (sorted : Keyed.Sorted channel.topics)
    (topic : String) (id : SubscriptionId) (other : String) :
    (channel.unsubscribe topic id).2.subscriptions other =
      if other = topic then
        (channel.subscriptions topic).filter
          fun subscription => subscription.id != id
      else channel.subscriptions other := by
  unfold unsubscribe
  split
  · next absent =>
      split
      · next same => simp [subscriptions, same, absent]
      · rfl
  · next live found =>
      by_cases same : other = topic
      · rw [if_pos same, same]
        simp [subscriptions, Keyed.insert, Keyed.find?_update_self _ sorted,
          found]
      · rw [if_neg same]
        simp [subscriptions, Keyed.insert, Keyed.find?_update_of_ne _ same]

theorem unsubscribe_fst (channel : ChangeChannel H) (topic : String)
    (id : SubscriptionId) :
    (channel.unsubscribe topic id).1 = true ↔
      ∃ subscription ∈ channel.subscriptions topic, subscription.id = id := by
  unfold unsubscribe subscriptions
  split
  · next absent => simp [absent]
  · next live found =>
      rw [found, Option.getD_some, bne_iff_ne, ne_comm, ne_eq,
        List.length_filter_eq_length_iff]
      simp

theorem unsubscribe_of_absent (sorted : Keyed.Sorted channel.topics)
    {topic : String} {id : SubscriptionId}
    (absent : ∀ subscription ∈ channel.subscriptions topic,
      subscription.id ≠ id) :
    channel.unsubscribe topic id = (false, channel) := by
  unfold subscriptions at absent
  unfold unsubscribe
  split
  · rfl
  · next live found =>
      rw [found, Option.getD_some] at absent
      have kept : live.filter (fun subscription => subscription.id != id) =
          live :=
        List.filter_eq_self.mpr fun subscription member => by
          simpa using absent subscription member
      simp [kept, Keyed.insert_of_find?_eq_some sorted found]

end GatewayPolicy.ChangeChannel
