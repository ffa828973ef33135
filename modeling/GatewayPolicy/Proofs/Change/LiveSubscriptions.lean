import GatewayPolicy.Proofs.Change.Histories
import GatewayPolicy.Proofs.Change.Subscriptions

/-!
# The live subscriptions of a channel

A history of calls tells which subscriptions are live: those that were made
and not ended, in the order in which they were made, with the ids that they
were given.  The channel itself keeps a list for each topic, numbers its ids
by machine words, and finds out from the lengths of two lists whether it ended
a subscription.  The main statement is that all that it replies can be told
from the list of live subscriptions.
-/

set_option autoImplicit false

namespace GatewayPolicy

abbrev ChannelHistory (H : Type) : Type :=
  List (ChannelEvent H × ChannelReply H)

structure LiveSubscription (H : Type) where
  topic : String
  id : SubscriptionId
  handler : H
  deriving DecidableEq

namespace LiveSubscription

variable {H : Type}

def isIn (topic : String) (live : LiveSubscription H) : Bool :=
  live.topic == topic

def isNamed (topic : String) (id : SubscriptionId)
    (live : LiveSubscription H) : Bool :=
  live.topic == topic && live.id == id

def entry (live : LiveSubscription H) : Subscription H :=
  { id := live.id, handler := live.handler }

theorem isIn_iff {topic : String} {live : LiveSubscription H} :
    live.isIn topic = true ↔ live.topic = topic :=
  beq_iff_eq

theorem isNamed_iff {topic : String} {id : SubscriptionId}
    {live : LiveSubscription H} :
    live.isNamed topic id = true ↔ live.topic = topic ∧ live.id = id := by
  simp [isNamed]

end LiveSubscription

namespace ChannelHistory

variable {H : Type}

def givenAfter (given : List SubscriptionId) :
    ChannelEvent H × ChannelReply H → List SubscriptionId
  | (_, .subscribed id) => given ++ [id]
  | _ => given

def liveAfter (live : List (LiveSubscription H)) :
    ChannelEvent H × ChannelReply H → List (LiveSubscription H)
  | (.subscribe topic handler, .subscribed id) =>
      live ++ [{ topic := topic, id := id, handler := handler }]
  | (.unsubscribe topic id, _) =>
      live.filter fun subscription => !subscription.isNamed topic id
  | _ => live

def idsGiven (history : ChannelHistory H) : List SubscriptionId :=
  history.foldl givenAfter []

/-- The subscriptions that were made and not ended, oldest first. -/
def live (history : ChannelHistory H) : List (LiveSubscription H) :=
  history.foldl liveAfter []

theorem live_append_singleton (history : ChannelHistory H)
    (exchange : ChannelEvent H × ChannelReply H) :
    live (history ++ [exchange]) = liveAfter (live history) exchange := by
  simp [live]

end ChannelHistory

/-! ## What the channel keeps of its history -/

open ChannelHistory

def SubscriptionId.nth (index : Nat) : SubscriptionId :=
  { number := UInt64.ofNat (index + 1) }

/-- No two of the first ids are the same, as long as their numbers fit a
machine word. -/
theorem SubscriptionId.nth_inj {first second : Nat} (few : first < UInt64.size)
    (fewer : second < UInt64.size) (same : nth first = nth second) :
    first = second := by
  have numbers : UInt64.ofNat (first + 1) = UInt64.ofNat (second + 1) :=
    congrArg number same
  have words := congrArg UInt64.toNat numbers
  rw [UInt64.toNat_ofNat', UInt64.toNat_ofNat'] at words
  simp only [UInt64.size] at few fewer
  omega

theorem SubscriptionId.number_nth_succ (index : Nat) :
    (nth (index + 1)).number = (nth index).number + 1 :=
  UInt64.ofNat_add (index + 1) 1

theorem SubscriptionId.map_nth_range_succ (count : Nat) :
    (List.range (count + 1)).map nth =
      (List.range count).map nth ++ [nth count] := by
  rw [List.range_succ, List.map_append, List.map_singleton]

/-- The channel holds the live subscriptions, and has given the ids. -/
structure ChangeChannel.Tracks {H : Type} (live : List (LiveSubscription H))
    (given : List SubscriptionId) (channel : ChangeChannel H) : Prop where
  sorted : Keyed.Sorted channel.topics
  subscriptions : ∀ topic, channel.subscriptions topic =
    (live.filter (LiveSubscription.isIn topic)).map LiveSubscription.entry
  next : channel.next = (SubscriptionId.nth given.length).number
  numbered : given = (List.range given.length).map SubscriptionId.nth
  living : (live.map LiveSubscription.id).Sublist given

namespace ChangeChannel.Tracks

variable {H : Type} {live : List (LiveSubscription H)}
  {given : List SubscriptionId} {channel : ChangeChannel H}

theorem new : (ChangeChannel.new : ChangeChannel H).Tracks [] [] where
  sorted := List.Pairwise.nil
  subscriptions _ := rfl
  next := rfl
  numbered := rfl
  living := List.Sublist.slnil

theorem subscribe (tracks : channel.Tracks live given) (topic : String)
    (handler : H) :
    (channel.subscribe topic handler).2.Tracks
      (live ++
        [{ topic := topic
           id := { number := channel.next }
           handler := handler }])
      (given ++ [{ number := channel.next }]) := by
  have next : { number := channel.next } = SubscriptionId.nth given.length :=
    congrArg SubscriptionId.mk tracks.next
  have longer : (given ++ [SubscriptionId.nth given.length]).length =
      given.length + 1 :=
    List.length_append
  constructor
  · exact sorted_subscribe tracks.sorted topic handler
  · intro other
    rw [subscriptions_subscribe tracks.sorted, List.filter_append,
      List.map_append, ← tracks.subscriptions other]
    by_cases same : other = topic
    · simp [same, LiveSubscription.isIn, LiveSubscription.entry]
    · simp [same, LiveSubscription.isIn, Ne.symm same]
  · rw [next, longer, SubscriptionId.number_nth_succ, ← tracks.next]
    rfl
  · rw [next, longer, SubscriptionId.map_nth_range_succ, ← tracks.numbered]
  · rw [List.map_append]
    exact tracks.living.append (List.Sublist.refl _)

theorem unsubscribe (tracks : channel.Tracks live given) (topic : String)
    (id : SubscriptionId) :
    (channel.unsubscribe topic id).2.Tracks
      (live.filter fun subscription => !subscription.isNamed topic id)
      given := by
  constructor
  · exact sorted_unsubscribe tracks.sorted topic id
  · intro other
    rw [subscriptions_unsubscribe tracks.sorted, List.filter_filter]
    by_cases same : other = topic
    · rw [if_pos same, tracks.subscriptions, List.filter_map,
        List.filter_filter, same]
      refine congrArg (List.map LiveSubscription.entry)
        (List.filter_congr fun subscription _ => ?_)
      cases here : subscription.topic == topic <;>
      simp [LiveSubscription.isIn, LiveSubscription.isNamed,
        LiveSubscription.entry, here, bne]
    · rw [if_neg same, tracks.subscriptions]
      refine congrArg (List.map LiveSubscription.entry)
        (List.filter_congr fun subscription _ => ?_)
      by_cases here : subscription.topic = other
      · simp [LiveSubscription.isIn, LiveSubscription.isNamed, here, same]
      · simp [LiveSubscription.isIn, here]
  · rw [next_unsubscribe]
    exact tracks.next
  · exact tracks.numbered
  · exact (List.filter_sublist.map LiveSubscription.id).trans tracks.living

theorem proceed {system : ChannelSystem H}
    (tracks : system.channel.Tracks live given) {event : ChannelEvent H}
    (unchanged : ∀ reply, liveAfter live (event, reply) = live)
    (publication : Nat) (delivery : Delivery H Nat) :
    let reply := (system.proceed publication delivery).2
    (system.proceed publication delivery).1.channel.Tracks
      (liveAfter live (event, reply)) (givenAfter given (event, reply)) := by
  intro reply
  rw [unchanged]
  cases delivery with
  | returned count => exact tracks
  | calling handler rest => exact tracks

theorem step {system : ChannelSystem H}
    (tracks : system.channel.Tracks live given) (event : ChannelEvent H) :
    let reply := (system.step event).2
    (system.step event).1.channel.Tracks (liveAfter live (event, reply))
      (givenAfter given (event, reply)) := by
  cases event with
  | subscribe topic handler => exact tracks.subscribe topic handler
  | unsubscribe topic id => exact tracks.unsubscribe topic id
  | publish topic =>
      let next : ChannelSystem H := { system with begun := system.begun + 1 }
      have begins : next.channel.Tracks live given := tracks
      exact begins.proceed (fun _ => rfl) _ _
  | returns publication =>
      cases running : system.resting publication with
      | none =>
          rw [ChannelSystem.step_returns_of_none running]
          exact tracks
      | some rest =>
          rw [ChannelSystem.step_returns_of_some running]
          exact tracks.proceed (fun _ => rfl) publication rest

theorem run {system : ChannelSystem H}
    (tracks : system.channel.Tracks live given)
    (events : List (ChannelEvent H)) :
    (system.run events).channel.Tracks
      ((system.exchanges events).foldl liveAfter live)
      ((system.exchanges events).foldl givenAfter given) := by
  induction events generalizing system live given with
  | nil => exact tracks
  | cons event rest ih => exact ih (tracks.step event)

/-! ## What follows for the next call -/

theorem handlers_eq (tracks : channel.Tracks live given) (topic : String) :
    channel.handlers topic =
      (live.filter (LiveSubscription.isIn topic)).map
        LiveSubscription.handler := by
  rw [handlers, tracks.subscriptions, List.map_map]
  rfl

/-- The next id is new as long as fewer than all ids were given. -/
theorem next_fresh (tracks : channel.Tracks live given)
    (few : given.length < UInt64.size) (topic : String) (handler : H) :
    (channel.subscribe topic handler).1 ∉ given := by
  intro member
  rw [tracks.numbered] at member
  obtain ⟨index, earlier, same⟩ := List.mem_map.mp member
  have less : index < given.length := List.mem_range.mp earlier
  have next : SubscriptionId.nth index = SubscriptionId.nth given.length :=
    same.trans (congrArg SubscriptionId.mk tracks.next)
  have equal := SubscriptionId.nth_inj (Nat.lt_trans less few) few next
  omega

theorem nodup_ids (tracks : channel.Tracks live given)
    (few : given.length < UInt64.size) :
    (live.map LiveSubscription.id).Nodup := by
  refine tracks.living.nodup ?_
  rw [tracks.numbered]
  refine List.pairwise_map.mpr ?_
  refine List.Pairwise.imp_of_mem ?_ List.pairwise_lt_range
  intro first second firstIn secondIn less same
  have firstFew := Nat.lt_trans (List.mem_range.mp firstIn) few
  have secondFew := Nat.lt_trans (List.mem_range.mp secondIn) few
  have equal := SubscriptionId.nth_inj firstFew secondFew same
  omega

theorem exists_named_iff (tracks : channel.Tracks live given)
    (topic : String) (id : SubscriptionId) :
    (∃ subscription ∈ channel.subscriptions topic, subscription.id = id) ↔
      ∃ subscription ∈ live,
        subscription.topic = topic ∧ subscription.id = id := by
  rw [tracks.subscriptions]
  constructor
  · rintro ⟨_, member, named⟩
    obtain ⟨subscription, kept, rfl⟩ := List.mem_map.mp member
    obtain ⟨present, here⟩ := List.mem_filter.mp kept
    exact
      ⟨subscription, present, LiveSubscription.isIn_iff.mp here, named⟩
  · rintro ⟨subscription, present, here, named⟩
    have kept :=
      List.mem_filter.mpr ⟨present, LiveSubscription.isIn_iff.mpr here⟩
    exact ⟨subscription.entry, List.mem_map_of_mem kept, named⟩

end ChangeChannel.Tracks

theorem filter_not_isNamed {H : Type}
    {before later : List (LiveSubscription H)} {ended : LiveSubscription H}
    (distinct :
      ((before ++ ended :: later).map LiveSubscription.id).Nodup) :
    (before ++ ended :: later).filter
        (fun subscription => !subscription.isNamed ended.topic ended.id) =
      before ++ later := by
  have others : ∀ subscription ∈ before ++ later,
      (!subscription.isNamed ended.topic ended.id) = true := by
    have moved := (List.perm_middle.map LiveSubscription.id).nodup distinct
    rw [List.map_cons, List.nodup_cons] at moved
    intro subscription member
    rw [Bool.not_eq_true', Bool.eq_false_iff]
    intro named
    have same := (LiveSubscription.isNamed_iff.mp named).2
    exact moved.1 (same ▸ List.mem_map_of_mem member)
  have removed : (!ended.isNamed ended.topic ended.id) = false := by
    rw [LiveSubscription.isNamed_iff.mpr ⟨rfl, rfl⟩]
    rfl
  rw [List.filter_append, List.filter_cons, removed, if_neg Bool.false_ne_true,
    ← List.filter_append]
  exact List.filter_eq_self.mpr others

/-! ## The channel as a list of live subscriptions -/

/-- After any calls, as long as fewer than 2^64 ids were given: the next id is
new.  Ending a subscription finds it if and only if it is live for the topic,
and then takes that one out of the list; else nothing changes.  And a
publication calls the handlers that are live for its topic when it begins,
each once and in the order of their subscriptions, and returns their number:
whatever happens meanwhile, the replies for it are these in this order, one
when it begins and one at each return of a handler of it. -/
theorem channel_refines_live_subscriptions {H : Type}
    (past : List (ChannelEvent H))
    (few : (idsGiven (ChannelSystem.new.exchanges past)).length < UInt64.size) :
    let history := (ChannelSystem.new : ChannelSystem H).exchanges past
    let system := (ChannelSystem.new : ChannelSystem H).run past
    (∀ topic handler, ∃ id,
      (system.step (.subscribe topic handler)).2 = .subscribed id ∧
      id ∉ idsGiven history) ∧
    (∀ topic id,
      (∃ before ended later,
        live history = before ++ ended :: later ∧
        ended.topic = topic ∧ ended.id = id ∧
        (system.step (.unsubscribe topic id)).2 = .unsubscribed true ∧
        live (ChannelSystem.new.exchanges (past ++ [.unsubscribe topic id])) =
          before ++ later) ∨
      ((∀ subscription ∈ live history,
          ¬(subscription.topic = topic ∧ subscription.id = id)) ∧
        system.step (.unsubscribe topic id) =
          (system, .unsubscribed false))) ∧
    (∀ topic later,
      let publication := system.begun
      let targets := ((live history).filter fun subscription =>
        subscription.topic == topic).map LiveSubscription.handler
      (ChannelSystem.new.replies (past ++ .publish topic :: later)).filter
          (ChannelReply.isOf publication) =
        (targets.map (ChannelReply.calls publication) ++
            [ChannelReply.delivered publication targets.length]).take
          (1 + later.countP (ChannelEvent.isReturnTo publication))) := by
  intro history system
  have start : (ChannelSystem.new : ChannelSystem H).channel.Tracks [] [] :=
    ChangeChannel.Tracks.new
  have tracks : system.channel.Tracks (live history) (idsGiven history) :=
    start.run past
  refine ⟨?_, ?_, ?_⟩
  · intro topic handler
    exact ⟨_, rfl, tracks.next_fresh few topic handler⟩
  · intro topic id
    by_cases found : ∃ subscription ∈ live history,
        subscription.topic = topic ∧ subscription.id = id
    · left
      obtain ⟨ended, present, rfl, rfl⟩ := found
      obtain ⟨before, later, split⟩ := List.append_of_mem present
      refine ⟨before, ended, later, split, rfl, rfl, ?_, ?_⟩
      · have named := (tracks.exists_named_iff ended.topic ended.id).mpr
          ⟨ended, present, rfl, rfl⟩
        have replied := (system.channel.unsubscribe_fst _ _).mpr named
        exact congrArg ChannelReply.unsubscribed replied
      · have distinct := tracks.nodup_ids few
        rw [split] at distinct
        rw [ChannelSystem.exchanges_append]
        refine (live_append_singleton history _).trans ?_
        rw [split]
        exact filter_not_isNamed distinct
    · right
      refine ⟨fun subscription present named =>
        found ⟨subscription, present, named⟩, ?_⟩
      have absent : ∀ subscription ∈ system.channel.subscriptions topic,
          subscription.id ≠ id := fun subscription member named =>
        found ((tracks.exists_named_iff topic id).mp
          ⟨subscription, member, named⟩)
      have unchanged :=
        ChangeChannel.unsubscribe_of_absent tracks.sorted absent
      simp only [ChannelSystem.step, unchanged]
  · intro topic later publication targets
    have handlers : system.channel.handlers topic = targets :=
      tracks.handlers_eq topic
    have whole : (system.channel.delivery topic).replies publication =
        targets.map (ChannelReply.calls publication) ++
          [ChannelReply.delivered publication targets.length] := by
      rw [Delivery.replies, ChangeChannel.calls_delivery,
        ChangeChannel.value_delivery, handlers]
    rw [← whole]
    exact ChannelSystem.replies_publish past later topic

/-- While the first handler is running, the second subscription is ended, a
third one is made and another topic is published: the publication still calls
the first two handlers, and no other. -/
theorem subscription_ended_meanwhile_is_notified :
    let past : List (ChannelEvent Nat) :=
      [.subscribe "changes" 10, .subscribe "ticks" 20,
        .subscribe "changes" 30]
    let later : List (ChannelEvent Nat) :=
      [.unsubscribe "changes" { number := 3 }, .subscribe "changes" 40,
        .publish "ticks", .returns 1, .returns 0, .returns 0]
    (idsGiven (ChannelSystem.new.exchanges past)).length < UInt64.size ∧
    (ChannelSystem.new.replies (past ++ .publish "changes" :: later)).filter
        (ChannelReply.isOf 0) =
      [.calls 0 10, .calls 0 30, .delivered 0 2] := by
  intro past later
  have few : (idsGiven (ChannelSystem.new.exchanges past)).length <
      UInt64.size := by
    decide
  obtain ⟨_, _, published⟩ := channel_refines_live_subscriptions past few
  exact ⟨few, published "changes" later⟩

end GatewayPolicy
