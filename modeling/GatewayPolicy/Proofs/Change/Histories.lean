import GatewayPolicy.Proofs.Change.Delivery

/-!
# Histories of a change channel

Calls reach a channel in any order.  A publication takes more than one turn:
it rests while a handler that it has called is running, and until this one
returns anything may happen, by its doing or another's: subscriptions, ends of
subscriptions, further publications.  Publications are numbered as they begin,
so that it can be told for which of them a handler is called.

A publication is a delivery that is worked off: each return of a handler takes
it one step further, and nothing else touches it.
-/

set_option autoImplicit false

namespace GatewayPolicy

inductive ChannelEvent (H : Type) where
  | subscribe (topic : String) (handler : H)
  | unsubscribe (topic : String) (id : SubscriptionId)
  | publish (topic : String)
  /-- The handler that the publication has called last returns. -/
  | returns (publication : Nat)

inductive ChannelReply (H : Type) where
  | subscribed (id : SubscriptionId)
  | unsubscribed (ended : Bool)
  | calls (publication : Nat) (handler : H)
  | delivered (publication : Nat) (count : Nat)
  | nothing

structure ChannelSystem (H : Type) where
  channel : ChangeChannel H
  begun : Nat
  /-- What a publication that is running does when its handler returns. -/
  resting : Nat → Option (Delivery H Nat)

namespace ChannelSystem

variable {H : Type}

def new : ChannelSystem H :=
  { channel := .new, begun := 0, resting := fun _ => none }

def setResting (system : ChannelSystem H) (publication : Nat)
    (rest : Option (Delivery H Nat)) : ChannelSystem H :=
  { system with
    resting := fun other =>
      if other = publication then rest else system.resting other }

def proceed (system : ChannelSystem H) (publication : Nat) :
    Delivery H Nat → ChannelSystem H × ChannelReply H
  | .returned count =>
      (system.setResting publication none, .delivered publication count)
  | .calling handler rest =>
      (system.setResting publication (some rest), .calls publication handler)

def step (system : ChannelSystem H) :
    ChannelEvent H → ChannelSystem H × ChannelReply H
  | .subscribe topic handler =>
      let (id, channel) := system.channel.subscribe topic handler
      ({ system with channel := channel }, .subscribed id)
  | .unsubscribe topic id =>
      let (ended, channel) := system.channel.unsubscribe topic id
      ({ system with channel := channel }, .unsubscribed ended)
  | .publish topic =>
      let next := { system with begun := system.begun + 1 }
      next.proceed system.begun (system.channel.delivery topic)
  | .returns publication =>
      match system.resting publication with
      | none => (system, .nothing)
      | some rest => system.proceed publication rest

def run (system : ChannelSystem H) :
    List (ChannelEvent H) → ChannelSystem H
  | [] => system
  | event :: rest => run (system.step event).1 rest

def exchanges (system : ChannelSystem H) :
    List (ChannelEvent H) → List (ChannelEvent H × ChannelReply H)
  | [] => []
  | event :: rest =>
      (event, (system.step event).2) :: exchanges (system.step event).1 rest

def replies (system : ChannelSystem H) (events : List (ChannelEvent H)) :
    List (ChannelReply H) :=
  (system.exchanges events).map Prod.snd

theorem replies_cons (system : ChannelSystem H) (event : ChannelEvent H)
    (rest : List (ChannelEvent H)) :
    system.replies (event :: rest) =
      (system.step event).2 :: (system.step event).1.replies rest :=
  rfl

theorem exchanges_append (system : ChannelSystem H)
    (first second : List (ChannelEvent H)) :
    system.exchanges (first ++ second) =
      system.exchanges first ++ (system.run first).exchanges second := by
  induction first generalizing system with
  | nil => rfl
  | cons event rest ih =>
      exact congrArg (_ :: ·) (ih (system.step event).1)

theorem replies_append (system : ChannelSystem H)
    (first second : List (ChannelEvent H)) :
    system.replies (first ++ second) =
      system.replies first ++ (system.run first).replies second := by
  simp only [replies, exchanges_append, List.map_append]

end ChannelSystem

/-! ## The replies of one publication -/

section

variable {H : Type}

def ChannelReply.isOf (publication : Nat) : ChannelReply H → Bool
  | calls number _ => number == publication
  | delivered number _ => number == publication
  | subscribed _ => false
  | unsubscribed _ => false
  | nothing => false

def ChannelEvent.isReturnTo (publication : Nat) : ChannelEvent H → Bool
  | returns number => number == publication
  | subscribe _ _ => false
  | unsubscribe _ _ => false
  | publish _ => false

def Delivery.replies (publication : Nat) (delivery : Delivery H Nat) :
    List (ChannelReply H) :=
  delivery.calls.map (.calls publication) ++
    [.delivered publication delivery.value]

end

namespace ChannelSystem

variable {H : Type}

/-- What the publication has still to reply. -/
def outstanding (system : ChannelSystem H) (publication : Nat) :
    List (ChannelReply H) :=
  match system.resting publication with
  | none => []
  | some rest => rest.replies publication

/-- Publications that have not begun are not running. -/
def Numbered (system : ChannelSystem H) : Prop :=
  ∀ publication ≥ system.begun, system.resting publication = none

theorem numbered_new : (new : ChannelSystem H).Numbered :=
  fun _ _ => rfl

theorem begun_proceed (system : ChannelSystem H) (publication : Nat)
    (delivery : Delivery H Nat) :
    (system.proceed publication delivery).1.begun = system.begun := by
  cases delivery <;> rfl

theorem resting_proceed_of_ne (system : ChannelSystem H)
    {publication other : Nat} (apart : other ≠ publication)
    (delivery : Delivery H Nat) :
    (system.proceed publication delivery).1.resting other =
      system.resting other := by
  cases delivery <;> exact if_neg apart

theorem proceed_self (system : ChannelSystem H) (publication : Nat)
    (delivery : Delivery H Nat) :
    (system.proceed publication delivery).2 ::
        (system.proceed publication delivery).1.outstanding publication =
      delivery.replies publication := by
  cases delivery with
  | returned count =>
      simp [proceed, outstanding, setResting, Delivery.replies,
        Delivery.calls, Delivery.value]
  | calling handler rest =>
      simp [proceed, outstanding, setResting, Delivery.replies,
        Delivery.calls, Delivery.value]

theorem isOf_proceed (system : ChannelSystem H) (publication other : Nat)
    (delivery : Delivery H Nat) :
    (system.proceed publication delivery).2.isOf other =
      (publication == other) := by
  cases delivery <;> rfl

theorem Numbered.begun_of_running {system : ChannelSystem H}
    (numbered : system.Numbered) {publication : Nat} {rest : Delivery H Nat}
    (running : system.resting publication = some rest) :
    publication < system.begun := by
  rcases Nat.lt_or_ge publication system.begun with begun | unbegun
  · exact begun
  · rw [numbered publication unbegun] at running
    cases running

theorem Numbered.proceed {system : ChannelSystem H}
    (numbered : system.Numbered) {publication : Nat}
    (begun : publication < system.begun) (delivery : Delivery H Nat) :
    (system.proceed publication delivery).1.Numbered := by
  intro other unbegun
  rw [begun_proceed] at unbegun
  have apart : other ≠ publication := Nat.ne_of_gt (by omega)
  rw [resting_proceed_of_ne system apart]
  exact numbered other unbegun

theorem step_returns_of_none {system : ChannelSystem H} {publication : Nat}
    (none : system.resting publication = none) :
    system.step (.returns publication) = (system, .nothing) := by
  simp only [step, none]

theorem step_returns_of_some {system : ChannelSystem H} {publication : Nat}
    {rest : Delivery H Nat}
    (running : system.resting publication = some rest) :
    system.step (.returns publication) =
      system.proceed publication rest := by
  simp only [step, running]

theorem Numbered.step {system : ChannelSystem H}
    (numbered : system.Numbered) (event : ChannelEvent H) :
    (system.step event).1.Numbered := by
  cases event with
  | subscribe topic handler => exact numbered
  | unsubscribe topic id => exact numbered
  | publish topic =>
      let next := { system with begun := system.begun + 1 }
      have later : next.Numbered := fun other unbegun =>
        numbered other (Nat.le_of_succ_le unbegun)
      exact later.proceed (Nat.lt_succ_self system.begun) _
  | returns publication =>
      cases running : system.resting publication with
      | none =>
          rw [step_returns_of_none running]
          exact numbered
      | some rest =>
          rw [step_returns_of_some running]
          exact numbered.proceed (numbered.begun_of_running running) rest

theorem begun_step (system : ChannelSystem H) (event : ChannelEvent H) :
    system.begun ≤ (system.step event).1.begun := by
  cases event with
  | subscribe topic handler => exact Nat.le_refl _
  | unsubscribe topic id => exact Nat.le_refl _
  | publish topic =>
      rw [step, begun_proceed]
      exact Nat.le_succ system.begun
  | returns publication =>
      cases running : system.resting publication with
      | none => exact Nat.le_of_eq (by rw [step_returns_of_none running])
      | some rest =>
          have same : (system.proceed publication rest).1.begun =
              system.begun :=
            begun_proceed system publication rest
          rw [step_returns_of_some running]
          exact Nat.le_of_eq same.symm

/-- Each return of its handler works off one reply of a publication that has
begun, and nothing else does. -/
theorem step_outstanding (system : ChannelSystem H) {publication : Nat}
    (begun : publication < system.begun) (event : ChannelEvent H) :
    let worked := if event.isReturnTo publication then 1 else 0
    [(system.step event).2].filter (ChannelReply.isOf publication) =
        (system.outstanding publication).take worked ∧
      (system.step event).1.outstanding publication =
        (system.outstanding publication).drop worked := by
  cases event with
  | subscribe topic handler => exact ⟨rfl, rfl⟩
  | unsubscribe topic id => exact ⟨rfl, rfl⟩
  | publish topic =>
      have apart : publication ≠ system.begun := Nat.ne_of_lt begun
      have reply := isOf_proceed { system with begun := system.begun + 1 }
        system.begun publication (system.channel.delivery topic)
      rw [beq_false_of_ne (Ne.symm apart)] at reply
      constructor
      · simp [step, reply, ChannelEvent.isReturnTo]
      · simp [step, outstanding, resting_proceed_of_ne _ apart,
          ChannelEvent.isReturnTo]
  | returns other =>
      cases running : system.resting other with
      | none =>
          rw [step_returns_of_none running]
          by_cases same : other = publication
          · rw [same] at running
            simp [outstanding, running, ChannelReply.isOf]
          · simp [ChannelEvent.isReturnTo, same, ChannelReply.isOf]
      | some rest =>
          rw [step_returns_of_some running]
          have reply := isOf_proceed system other publication rest
          by_cases same : other = publication
          · subst same
            have worked := proceed_self system other rest
            have left : system.outstanding other = rest.replies other := by
              rw [outstanding, running]
            rw [left, ← worked]
            simp [ChannelEvent.isReturnTo, reply]
          · rw [beq_false_of_ne same] at reply
            constructor
            · simp [ChannelEvent.isReturnTo, same, reply]
            · simp [outstanding, resting_proceed_of_ne system (Ne.symm same),
                ChannelEvent.isReturnTo, same]

/-- A publication that has begun replies in its order, one reply for each
return of its handlers, whatever else happens in between. -/
theorem replies_outstanding (system : ChannelSystem H) {publication : Nat}
    (begun : publication < system.begun) (events : List (ChannelEvent H)) :
    (system.replies events).filter (ChannelReply.isOf publication) =
      (system.outstanding publication).take
        (events.countP (ChannelEvent.isReturnTo publication)) := by
  induction events generalizing system with
  | nil => rfl
  | cons event rest ih =>
      obtain ⟨reply, left⟩ := step_outstanding system begun event
      have later :=
        ih (system.step event).1 (Nat.lt_of_lt_of_le begun (begun_step _ event))
      calc (system.replies (event :: rest)).filter
              (ChannelReply.isOf publication)
          = [(system.step event).2].filter (ChannelReply.isOf publication) ++
              ((system.step event).1.replies rest).filter
                (ChannelReply.isOf publication) := by
            rw [replies_cons, ← List.filter_append, List.singleton_append]
        _ = (system.outstanding publication).take
              ((if event.isReturnTo publication then 1 else 0) +
                rest.countP (ChannelEvent.isReturnTo publication)) := by
            rw [reply, later, left, List.take_add]
        _ = _ := by
            rw [List.countP_cons, Nat.add_comm]

theorem isOf_step_of_unbegun {system : ChannelSystem H}
    (numbered : system.Numbered) (event : ChannelEvent H) {publication : Nat}
    (unbegun : (system.step event).1.begun ≤ publication) :
    (system.step event).2.isOf publication = false := by
  cases event with
  | subscribe topic handler => rfl
  | unsubscribe topic id => rfl
  | publish topic =>
      rw [step, begun_proceed] at unbegun
      rw [step, isOf_proceed]
      exact beq_false_of_ne (Nat.ne_of_lt unbegun)
  | returns other =>
      cases running : system.resting other with
      | none => rw [step_returns_of_none running]; rfl
      | some rest =>
          have begun := numbered.begun_of_running running
          rw [step_returns_of_some running, begun_proceed] at unbegun
          rw [step_returns_of_some running, isOf_proceed]
          have less := Nat.lt_of_lt_of_le begun unbegun
          exact beq_false_of_ne (Nat.ne_of_lt less)

theorem begun_run (system : ChannelSystem H) (events : List (ChannelEvent H)) :
    system.begun ≤ (system.run events).begun := by
  induction events generalizing system with
  | nil => exact Nat.le_refl _
  | cons event rest ih =>
      exact Nat.le_trans (begun_step system event) (ih (system.step event).1)

theorem replies_unbegun {system : ChannelSystem H}
    (numbered : system.Numbered) (events : List (ChannelEvent H))
    {publication : Nat} (unbegun : (system.run events).begun ≤ publication) :
    (system.replies events).filter (ChannelReply.isOf publication) = [] := by
  induction events generalizing system with
  | nil => rfl
  | cons event rest ih =>
      have before : (system.step event).1.begun ≤ publication :=
        Nat.le_trans (begun_run _ rest) unbegun
      have reply := isOf_step_of_unbegun numbered event before
      rw [replies_cons, List.filter_cons, reply]
      exact ih (numbered.step event) unbegun

/-- All the replies of a publication, from the start of the channel: those of
its delivery in their order, as far as its handlers have returned. -/
theorem replies_publish (past later : List (ChannelEvent H))
    (topic : String) :
    let before := (new : ChannelSystem H).run past
    (new.replies (past ++ .publish topic :: later)).filter
        (ChannelReply.isOf before.begun) =
      ((before.channel.delivery topic).replies before.begun).take
        (1 + later.countP (ChannelEvent.isReturnTo before.begun)) := by
  intro before
  let number := before.begun
  let after := (before.step (.publish topic)).1
  have none : ((new : ChannelSystem H).replies past).filter
      (ChannelReply.isOf number) = [] :=
    replies_unbegun numbered_new past (Nat.le_refl _)
  have begun : number < after.begun := by
    simp only [after, step, begun_proceed]
    exact Nat.lt_succ_self _
  have first : (before.step (.publish topic)).2 :: after.outstanding number =
      (before.channel.delivery topic).replies number :=
    proceed_self _ _ _
  have isOf : (before.step (.publish topic)).2.isOf number = true := by
    rw [step, isOf_proceed]
    exact beq_self_eq_true number
  rw [replies_append, List.filter_append, none, List.nil_append, replies_cons,
    List.filter_cons, isOf, if_pos rfl, replies_outstanding after begun later,
    ← first, Nat.add_comm, List.take_succ_cons]

end ChannelSystem

end GatewayPolicy
