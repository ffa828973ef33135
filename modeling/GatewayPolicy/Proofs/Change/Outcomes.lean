import GatewayPolicy.Change

/-!
# Publishing by its outcomes

What a handler does may take any number of steps, and may never end.  So a
handler, and with it a publication, is described by its outcomes: with which
result and in which world it may end, from the world in which it began.  Such
relations form a monad, and `publish` runs in it as in any other.  A
publication that has exactly one outcome returns, and always comes to that.
-/

set_option autoImplicit false

namespace GatewayPolicy

/-- A computation by the worlds before it, its results and the worlds after
it. -/
def Behaviour (W α : Type) : Type :=
  W → α → W → Prop

namespace Behaviour

variable {W α β : Type}

instance : Monad (Behaviour W) where
  pure value := fun before result after => result = value ∧ after = before
  bind first next := fun before result after =>
    ∃ value between, first before value between ∧
      next value between result after

theorem pure_bind (value : α) (next : α → Behaviour W β) :
    pure value >>= next = next value := by
  funext before result after
  apply propext
  constructor
  · rintro ⟨_, _, ⟨rfl, rfl⟩, ended⟩
    exact ended
  · intro ended
    exact ⟨value, before, ⟨rfl, rfl⟩, ended⟩

theorem bind_pure (behaviour : Behaviour W α) :
    behaviour >>= pure = behaviour := by
  funext before result after
  apply propext
  constructor
  · rintro ⟨_, _, ended, rfl, rfl⟩
    exact ended
  · intro ended
    exact ⟨result, after, ended, rfl, rfl⟩

theorem bind_assoc {γ : Type} (first : Behaviour W α)
    (second : α → Behaviour W β) (third : β → Behaviour W γ) :
    first >>= second >>= third =
      first >>= fun value => second value >>= third := by
  funext before result after
  apply propext
  constructor
  · rintro ⟨_, _, ⟨_, _, begun, met⟩, ended⟩
    exact ⟨_, _, begun, _, _, met, ended⟩
  · rintro ⟨_, _, begun, _, _, met, ended⟩
    exact ⟨_, _, ⟨_, _, begun, met⟩, ended⟩

instance : LawfulMonad (Behaviour W) :=
  .mk' _ bind_pure pure_bind bind_assoc

/-- Begun in the world, it ends, with this result and in that world. -/
def Ends (behaviour : Behaviour W α) (before : W) (result : α) (after : W) :
    Prop :=
  ∀ value world, behaviour before value world ↔ value = result ∧ world = after

theorem ends_pure (value : α) (world : W) :
    (pure value : Behaviour W α).Ends world value world :=
  fun _ _ => Iff.rfl

theorem Ends.bind {first : Behaviour W α} {next : α → Behaviour W β}
    {before between after : W} {value : α} {result : β}
    (begins : first.Ends before value between)
    (goesOn : (next value).Ends between result after) :
    (first >>= next).Ends before result after := by
  intro other world
  constructor
  · rintro ⟨_, _, started, ended⟩
    obtain ⟨rfl, rfl⟩ := (begins _ _).mp started
    exact (goesOn other world).mp ended
  · rintro ended
    exact ⟨value, between, (begins _ _).mpr ⟨rfl, rfl⟩,
      (goesOn other world).mpr ended⟩

theorem ends_forM_cons {H : Type} {notify : H → Behaviour W Unit}
    {handler : H} {handlers : List H} {before between after : W}
    (first : (notify handler).Ends before () between)
    (others : (handlers.forM notify).Ends between () after) :
    ((handler :: handlers).forM notify).Ends before () after :=
  first.bind others

end Behaviour

theorem ChangeChannel.publish_ends {H W : Type} {channel : ChangeChannel H}
    {topic : String} {notify : H → Behaviour W Unit} {before after : W}
    (ends : ((channel.handlers topic).forM notify).Ends before () after) :
    (channel.publish topic notify).Ends before
      (channel.handlers topic).length after :=
  ends.bind (Behaviour.ends_pure _ after)

end GatewayPolicy
