import GatewayPolicy.Refresh.Coordinator

/-!
# Refreshes by the clock

A snapshot tells when it was published and a report how long its cycle took.
Neither has any influence on a refresh, so that both are kept beside the
coordinator, and follow what it is told.
-/

set_option autoImplicit false

namespace GatewayPolicy

structure Clock where
  /-- Milliseconds since the beginning of 1970. -/
  wallMs : UInt64
  /-- Milliseconds of a clock that nobody sets. -/
  steadyMs : Nat
  deriving DecidableEq, Repr

structure CycleTimes where
  /-- When the published snapshot was made, and zero before there was one. -/
  loadedAtMs : UInt64
  startedMs : Nat
  elapsedMs : UInt64
  deriving DecidableEq, Repr

namespace CycleTimes

def unset : CycleTimes :=
  { loadedAtMs := 0, startedMs := 0, elapsedMs := 0 }

/-- A cycle has ended, and the next one begins at once if there is one. -/
def endCycle (times : CycleTimes) (now : Clock) : CycleTimes :=
  { times with
    startedMs := now.steadyMs
    elapsedMs := .ofNat (now.steadyMs - times.startedMs) }

def call (times : CycleTimes) (now : Clock) : Reply → CycleTimes
  | .reading => { times with startedMs := now.steadyMs }
  | .waiting | .returned _ => times

def read (times : CycleTimes) (now : Clock) (coordinator : Coordinator)
    (read : Read) : CycleTimes :=
  match coordinator.activity with
  | .idle => times
  | .reading cycle =>
      match cycle.advance coordinator.settings read with
      | .ongoing _ => times
      | .completed _ _ =>
          { times.endCycle now with loadedAtMs := now.wallMs }
      | .abandoned _ => times.endCycle now

end CycleTimes

end GatewayPolicy
