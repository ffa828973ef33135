import GatewayPolicy.Fault

/-!
# Outcomes of a resolution pass

A pass either comes to a value, perhaps leaving rows out, or is degraded: what
it needed could not be read, and its value is empty.
-/

set_option autoImplicit false

namespace GatewayPolicy

inductive Resolution (α : Type) where
  /-- `skipped` names the rows that were left out of the value. -/
  | loaded (value : α) (skipped : List Issue)
  | degraded (cause : Issue)
  deriving DecidableEq, Repr

namespace Resolution

variable {α β : Type}

def value (empty : α) : Resolution α → α
  | loaded value _ => value
  | degraded _ => empty

def cause? : Resolution α → Option Issue
  | loaded _ _ => none
  | degraded cause => some cause

def isDegraded (resolution : Resolution α) : Bool :=
  resolution.cause?.isSome

def skipped : Resolution α → List Issue
  | loaded _ skipped => skipped
  | degraded _ => []

def ofRead (read : Except StoreFault β) (resolve : β → Resolution α) :
    Resolution α :=
  match read with
  | .ok rows => resolve rows
  | .error fault => .degraded fault.toIssue

end Resolution

inductive CategoryStatus where
  | loaded (items : Nat) (skipped : List String)
  | degraded (error : String)
  deriving DecidableEq, Repr

namespace CategoryStatus

def isDegraded : CategoryStatus → Bool
  | loaded _ _ => false
  | degraded _ => true

def ofResolution {α : Type} (count : α → Nat) : Resolution α → CategoryStatus
  | .loaded value skipped => loaded (count value) (skipped.map Issue.message)
  | .degraded cause => degraded cause.message

end CategoryStatus

end GatewayPolicy
