/-!
# Faults

A store read fails for one of two reasons; a resolution pass reports three
kinds of issue.  Each has one wording, given by `message`.
-/

set_option autoImplicit false

namespace GatewayPolicy

inductive StoreFault where
  | unavailable (reason : String)
  /-- A selected row did not decode. -/
  | mapping (reason : String)
  deriving DecidableEq, Repr

def StoreFault.message : StoreFault → String
  | .unavailable reason => "store unavailable: " ++ reason
  | .mapping reason => "row mapping error: " ++ reason

inductive Issue where
  | storeUnavailable (reason : String)
  /-- The unit as it was written, untrimmed. -/
  | unsupportedInterval (written : String)
  | ambiguousRoute (serviceId kept ignored : String)
  deriving DecidableEq, Repr

def Issue.message : Issue → String
  | .storeUnavailable reason => "store unavailable: " ++ reason
  | .unsupportedInterval written => "unsupported interval unit: " ++ written
  | .ambiguousRoute serviceId kept ignored =>
      "service " ++ serviceId ++ " claimed by routes " ++ kept ++ " and " ++
        ignored ++ "; using " ++ kept

def StoreFault.toIssue (fault : StoreFault) : Issue :=
  .storeUnavailable fault.message

end GatewayPolicy
