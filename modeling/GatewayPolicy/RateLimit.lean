import GatewayPolicy.Fault
import GatewayPolicy.Text.Ascii
import GatewayPolicy.Text.Blank

/-!
# Rate limits

A policy grants a quota per interval unit.  The quota is spread over the
unit's window and becomes the parameters of a token bucket: a replenish rate
of at least one token per second, and twice that as burst capacity.
-/

set_option autoImplicit false

namespace GatewayPolicy

inductive IntervalUnit where
  | seconds
  | minutes
  | hours
  | days
  deriving DecidableEq, Repr

namespace IntervalUnit

def name : IntervalUnit → String
  | .seconds => "seconds"
  | .minutes => "minutes"
  | .hours => "hours"
  | .days => "days"

/-- The seconds a quota is divided over.  Quotas per second share the window
of a minute. -/
def windowSeconds : IntervalUnit → UInt64
  | .seconds | .minutes => 60
  | .hours => 3600
  | .days => 86400

/-- How long the counters of a policy are kept: two windows and ten seconds
to spare, except that counters per second live for the ten seconds only. -/
def ttlSeconds : IntervalUnit → UInt64
  | .seconds => 10
  | .minutes => 130
  | .hours => 7210
  | .days => 172810

def ofName? : String → Option IntervalUnit
  | "seconds" => some .seconds
  | "minutes" => some .minutes
  | "hours" => some .hours
  | "days" => some .days
  | _ => none

/-- Units are written in any ASCII case, with blanks around them. -/
def ofText? (written : String) : Option IntervalUnit :=
  ofName? (Text.lowerAscii (Text.trim written))

def parse (written : String) : Except Issue IntervalUnit :=
  match ofText? written with
  | some unit => .ok unit
  | none => .error (.unsupportedInterval written)

end IntervalUnit

structure TokenBucket where
  replenishRate : UInt64
  burstCapacity : UInt64
  deriving DecidableEq, Repr

namespace TokenBucket

def saturatingDouble (rate : UInt64) : UInt64 :=
  if rate.toNat * 2 < UInt64.size then rate * 2 else -1

def forQuota (unit : IntervalUnit) (quota : UInt64) : TokenBucket :=
  let rate := max (quota / unit.windowSeconds) 1
  { replenishRate := rate, burstCapacity := saturatingDouble rate }

/-- A negative limit grants nothing, so it counts as zero. -/
def quotaOfLimit (limit : Int64) : UInt64 :=
  if limit ≤ 0 then 0 else limit.toUInt64

def ofLimit (unit : String) (limit : Int64) : Except Issue TokenBucket :=
  (IntervalUnit.parse unit).map fun unit => forQuota unit (quotaOfLimit limit)

end TokenBucket

end GatewayPolicy
