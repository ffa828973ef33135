import GatewayPolicy.Json.Basic
import GatewayPolicy.Route

/-!
# Gateway routes as JSON

Targets carry their case in the field `kind`, filters in the field `name`;
all else is a record.
-/

set_option autoImplicit false

namespace GatewayPolicy

namespace IntervalUnit

def toJson (unit : IntervalUnit) : Json :=
  .string unit.name

def ofJson? (json : Json) : Option IntervalUnit :=
  json.choice?.bind ofName?

end IntervalUnit

namespace TokenBucket

def toJson (bucket : TokenBucket) : Json :=
  .object
    [("burst_capacity", .ofUInt64 bucket.burstCapacity),
      ("replenish_rate", .ofUInt64 bucket.replenishRate)]

def ofJson? (json : Json) : Option TokenBucket := do
  let field ← json.record? ["replenish_rate", "burst_capacity"]
  return {
    replenishRate := ← Json.required Json.uint64? (field "replenish_rate")
    burstCapacity := ← Json.required Json.uint64? (field "burst_capacity") }

end TokenBucket

namespace RouteTarget

def toJson : RouteTarget → Json
  | .loadBalanced serviceId =>
      .object [("kind", .string "load_balanced"), ("service_id", .string serviceId)]
  | .url literal => .object [("kind", .string "url"), ("url", .string literal)]

def ofJson? (json : Json) : Option RouteTarget := do
  let (kind, content) ← json.tagged? "kind"
  match kind with
  | "load_balanced" =>
      let field ← content.record? ["service_id"]
      return .loadBalanced (← Json.required Json.string? (field "service_id"))
  | "url" =>
      let field ← content.record? ["url"]
      return .url (← Json.required Json.string? (field "url"))
  | _ => none

end RouteTarget

namespace RouteFilter

def toJson : RouteFilter → Json
  | .stripPrefix parts =>
      .object [("name", .string "StripPrefix"), ("parts", .ofNat parts.toNat)]
  | .requestRateLimiter replenishRate burstCapacity keyResolver =>
      .object
        [("burst_capacity", .ofUInt64 burstCapacity),
          ("key_resolver", .string keyResolver),
          ("name", .string "RequestRateLimiter"),
          ("replenish_rate", .ofUInt64 replenishRate)]

def ofJson? (json : Json) : Option RouteFilter := do
  let (name, content) ← json.tagged? "name"
  match name with
  | "StripPrefix" =>
      let field ← content.record? ["parts"]
      return .stripPrefix (← Json.required Json.uint32? (field "parts"))
  | "RequestRateLimiter" =>
      let field ← content.record?
        ["replenish_rate", "burst_capacity", "key_resolver"]
      return .requestRateLimiter
        (← Json.required Json.uint64? (field "replenish_rate"))
        (← Json.required Json.uint64? (field "burst_capacity"))
        (← Json.required Json.string? (field "key_resolver"))
  | _ => none

end RouteFilter

namespace PathPredicate

def toJson (predicate : PathPredicate) : Json :=
  .object
    [("name", .string predicate.name),
      ("pattern", .string predicate.pattern),
      ("rate_limited", .bool predicate.rateLimited)]

def ofJson? (json : Json) : Option PathPredicate := do
  let field ← json.record? ["pattern", "name", "rate_limited"]
  return {
    pattern := ← Json.required Json.string? (field "pattern")
    name := ← Json.required Json.string? (field "name")
    rateLimited := ← Json.required Json.bool? (field "rate_limited") }

end PathPredicate

namespace RouteLimit

def toJson (limit : RouteLimit) : Json :=
  .object
    [("api_category", .string limit.apiCategory),
      ("api_code", .string limit.apiCode),
      ("bucket", limit.bucket.toJson),
      ("interval_unit", limit.unit.toJson),
      ("policy_id", .ofInt64 limit.policyId),
      ("policy_name", .string limit.policyName),
      ("quota", .ofUInt64 limit.quota),
      ("ttl_seconds", .ofUInt64 limit.ttlSeconds)]

def ofJson? (json : Json) : Option RouteLimit := do
  let field ← json.record?
    ["policy_id", "policy_name", "api_code", "api_category", "interval_unit",
      "quota", "bucket", "ttl_seconds"]
  return {
    policyId := ← Json.required Json.int64? (field "policy_id")
    policyName := ← Json.required Json.string? (field "policy_name")
    apiCode := ← Json.required Json.string? (field "api_code")
    apiCategory := ← Json.required Json.string? (field "api_category")
    unit := ← Json.required IntervalUnit.ofJson? (field "interval_unit")
    quota := ← Json.required Json.uint64? (field "quota")
    bucket := ← Json.required TokenBucket.ofJson? (field "bucket")
    ttlSeconds := ← Json.required Json.uint64? (field "ttl_seconds") }

end RouteLimit

namespace ResolvedRoute

def toJson (route : ResolvedRoute) : Json :=
  .object
    [("filters", .ofList RouteFilter.toJson route.filters),
      ("id", .string route.id),
      ("order", .ofUInt64 route.order),
      ("predicate", route.predicate.toJson),
      ("rate_limit", .ofOption RouteLimit.toJson route.limit),
      ("retryable", .bool route.retryable),
      ("target", route.target.toJson)]

def ofJson? (json : Json) : Option ResolvedRoute := do
  let field ← json.record?
    ["id", "order", "predicate", "target", "filters", "rate_limit", "retryable"]
  return {
    id := ← Json.required Json.string? (field "id")
    order := ← Json.required Json.uint64? (field "order")
    predicate := ← Json.required PathPredicate.ofJson? (field "predicate")
    target := ← Json.required RouteTarget.ofJson? (field "target")
    filters := ← Json.required (Json.list? RouteFilter.ofJson?) (field "filters")
    limit := ← Json.optional RouteLimit.ofJson? (field "rate_limit")
    retryable := ← Json.required Json.bool? (field "retryable") }

end ResolvedRoute

namespace ResolverSettings

def toJson (settings : ResolverSettings) : Json :=
  .object [("key_resolver", .string settings.keyResolver)]

def ofJson? (json : Json) : Option ResolverSettings := do
  let field ← json.record? ["key_resolver"]
  return {
    keyResolver := ← Json.required Json.string? (field "key_resolver") }

end ResolverSettings

end GatewayPolicy
