import GatewayPolicy.Json.Basic
import GatewayPolicy.Row

/-!
# Configuration rows as JSON

Each row is a record with one field per column; a column that may be absent
is null then.
-/

set_option autoImplicit false

namespace GatewayPolicy

namespace RouteRule

def toJson (rule : RouteRule) : Json :=
  .object
    [("path", .string rule.path),
      ("persist", .bool rule.persist),
      ("retryable", .bool rule.retryable),
      ("route_id", .ofInt64 rule.routeId),
      ("route_name", .string rule.routeName),
      ("service_id", .ofOption .string rule.serviceId),
      ("status", .ofInt64 rule.status),
      ("strip_prefix", .ofInt64 rule.stripPrefix),
      ("url", .ofOption .string rule.url)]

def ofJson? (json : Json) : Option RouteRule := do
  let field ← json.record?
    ["route_id", "route_name", "service_id", "url", "path", "strip_prefix",
      "retryable", "persist", "status"]
  return {
    routeId := ← Json.required Json.int64? (field "route_id")
    routeName := ← Json.required Json.string? (field "route_name")
    serviceId := ← Json.optional Json.string? (field "service_id")
    url := ← Json.optional Json.string? (field "url")
    path := ← Json.required Json.string? (field "path")
    stripPrefix := ← Json.required Json.int64? (field "strip_prefix")
    retryable := ← Json.required Json.bool? (field "retryable")
    persist := ← Json.required Json.bool? (field "persist")
    status := ← Json.required Json.int64? (field "status") }

end RouteRule

namespace LimitPolicy

def toJson (policy : LimitPolicy) : Json :=
  .object
    [("interval_unit", .string policy.intervalUnit),
      ("limit_quota", .ofInt64 policy.limitQuota),
      ("policy_id", .ofInt64 policy.policyId),
      ("policy_name", .string policy.policyName),
      ("policy_type", .string policy.policyType)]

def ofJson? (json : Json) : Option LimitPolicy := do
  let field ← json.record?
    ["policy_id", "policy_name", "limit_quota", "interval_unit", "policy_type"]
  return {
    policyId := ← Json.required Json.int64? (field "policy_id")
    policyName := ← Json.required Json.string? (field "policy_name")
    limitQuota := ← Json.required Json.int64? (field "limit_quota")
    intervalUnit := ← Json.required Json.string? (field "interval_unit")
    policyType := ← Json.required Json.string? (field "policy_type") }

end LimitPolicy

namespace LimitBinding

def toJson (binding : LimitBinding) : Json :=
  .object
    [("api_category", .string binding.apiCategory),
      ("api_code", .string binding.apiCode),
      ("api_id", .ofInt64 binding.apiId),
      ("api_name", .string binding.apiName),
      ("interval_unit", .string binding.intervalUnit),
      ("limit_quota", .ofInt64 binding.limitQuota),
      ("path", .string binding.path),
      ("policy_id", .ofInt64 binding.policyId),
      ("policy_name", .string binding.policyName),
      ("service_id", .string binding.serviceId),
      ("url", .ofOption .string binding.url)]

def ofJson? (json : Json) : Option LimitBinding := do
  let field ← json.record?
    ["policy_id", "policy_name", "limit_quota", "interval_unit", "api_id",
      "api_code", "api_name", "api_category", "service_id", "path", "url"]
  return {
    policyId := ← Json.required Json.int64? (field "policy_id")
    policyName := ← Json.required Json.string? (field "policy_name")
    limitQuota := ← Json.required Json.int64? (field "limit_quota")
    intervalUnit := ← Json.required Json.string? (field "interval_unit")
    apiId := ← Json.required Json.int64? (field "api_id")
    apiCode := ← Json.required Json.string? (field "api_code")
    apiName := ← Json.required Json.string? (field "api_name")
    apiCategory := ← Json.required Json.string? (field "api_category")
    serviceId := ← Json.required Json.string? (field "service_id")
    path := ← Json.required Json.string? (field "path")
    url := ← Json.optional Json.string? (field "url") }

end LimitBinding

namespace AuthorityGrant

def toJson (grant : AuthorityGrant) : Json :=
  .object
    [("authority", .string grant.authority),
      ("authority_id", .ofInt64 grant.authorityId),
      ("path", .ofOption .string grant.path),
      ("service_id", .string grant.serviceId)]

def ofJson? (json : Json) : Option AuthorityGrant := do
  let field ← json.record? ["authority_id", "authority", "service_id", "path"]
  return {
    authorityId := ← Json.required Json.int64? (field "authority_id")
    authority := ← Json.required Json.string? (field "authority")
    serviceId := ← Json.required Json.string? (field "service_id")
    path := ← Json.optional Json.string? (field "path") }

end AuthorityGrant

namespace ListKind

def toJson (kind : ListKind) : Json :=
  .string kind.name

def ofName? (name : String) : Option ListKind :=
  [black, white].find? fun kind => kind.name == name

def ofJson? (json : Json) : Option ListKind :=
  json.choice?.bind ofName?

end ListKind

namespace AddressEntry

def toJson (entry : AddressEntry) : Json :=
  .object
    [("api_id", .ofInt64 entry.apiId),
      ("ip_addresses", .strings entry.addresses),
      ("kind", entry.kind.toJson),
      ("path", .ofOption .string entry.path),
      ("policy_id", .ofInt64 entry.policyId),
      ("policy_name", .string entry.policyName),
      ("service_id", .string entry.serviceId)]

def ofJson? (json : Json) : Option AddressEntry := do
  let field ← json.record?
    ["policy_id", "policy_name", "kind", "ip_addresses", "api_id",
      "service_id", "path"]
  return {
    policyId := ← Json.required Json.int64? (field "policy_id")
    policyName := ← Json.required Json.string? (field "policy_name")
    kind := ← Json.required ListKind.ofJson? (field "kind")
    addresses := ← Json.required (Json.list? Json.string?) (field "ip_addresses")
    apiId := ← Json.required Json.int64? (field "api_id")
    serviceId := ← Json.required Json.string? (field "service_id")
    path := ← Json.optional Json.string? (field "path") }

end AddressEntry

end GatewayPolicy
