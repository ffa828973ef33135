import GatewayPolicy.Database.Cell

/-!
# The configuration tables

Seven tables hold the gateway's configuration: routes, apis, rate limit
policies, authorities and address policies, and two tables of pairs that bind
policies to apis.  Each column has an affinity and a default, and may refuse
null; each table has a key that tells its rows apart.
-/

set_option autoImplicit false

namespace GatewayPolicy.Database

inductive RouteColumn where
  | routeId | routeName | path | serviceId | url | stripPrefix | retryable
  | persist | status
  deriving DecidableEq, Repr

inductive ApiColumn where
  | apiId | apiCode | apiName | apiCategory | serviceId | path
  deriving DecidableEq, Repr

inductive RateLimitColumn where
  | policyId | policyName | limitQuota | intervalUnit | policyType
  deriving DecidableEq, Repr

inductive AuthorityColumn where
  | authorityId | authority | apiId | status
  deriving DecidableEq, Repr

inductive AddressColumn where
  | policyId | policyName | policyType | address
  deriving DecidableEq, Repr

inductive PairColumn where
  | policyId | apiId
  deriving DecidableEq, Repr

inductive Table where
  | route
  | api
  | rateLimit
  | rateLimitApi
  | authority
  | address
  | addressApi
  deriving DecidableEq, Repr

structure ColumnRule where
  name : String
  affinity : Affinity
  required : Bool
  default : Cell

namespace ColumnRule

/-- Names of columns are compared without regard to ASCII case. -/
def isNamed (rule : ColumnRule) (name : String) : Bool :=
  Text.eqIgnoringAsciiCase rule.name name

def nullable (name : String) (affinity : Affinity) : ColumnRule :=
  { name := name, affinity := affinity, required := false, default := .null }

def mandatory (name : String) (affinity : Affinity) : ColumnRule :=
  { name := name, affinity := affinity, required := true, default := .null }

def defaulted (name : String) (affinity : Affinity) (default : Cell) :
    ColumnRule :=
  { name := name, affinity := affinity, required := true, default := default }

end ColumnRule

namespace Table

def all : List Table :=
  [route, api, rateLimit, rateLimitApi, authority, address, addressApi]

def name : Table → String
  | route => "gateway_route"
  | api => "base_api"
  | rateLimit => "gateway_rate_limit"
  | rateLimitApi => "gateway_rate_limit_api"
  | authority => "base_authority"
  | address => "gateway_ip_limit"
  | addressApi => "gateway_ip_limit_api"

def ofName? (name : String) : Option Table :=
  all.find? fun table => Text.eqIgnoringAsciiCase table.name name

abbrev Column : Table → Type
  | route => RouteColumn
  | api => ApiColumn
  | rateLimit => RateLimitColumn
  | authority => AuthorityColumn
  | address => AddressColumn
  | rateLimitApi | addressApi => PairColumn

def columns : (table : Table) → List table.Column
  | route =>
      [.routeId, .routeName, .path, .serviceId, .url, .stripPrefix,
        .retryable, .persist, .status]
  | api => [.apiId, .apiCode, .apiName, .apiCategory, .serviceId, .path]
  | rateLimit =>
      [.policyId, .policyName, .limitQuota, .intervalUnit, .policyType]
  | authority => [.authorityId, .authority, .apiId, .status]
  | address => [.policyId, .policyName, .policyType, .address]
  | rateLimitApi | addressApi => [.policyId, .apiId]

def routeRule : RouteColumn → ColumnRule
  | .routeId => .nullable "route_id" .integer
  | .routeName => .mandatory "route_name" .text
  | .path => .mandatory "path" .text
  | .serviceId => .nullable "service_id" .text
  | .url => .nullable "url" .text
  | .stripPrefix => .defaulted "strip_prefix" .integer (.integer 1)
  | .retryable => .defaulted "retryable" .integer (.integer 0)
  | .persist => .defaulted "is_persist" .integer (.integer 0)
  | .status => .defaulted "status" .integer (.integer 1)

def apiRule : ApiColumn → ColumnRule
  | .apiId => .nullable "api_id" .integer
  | .apiCode => .mandatory "api_code" .text
  | .apiName => .mandatory "api_name" .text
  | .apiCategory => .defaulted "api_category" .text (.text "")
  | .serviceId => .mandatory "service_id" .text
  | .path => .nullable "path" .text

def rateLimitRule : RateLimitColumn → ColumnRule
  | .policyId => .nullable "policy_id" .integer
  | .policyName => .mandatory "policy_name" .text
  | .limitQuota => .mandatory "limit_quota" .integer
  | .intervalUnit => .mandatory "interval_unit" .text
  | .policyType => .defaulted "policy_type" .text (.text "url")

def authorityRule : AuthorityColumn → ColumnRule
  | .authorityId => .nullable "authority_id" .integer
  | .authority => .mandatory "authority" .text
  | .apiId => .mandatory "api_id" .integer
  | .status => .defaulted "status" .integer (.integer 1)

def addressRule : AddressColumn → ColumnRule
  | .policyId => .nullable "policy_id" .integer
  | .policyName => .mandatory "policy_name" .text
  | .policyType => .mandatory "policy_type" .integer
  | .address => .defaulted "ip_address" .text (.text "")

def pairRule : PairColumn → ColumnRule
  | .policyId => .mandatory "policy_id" .integer
  | .apiId => .mandatory "api_id" .integer

def rule : (table : Table) → table.Column → ColumnRule
  | route => routeRule
  | api => apiRule
  | rateLimit => rateLimitRule
  | authority => authorityRule
  | address => addressRule
  | rateLimitApi | addressApi => pairRule

def key : (table : Table) → List table.Column
  | route => [.routeId]
  | api => [.apiId]
  | rateLimit => [.policyId]
  | authority => [.authorityId]
  | address => [.policyId]
  | rateLimitApi | addressApi => [.policyId, .apiId]

abbrev Record (table : Table) : Type :=
  table.Column → Cell

def qualified (table : Table) (column : table.Column) : String :=
  table.name ++ "." ++ (table.rule column).name

end Table

/-! ## Reserved names -/

def rowNumberName : String := "rowid"

def isRowNumber (name : String) : Bool :=
  [rowNumberName, "oid", "_rowid_"].any fun known =>
    Text.eqIgnoringAsciiCase known name

/-- The tables that a database keeps for itself, each with its names. -/
def systemTables : List (String × List String) :=
  [("sqlite_master", ["sqlite_master", "sqlite_schema"]),
    ("sqlite_temp_master", ["sqlite_temp_master", "sqlite_temp_schema"])]

def systemTable? (name : String) : Option String :=
  (systemTables.find? fun entry =>
    entry.2.any fun known => Text.eqIgnoringAsciiCase known name).map Prod.fst

end GatewayPolicy.Database
