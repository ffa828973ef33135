import GatewayPolicy.Database.Basic
import GatewayPolicy.Store.Category

/-!
# Reading the configuration tables

Each category is one query: the joined rows that meet its condition, in the
order of its keys, decoded column by column.  A selected row with a column of
the wrong kind fails the whole query, and the first such row in that order
gives the fault.  The keys leave open how the rows of one pair that meets
several routes are arranged; a database arranges them by further keys, and which
these are is left to it.
-/

set_option autoImplicit false

namespace GatewayPolicy.Database

/-! ## Decoding columns -/

structure Selected where
  index : Nat
  name : String
  cell : Cell

namespace Selected

def wrongKind {α : Type} (column : Selected) : Except StoreFault α :=
  .error (.mapping ("Invalid column type " ++ column.cell.kindName ++
    " at index: " ++ toString column.index ++ ", name: " ++ column.name))

def int64 (column : Selected) : Except StoreFault Int64 :=
  match column.cell with
  | .integer n => .ok n
  | _ => column.wrongKind

def notUtf8 {α : Type} (column : Selected) (text : MalformedText) :
    Except StoreFault α :=
  .error (.mapping ("Conversion error from type " ++ column.cell.kindName ++
    " at index: " ++ toString column.index ++ ", " ++ text.fault.message))

def text (column : Selected) : Except StoreFault String :=
  match column.cell with
  | .text s => .ok s
  | .malformed text => column.notUtf8 text
  | _ => column.wrongKind

def text? (column : Selected) : Except StoreFault (Option String) :=
  match column.cell with
  | .null => .ok none
  | .text s => .ok (some s)
  | .malformed text => column.notUtf8 text
  | _ => column.wrongKind

def nonBlank? (column : Selected) : Except StoreFault (Option String) :=
  column.text?.map fun s => s.bind Text.nonBlank?

end Selected

def select (index : Nat) (table : Table) (record : table.Record)
    (column : table.Column) : Selected :=
  { index := index
    name := (table.rule column).name
    cell := record column }

/-! ## Order -/

/-- Compares by the first key, where that is equal by the next, and so on. -/
def compareBy {α : Type} (keys : List (α → Cell)) (a b : α) : Ordering :=
  keys.foldr (fun key rest => ((key a).compare (key b)).then rest) .eq

def inOrder {α : Type} (keys : List (α → Cell)) (rows : List α) : List α :=
  rows.mergeSort fun a b => compareBy keys a b != .gt

/-! ## Routes -/

def activeRoutes (routes : List (Table.Record .route)) :
    List (Table.Record .route) :=
  inOrder [(· .routeId)]
    (routes.filter fun route => (route .status).equals (.integer 1))

def decodeRoute (route : Table.Record .route) : Except StoreFault RouteRule := do
  let column (index : Nat) (name : RouteColumn) := select index .route route name
  let routeId ← (column 0 .routeId).int64
  let routeName ← (column 1 .routeName).text
  let path ← (column 2 .path).text
  let serviceId ← (column 3 .serviceId).nonBlank?
  let url ← (column 4 .url).nonBlank?
  let stripPrefix ← (column 5 .stripPrefix).int64
  let retryable ← (column 6 .retryable).int64
  let persist ← (column 7 .persist).int64
  let status ← (column 8 .status).int64
  return {
    routeId := routeId
    routeName := routeName
    serviceId := serviceId
    url := url
    path := path
    stripPrefix := stripPrefix
    retryable := retryable != 0
    persist := persist != 0
    status := status }

def Contents.loadRoutes (db : Contents) : Except StoreFault (List RouteRule) := do
  let routes ← db.rows .route
  (activeRoutes routes).mapM decodeRoute

/-! ## Rate limit bindings -/

structure BoundLimit where
  pair : Table.Record .rateLimitApi
  policy : Table.Record .rateLimit
  api : Table.Record .api
  route : Table.Record .route

/-- Every pair with its url policy and its api, once for each route that goes
by the name of the api's service. -/
def boundLimits (pairs : List (Table.Record .rateLimitApi))
    (policies : List (Table.Record .rateLimit))
    (apis : List (Table.Record .api))
    (routes : List (Table.Record .route)) : List BoundLimit :=
  pairs.flatMap fun pair =>
    (policies.filter fun policy =>
      (pair .policyId).equals (policy .policyId) &&
        (policy .policyType).equals (.text "url")).flatMap fun policy =>
    (apis.filter fun api =>
      (pair .apiId).equals (api .apiId)).flatMap fun api =>
    (routes.filter fun route =>
      (api .serviceId).equals (route .routeName)).map fun route =>
    { pair := pair, policy := policy, api := api, route := route }

def decodeBinding (bound : BoundLimit) : Except StoreFault LimitBinding := do
  let policyId ← (select 0 .rateLimitApi bound.pair .policyId).int64
  let policyName ← (select 1 .rateLimit bound.policy .policyName).text
  let limitQuota ← (select 2 .rateLimit bound.policy .limitQuota).int64
  let intervalUnit ← (select 3 .rateLimit bound.policy .intervalUnit).text
  let apiId ← (select 4 .api bound.api .apiId).int64
  let apiCode ← (select 5 .api bound.api .apiCode).text
  let apiName ← (select 6 .api bound.api .apiName).text
  let apiCategory ← (select 7 .api bound.api .apiCategory).text
  let serviceId ← (select 8 .api bound.api .serviceId).text
  let path ← (select 9 .api bound.api .path).text?
  let url ← (select 10 .route bound.route .url).nonBlank?
  return {
    policyId := policyId
    policyName := policyName
    limitQuota := limitQuota
    intervalUnit := intervalUnit
    apiId := apiId
    apiCode := apiCode
    apiName := apiName
    apiCategory := apiCategory
    serviceId := serviceId
    path := path.getD ""
    url := url }

/-- The further keys by which a database arranges rows of one pair. -/
abbrev TieOrder := List (BoundLimit → Cell)

def TieOrder.byUrl : TieOrder :=
  [fun bound => bound.route .url]

def Contents.loadBindings (ties : TieOrder) (db : Contents) :
    Except StoreFault (List LimitBinding) := do
  let pairs ← db.rows .rateLimitApi
  let policies ← db.rows .rateLimit
  let apis ← db.rows .api
  let routes ← db.rows .route
  (inOrder
    ((fun bound => bound.pair .policyId) :: (fun bound => bound.api .apiId) ::
      ties)
    (boundLimits pairs policies apis routes)).mapM decodeBinding

/-! ## Authorities -/

def grantedAuthorities (authorities : List (Table.Record .authority))
    (apis : List (Table.Record .api)) :
    List (Table.Record .authority × Table.Record .api) :=
  (authorities.filter fun authority =>
    (authority .status).equals (.integer 1)).flatMap fun authority =>
  (apis.filter fun api =>
    (authority .apiId).equals (api .apiId)).map fun api =>
  (authority, api)

def decodeGrant (row : Table.Record .authority × Table.Record .api) :
    Except StoreFault AuthorityGrant := do
  let authorityId ← (select 0 .authority row.1 .authorityId).int64
  let authority ← (select 1 .authority row.1 .authority).text
  let serviceId ← (select 2 .api row.2 .serviceId).text
  let path ← (select 3 .api row.2 .path).text?
  return {
    authorityId := authorityId
    authority := authority
    serviceId := serviceId
    path := path }

def Contents.loadGrants (db : Contents) :
    Except StoreFault (List AuthorityGrant) := do
  let authorities ← db.rows .authority
  let apis ← db.rows .api
  (inOrder [fun row => row.1 .authorityId]
    (grantedAuthorities authorities apis)).mapM decodeGrant

/-! ## Address lists -/

def boundAddresses (kind : ListKind) (pairs : List (Table.Record .addressApi))
    (policies : List (Table.Record .address))
    (apis : List (Table.Record .api)) :
    List (Table.Record .address × Table.Record .api) :=
  pairs.flatMap fun pair =>
    (policies.filter fun policy =>
      (pair .policyId).equals (policy .policyId) &&
        (policy .policyType).equals
          (.integer kind.policyType)).flatMap fun policy =>
    (apis.filter fun api =>
      (pair .apiId).equals (api .apiId)).map fun api =>
    (policy, api)

/-- The addresses are decoded before the other columns. -/
def decodeAddresses (kind : ListKind)
    (row : Table.Record .address × Table.Record .api) :
    Except StoreFault AddressEntry := do
  let written ← (select 2 .address row.1 .address).text
  let policyId ← (select 0 .address row.1 .policyId).int64
  let policyName ← (select 1 .address row.1 .policyName).text
  let apiId ← (select 3 .api row.2 .apiId).int64
  let serviceId ← (select 4 .api row.2 .serviceId).text
  let path ← (select 5 .api row.2 .path).text?
  return {
    policyId := policyId
    policyName := policyName
    kind := kind
    addresses := splitAddresses written
    apiId := apiId
    serviceId := serviceId
    path := path }

def Contents.loadAddresses (db : Contents) (kind : ListKind) :
    Except StoreFault (List AddressEntry) := do
  let pairs ← db.rows .addressApi
  let policies ← db.rows .address
  let apis ← db.rows .api
  (inOrder [fun row => row.1 .policyId, fun row => row.2 .apiId]
    (boundAddresses kind pairs policies apis)).mapM (decodeAddresses kind)

def Contents.reading (ties : TieOrder) (db : Contents) : Reading
  | .routes => db.loadRoutes
  | .bindings => db.loadBindings ties
  | .authorities => db.loadGrants
  | .addresses kind => db.loadAddresses kind

end GatewayPolicy.Database
