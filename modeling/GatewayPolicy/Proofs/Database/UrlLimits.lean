import GatewayPolicy.Proofs.Database.Deactivation
import GatewayPolicy.Proofs.Database.Joins
import GatewayPolicy.Proofs.Database.Keys

/-!
# Limits that apis are bound to

The query of the bindings joins a pair with its policy, its api and every route
that goes by the name of the api's service, active or not.  Keys leave one
policy and one api to each pair, so a pair is read as often as the service's
name is found among the names of the routes: never if no route goes by it, and
twice if two do.
-/

set_option autoImplicit false

namespace GatewayPolicy

namespace Database

/-! ## Joined rows -/

variable {pairs : List (Table.Record .rateLimitApi)}
  {policies : List (Table.Record .rateLimit)}
  {apis : List (Table.Record .api)} {routes : List (Table.Record .route)}

theorem mem_boundLimits {bound : BoundLimit} :
    bound ∈ boundLimits pairs policies apis routes ↔
      bound.pair ∈ pairs ∧
      (bound.policy ∈ policies ∧
        (bound.pair .policyId).equals (bound.policy .policyId) = true ∧
        (bound.policy .policyType).equals (.text "url") = true) ∧
      (bound.api ∈ apis ∧
        (bound.pair .apiId).equals (bound.api .apiId) = true) ∧
      (bound.route ∈ routes ∧
        (bound.api .serviceId).equals (bound.route .routeName) = true) := by
  simp only [boundLimits, List.mem_flatMap, List.mem_map, List.mem_filter,
    Bool.and_eq_true]
  constructor
  · rintro ⟨pair, ofPair, policy, ofPolicy, api, ofApi, route, ofRoute, rfl⟩
    exact ⟨ofPair, ofPolicy, ofApi, ofRoute⟩
  · rintro ⟨ofPair, ofPolicy, ofApi, ofRoute⟩
    exact ⟨_, ofPair, _, ofPolicy, _, ofApi, _, ofRoute, rfl⟩

theorem boundLimits_cons (pair : Table.Record .rateLimitApi) :
    boundLimits (pair :: pairs) policies apis routes =
      boundLimits [pair] policies apis routes ++
        boundLimits pairs policies apis routes := by
  simp only [boundLimits, List.flatMap_cons, List.flatMap_nil,
    List.append_nil]

theorem boundLimits_filter_pairs (keep : Table.Record .rateLimitApi → Bool) :
    boundLimits (pairs.filter keep) policies apis routes =
      (boundLimits pairs policies apis routes).filter fun bound =>
        keep bound.pair := by
  induction pairs with
  | nil => rfl
  | cons pair rest ih =>
      have own : ∀ bound ∈ boundLimits [pair] policies apis routes,
          keep bound.pair = keep pair := by
        intro bound member
        rw [List.mem_singleton.mp (mem_boundLimits.mp member).1]
      rw [boundLimits_cons, List.filter_append, ← ih]
      cases kept : keep pair with
      | true =>
          have all := List.filter_eq_self.mpr fun bound member =>
            (own bound member).trans kept
          rw [List.filter_cons_of_pos kept, boundLimits_cons, all]
      | false =>
          have none := List.filter_eq_nil_iff.mpr fun bound member =>
            Bool.eq_false_iff.mp ((own bound member).trans kept)
          rw [List.filter_cons_of_neg (Bool.eq_false_iff.mp kept), none,
            List.nil_append]

theorem boundLimits_singleton {pair : Table.Record .rateLimitApi}
    {policy : Table.Record .rateLimit} {api : Table.Record .api}
    (onePolicy : (policies.filter fun policy =>
      (pair .policyId).equals (policy .policyId) &&
        (policy .policyType).equals (.text "url")) = [policy])
    (oneApi : (apis.filter fun api =>
      (pair .apiId).equals (api .apiId)) = [api]) :
    boundLimits [pair] policies apis routes =
      (routes.filter fun route =>
        (api .serviceId).equals (route .routeName)).map fun route =>
          { pair := pair, policy := policy, api := api, route := route } := by
  simp only [boundLimits, List.flatMap_cons, List.flatMap_nil,
    List.append_nil, onePolicy, oneApi]

theorem sameKey_pair_iff {pair other : Table.Record .rateLimitApi} :
    sameKey .rateLimitApi pair other = true ↔
      (pair .policyId).equals (other .policyId) = true ∧
        (pair .apiId).equals (other .apiId) = true := by
  simp [sameKey, Table.key]

theorem sameKey_pair_iff_ids {pair : Table.Record .rateLimitApi}
    {bound : BoundLimit} {binding : LimitBinding}
    (decoded : decodeBinding bound = .ok binding)
    (joined : (bound.pair .apiId).equals (bound.api .apiId) = true) :
    sameKey .rateLimitApi pair bound.pair = true ↔
      (pair .policyId).equals (.integer binding.policyId) = true ∧
        (pair .apiId).equals (.integer binding.apiId) = true := by
  obtain ⟨policyEq, apiEq⟩ := decodeBinding_eq_ok decoded
  rw [apiEq] at joined
  rw [sameKey_pair_iff, policyEq]
  refine and_congr_right fun _ => ⟨fun same => ?_, fun same => ?_⟩
  · exact Cell.equals_trans same joined
  · exact Cell.equals_trans same (Cell.equals_symm joined)

/-! ## Limits in a database -/

namespace Contents

theorem exists_loadBindings (db : Contents) (ties : TieOrder)
    (decodes : (db.boundLimits.toOption.any fun bounds =>
      bounds.all fun bound => (decodeBinding bound).toOption.isSome) = true) :
    ∃ bindings, db.loadBindings ties = .ok bindings := by
  cases joined : db.boundLimits with
  | error fault => simp [joined, Except.toOption] at decodes
  | ok bounds =>
      rw [joined] at decodes
      rw [loadBindings_eq, joined]
      refine exists_values fun bound member => ?_
      have own := List.all_eq_true.mp decodes bound
        (List.mem_mergeSort.mp member)
      cases decoded : decodeBinding bound with
      | error fault => simp [decoded, Except.toOption] at own
      | ok binding => exact ⟨binding, rfl⟩

def Holds (db : Contents) (table : Table) (record : table.Record) : Prop :=
  ∃ records, db.rows table = .ok records ∧ record ∈ records

/-- The pair binds the api to the policy, which is one for urls. -/
structure LimitsUrl (db : Contents) (pair : Table.Record .rateLimitApi)
    (policy : Table.Record .rateLimit) (api : Table.Record .api) : Prop where
  pair_held : db.Holds .rateLimitApi pair
  policy_held : db.Holds .rateLimit policy
  api_held : db.Holds .api api
  policy_of_pair : (pair .policyId).equals (policy .policyId) = true
  of_urls : (policy .policyType).equals (.text "url") = true
  api_of_pair : (pair .apiId).equals (api .apiId) = true

/-- A key of the schema picks one row of those a database holds. -/
theorem KeysDistinct.filter_eq_singleton {db : Contents}
    (distinct : db.KeysDistinct) {table : Table}
    {records : List table.Record} (read : db.rows table = .ok records)
    {record : table.Record} (held : db.Holds table record)
    {picks : table.Record → Bool} (picked : picks record = true)
    (alike : ∀ other, picks other = true → sameKey table record other = true) :
    records.filter picks = [record] := by
  obtain ⟨_, again, member⟩ := held
  obtain rfl := Except.ok.inj (again.symm.trans read)
  exact (distinct table _ read).filter_eq_singleton member picked alike

namespace LimitsUrl

variable {db : Contents} {ties : TieOrder} {pair : Table.Record .rateLimitApi}
  {policy : Table.Record .rateLimit} {api : Table.Record .api}

/-- The keys leave no other policy, no other api and no other such pair. -/
theorem countP_boundLimits (limit : db.LimitsUrl pair policy api)
    (distinct : db.KeysDistinct) (pairsRead : db.rows .rateLimitApi = .ok pairs)
    (policiesRead : db.rows .rateLimit = .ok policies)
    (apisRead : db.rows .api = .ok apis) :
    (Database.boundLimits pairs policies apis routes).countP
        (fun bound => sameKey .rateLimitApi pair bound.pair) =
      routes.countP fun route =>
        (api .serviceId).equals (route .routeName) := by
  -- only null is not equal to itself, and it joins nothing
  have self {a b : Cell} (same : a.equals b = true) : a.equals a = true :=
    Cell.equals_trans same (Cell.equals_symm same)
  have onePair : pairs.filter (sameKey .rateLimitApi pair) = [pair] :=
    distinct.filter_eq_singleton pairsRead limit.pair_held
      (sameKey_pair_iff.mpr
        ⟨self limit.policy_of_pair, self limit.api_of_pair⟩)
      fun _ same => same
  have onePolicy : (policies.filter fun policy =>
      (pair .policyId).equals (policy .policyId) &&
        (policy .policyType).equals (.text "url")) = [policy] := by
    refine distinct.filter_eq_singleton policiesRead limit.policy_held
      (Bool.and_eq_true_iff.mpr ⟨limit.policy_of_pair, limit.of_urls⟩) ?_
    intro other picked
    have ofPair := (Bool.and_eq_true_iff.mp picked).1
    have same := Cell.equals_trans (Cell.equals_symm limit.policy_of_pair) ofPair
    simpa [sameKey, Table.key] using same
  have oneApi : (apis.filter fun api =>
      (pair .apiId).equals (api .apiId)) = [api] := by
    refine distinct.filter_eq_singleton apisRead limit.api_held
      limit.api_of_pair ?_
    intro other ofPair
    have same := Cell.equals_trans (Cell.equals_symm limit.api_of_pair) ofPair
    simpa [sameKey, Table.key] using same
  calc (Database.boundLimits pairs policies apis routes).countP
        (fun bound => sameKey .rateLimitApi pair bound.pair)
      = (Database.boundLimits [pair] policies apis routes).length := by
        rw [← onePair, boundLimits_filter_pairs, List.countP_eq_length_filter]
    _ = routes.countP fun route =>
          (api .serviceId).equals (route .routeName) := by
        rw [boundLimits_singleton onePolicy oneApi, List.length_map,
          List.countP_eq_length_filter]

theorem exists_rows (limit : db.LimitsUrl pair policy api)
    (distinct : db.KeysDistinct) (routesRead : db.rows .route = .ok routes)
    {bindings : List LimitBinding}
    (loaded : db.loadBindings ties = .ok bindings) :
    ∃ rows : List BoundLimit, rows.mapM decodeBinding = .ok bindings ∧
      (∀ bound ∈ rows,
        (bound.pair .apiId).equals (bound.api .apiId) = true) ∧
      (rows.countP fun bound => sameKey .rateLimitApi pair bound.pair) =
        routes.countP fun route =>
          (api .serviceId).equals (route .routeName) := by
  obtain ⟨pairs, pairsRead, _⟩ := limit.pair_held
  obtain ⟨policies, policiesRead, _⟩ := limit.policy_held
  obtain ⟨apis, apisRead, _⟩ := limit.api_held
  have joined : db.boundLimits =
      .ok (Database.boundLimits pairs policies apis routes) := by
    simp only [Contents.boundLimits, pairsRead, policiesRead, apisRead,
      routesRead]
    rfl
  obtain ⟨bounds, rows, selected, perm, decoded⟩ := perm_of_loadBindings loaded
  obtain rfl := Except.ok.inj (joined.symm.trans selected)
  refine ⟨rows, decoded, fun bound member => ?_, ?_⟩
  · obtain ⟨_, _, ⟨_, ofApi⟩, _⟩ := mem_boundLimits.mp (perm.subset member)
    exact ofApi
  · rw [perm.countP_eq]
    exact limit.countP_boundLimits distinct pairsRead policiesRead apisRead

theorem exists_ids (limit : db.LimitsUrl pair policy api)
    (distinct : db.KeysDistinct) (routesRead : db.rows .route = .ok routes)
    {bindings : List LimitBinding}
    (loaded : db.loadBindings ties = .ok bindings)
    (meets : 0 < routes.countP fun route =>
      (api .serviceId).equals (route .routeName)) :
    ∃ policyId apiId, (pair .policyId).equals (.integer policyId) = true ∧
      (pair .apiId).equals (.integer apiId) = true := by
  obtain ⟨rows, decoded, joined, counted⟩ :=
    limit.exists_rows distinct routesRead loaded
  rw [← counted] at meets
  obtain ⟨bound, member, same⟩ := List.countP_pos_iff.mp meets
  obtain ⟨binding, _, row⟩ := exists_value_of_mem_rows decoded member
  exact ⟨_, _, (sameKey_pair_iff_ids row (joined bound member)).mp same⟩

theorem countP_loadBindings (limit : db.LimitsUrl pair policy api)
    (distinct : db.KeysDistinct) (routesRead : db.rows .route = .ok routes)
    {bindings : List LimitBinding}
    (loaded : db.loadBindings ties = .ok bindings)
    {policyId apiId : Int64}
    (ofPolicy : (pair .policyId).equals (.integer policyId) = true)
    (ofApi : (pair .apiId).equals (.integer apiId) = true) :
    (bindings.countP fun binding =>
        binding.policyId == policyId && binding.apiId == apiId) =
      routes.countP fun route =>
        (api .serviceId).equals (route .routeName) := by
  obtain ⟨rows, decoded, joined, counted⟩ :=
    limit.exists_rows distinct routesRead loaded
  rw [← counted]
  refine countP_of_mapM_eq_ok decoded fun bound member binding row => ?_
  rw [Bool.eq_iff_iff, sameKey_pair_iff_ids row (joined bound member),
    Cell.equals_integer_iff ofPolicy, Cell.equals_integer_iff ofApi,
    Bool.and_eq_true, beq_iff_eq, beq_iff_eq]

end LimitsUrl

end Contents

end Database

open Database

/-- A limit of an api is read exactly as often as the name of its service is
found among the names of the routes, so it is not lost if an active route goes
by that name. -/
theorem url_limit_read_by_route_name {db : Contents}
    (distinct : db.KeysDistinct) {ties : TieOrder}
    {bindings : List LimitBinding}
    (loaded : db.loadBindings ties = .ok bindings)
    {pair : Table.Record .rateLimitApi} {policy : Table.Record .rateLimit}
    {api : Table.Record .api} (limit : db.LimitsUrl pair policy api)
    {routes : List (Table.Record .route)}
    (routesRead : db.rows .route = .ok routes) :
    let named := routes.countP fun route =>
      (api .serviceId).equals (route .routeName)
    ((∃ route ∈ activeRoutes routes,
        (api .serviceId).equals (route .routeName) = true) → 0 < named) ∧
    (0 < named → ∃ policyId apiId,
      (pair .policyId).equals (.integer policyId) = true ∧
      (pair .apiId).equals (.integer apiId) = true) ∧
    ∀ policyId apiId,
      (pair .policyId).equals (.integer policyId) = true →
      (pair .apiId).equals (.integer apiId) = true →
      (bindings.countP fun binding =>
        binding.policyId == policyId && binding.apiId == apiId) = named := by
  intro named
  refine ⟨?_, limit.exists_ids distinct routesRead loaded, fun _ _ =>
    limit.countP_loadBindings distinct routesRead loaded⟩
  rintro ⟨route, active, sameName⟩
  have member : route ∈ routes :=
    (List.mem_filter.mp (List.mem_mergeSort.mp active)).1
  exact List.countP_pos_iff.mpr ⟨route, member, sameName⟩

def Database.svcRoute (number : Int64) (name : String) : Table.Record .route
  | .routeId => .integer number
  | .routeName => .text name
  | .path => .text "/svc/**"
  | .serviceId => .text "svc"
  | .url => .null
  | .stripPrefix | .status => .integer 1
  | .retryable | .persist => .integer 0

/-- An api of the service svc with a limit, and routes by the given numbers and
names. -/
def Database.limitedApiBehind (routes : List (Int64 × String)) : Contents :=
  (limitedApi []).set .route (some (routes.map fun route =>
    { number := route.1, record := svcRoute route.1 route.2 }))

theorem Database.keysDistinct_limitedApiBehind
    {routes : List (Int64 × String)}
    (apart : (routes.map Prod.fst).Pairwise fun number other =>
      (Cell.integer number).equals (.integer other) = false) :
    (limitedApiBehind routes).KeysDistinct := by
  refine (Contents.keysDistinct_empty.applyAll _).set fun rows all => ?_
  obtain rfl := Option.some.inj all
  rw [List.map_map]
  refine List.pairwise_map.mpr ((List.pairwise_map.mp apart).imp ?_)
  intro route other differ
  refine Bool.eq_false_iff.mpr fun same => Bool.eq_false_iff.mp differ ?_
  exact List.all_eq_true.mp same .routeId (.head _)

theorem Database.limitsUrl_limitedApiBehind (routes : List (Int64 × String)) :
    ∃ pair policy api, (limitedApiBehind routes).LimitsUrl pair policy api ∧
      api .serviceId = .text "svc" ∧
      (pair .policyId).equals (.integer 100) = true ∧
      (pair .apiId).equals (.integer 10) = true :=
  ⟨_, _, _,
    ⟨⟨_, rfl, .head _⟩, ⟨_, rfl, .head _⟩, ⟨_, rfl, .head _⟩, rfl, rfl, rfl⟩,
    rfl, rfl, rfl⟩

theorem url_limit_behind_svc_read_once :
    let routes := [(1, "svc"), (2, "front")]
    let db := limitedApiBehind routes
    ∃ bindings pair policy api, db.KeysDistinct ∧
      db.loadBindings .byUrl = .ok bindings ∧
      db.LimitsUrl pair policy api ∧
      db.rows .route = .ok (routes.map fun route => svcRoute route.1 route.2) ∧
      (bindings.countP fun binding =>
        binding.policyId == 100 && binding.apiId == 10) = 1 := by
  intro routes db
  have distinct : db.KeysDistinct := keysDistinct_limitedApiBehind (by decide)
  obtain ⟨pair, policy, api, limit, service, ofPolicy, ofApi⟩ :=
    limitsUrl_limitedApiBehind routes
  have routesRead : db.rows .route =
      .ok (routes.map fun route => svcRoute route.1 route.2) := rfl
  obtain ⟨bindings, loaded⟩ := db.exists_loadBindings .byUrl
    (by decide +kernel)
  have count := (url_limit_read_by_route_name distinct loaded limit
    routesRead).2.2 100 10 ofPolicy ofApi
  refine ⟨bindings, pair, policy, api, distinct, loaded, limit, routesRead, ?_⟩
  rw [count, service]
  decide +kernel

/-- The route of svc is active and goes by another name, and the limit is
lost. -/
theorem url_limit_behind_front_lost :
    let db := limitedApiBehind [(1, "front")]
    db.KeysDistinct ∧ db.loadBindings .byUrl = .ok [] ∧
    ∃ pair policy api routes, db.LimitsUrl pair policy api ∧
      db.rows .route = .ok routes ∧
      ∃ route ∈ activeRoutes routes,
        (api .serviceId).equals (route .serviceId) = true := by
  intro db
  refine ⟨keysDistinct_limitedApiBehind (by decide), by decide +kernel, ?_⟩
  obtain ⟨pair, policy, api, limit, service, _⟩ :=
    limitsUrl_limitedApiBehind [(1, "front")]
  have active : svcRoute 1 "front" ∈ activeRoutes [svcRoute 1 "front"] :=
    List.mem_mergeSort.mpr (List.mem_filter.mpr ⟨.head _, rfl⟩)
  refine ⟨pair, policy, api, _, limit, rfl, _, active, ?_⟩
  rw [service]
  rfl

/-- Two active routes of svc go by its name, and the limit is read twice. -/
theorem url_limit_behind_two_routes_doubled :
    let db := limitedApiBehind [(1, "svc"), (2, "svc")]
    db.KeysDistinct ∧
    ∃ bindings pair policy api routes, db.loadBindings .byUrl = .ok bindings ∧
      db.LimitsUrl pair policy api ∧ db.rows .route = .ok routes ∧
      (∃ route ∈ activeRoutes routes,
        (api .serviceId).equals (route .serviceId) = true) ∧
      (pair .policyId).equals (.integer 100) = true ∧
      (pair .apiId).equals (.integer 10) = true ∧
      (bindings.countP fun binding =>
        binding.policyId == 100 && binding.apiId == 10) = 2 := by
  intro db
  have distinct : db.KeysDistinct := keysDistinct_limitedApiBehind (by decide)
  obtain ⟨pair, policy, api, limit, service, ofPolicy, ofApi⟩ :=
    limitsUrl_limitedApiBehind [(1, "svc"), (2, "svc")]
  have routesRead : db.rows .route =
      .ok [svcRoute 1 "svc", svcRoute 2 "svc"] := rfl
  have active : svcRoute 1 "svc" ∈
      activeRoutes [svcRoute 1 "svc", svcRoute 2 "svc"] :=
    List.mem_mergeSort.mpr (List.mem_filter.mpr ⟨.head _, rfl⟩)
  obtain ⟨bindings, loaded⟩ := db.exists_loadBindings .byUrl
    (by decide +kernel)
  refine ⟨distinct, bindings, pair, policy, api, _, loaded, limit, routesRead,
    ⟨_, active, by rw [service]; rfl⟩, ofPolicy, ofApi, ?_⟩
  rw [limit.countP_loadBindings distinct routesRead loaded ofPolicy ofApi,
    service]
  decide +kernel

end GatewayPolicy
