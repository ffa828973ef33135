import GatewayPolicy.Proofs.Database.Decoding
import GatewayPolicy.Proofs.Refresh.Quiet
import GatewayPolicy.Proofs.Routing.Limited

/-!
# Inactive routes

A route row whose status is not 1 is switched off but kept.  The query of the
routes leaves it out, and the queries of authorities and addresses do not look
at routes at all.  The query of the bindings joins an api with every route that
goes by the name of its service and does not ask for the status, so there an
inactive route still counts: it gives the binding its url, and without it the
binding is gone.  Deleting the inactive rows therefore shows in the routes of a
refresh, and nowhere else, exactly where an inactive route is joined.
-/

set_option autoImplicit false

namespace GatewayPolicy

namespace Database

/-! ## Deleting the inactive rows -/

def isActive (route : Table.Record .route) : Bool :=
  (route .status).equals (.integer 1)

def Contents.withoutInactiveRoutes (db : Contents) : Contents :=
  db.set .route
    ((db.rows? .route).map fun rows =>
      rows.filter fun row => isActive row.record)

def Contents.boundLimits (db : Contents) :
    Except StoreFault (List BoundLimit) := do
  let pairs ← db.rows .rateLimitApi
  let policies ← db.rows .rateLimit
  let apis ← db.rows .api
  let routes ← db.rows .route
  return Database.boundLimits pairs policies apis routes

namespace Contents

variable (db : Contents)

theorem rows_withoutInactiveRoutes :
    db.withoutInactiveRoutes.rows .route =
      (db.rows .route).map (List.filter isActive) := by
  simp only [rows, withoutInactiveRoutes, rows?_set_self]
  cases db.rows? .route with
  | none => rfl
  | some rows =>
      simp only [Option.map_some, Except.map, List.filter_map]
      rfl

theorem rows_withoutInactiveRoutes_of_ne {table : Table}
    (other : table ≠ .route) :
    db.withoutInactiveRoutes.rows table = db.rows table := by
  simp only [rows, withoutInactiveRoutes, rows?_set_of_ne db .route table other]

/-! ## What the queries make of it -/

theorem loadRoutes_withoutInactiveRoutes :
    db.withoutInactiveRoutes.loadRoutes = db.loadRoutes := by
  have selected (routes : List (Table.Record .route)) :
      activeRoutes (routes.filter isActive) = activeRoutes routes := by
    simp only [activeRoutes, isActive, List.filter_filter, Bool.and_self]
  simp only [loadRoutes, rows_withoutInactiveRoutes]
  cases db.rows .route with
  | error fault => rfl
  | ok routes => exact congrArg (List.mapM decodeRoute) (selected routes)

theorem loadGrants_withoutInactiveRoutes :
    db.withoutInactiveRoutes.loadGrants = db.loadGrants := by
  simp (disch := decide) only [loadGrants, rows_withoutInactiveRoutes_of_ne]

theorem loadAddresses_withoutInactiveRoutes (kind : ListKind) :
    db.withoutInactiveRoutes.loadAddresses kind = db.loadAddresses kind := by
  simp (disch := decide) only
    [loadAddresses, rows_withoutInactiveRoutes_of_ne]

end Contents

theorem boundLimits_filter (pairs : List (Table.Record .rateLimitApi))
    (policies : List (Table.Record .rateLimit))
    (apis : List (Table.Record .api)) (routes : List (Table.Record .route))
    (keep : Table.Record .route → Bool) :
    boundLimits pairs policies apis (routes.filter keep) =
      (boundLimits pairs policies apis routes).filter fun bound =>
        keep bound.route := by
  simp only [boundLimits, List.filter_flatMap, List.filter_map,
    List.filter_filter, Function.comp_def, Bool.and_comm]

namespace Contents

variable (db : Contents)

theorem boundLimits_withoutInactiveRoutes :
    db.withoutInactiveRoutes.boundLimits =
      db.boundLimits.map (List.filter fun bound => isActive bound.route) := by
  simp (disch := decide) only [boundLimits, rows_withoutInactiveRoutes,
    rows_withoutInactiveRoutes_of_ne]
  cases db.rows .rateLimitApi with
  | error fault => rfl
  | ok pairs =>
  cases db.rows .rateLimit with
  | error fault => rfl
  | ok policies =>
  cases db.rows .api with
  | error fault => rfl
  | ok apis =>
  cases db.rows .route with
  | error fault => rfl
  | ok routes =>
      exact congrArg Except.ok
        (boundLimits_filter pairs policies apis routes isActive)

variable (ties : TieOrder)

theorem loadBindings_eq :
    db.loadBindings ties =
      db.boundLimits >>= fun bounds =>
        (inOrder
          ((fun bound => bound.pair .policyId) ::
            (fun bound => bound.api .apiId) :: ties)
          bounds).mapM decodeBinding := by
  simp only [loadBindings, boundLimits, bind_assoc, pure_bind]

variable {ties}

/-- Bindings are decoded from the joined rows, in some order. -/
theorem perm_of_loadBindings {db : Contents} {bindings : List LimitBinding}
    (loaded : db.loadBindings ties = .ok bindings) :
    ∃ (bounds rows : List BoundLimit), db.boundLimits = .ok bounds ∧
      rows.Perm bounds ∧ rows.mapM decodeBinding = .ok bindings := by
  rw [loadBindings_eq] at loaded
  obtain ⟨bounds, joined, decoded⟩ := exists_of_bind_eq_ok loaded
  exact ⟨bounds, _, joined, List.mergeSort_perm _ _, decoded⟩

theorem length_of_loadBindings {db : Contents} {bindings : List LimitBinding}
    (loaded : db.loadBindings ties = .ok bindings) :
    ∃ bounds, db.boundLimits = .ok bounds ∧
      bindings.length = bounds.length := by
  obtain ⟨bounds, rows, joined, perm, decoded⟩ := perm_of_loadBindings loaded
  refine ⟨bounds, joined, ?_⟩
  rw [length_eq_of_mapM_eq_ok decoded, perm.length_eq]

/-- No inactive route lends its url to a binding. -/
def bindsActiveRoutes (db : Contents) : Bool :=
  match db.boundLimits with
  | .ok bounds => bounds.all fun bound => isActive bound.route
  | .error _ => true

theorem loadBindings_withoutInactiveRoutes
    (active : db.bindsActiveRoutes = true) :
    db.withoutInactiveRoutes.loadBindings ties = db.loadBindings ties := by
  rw [loadBindings_eq, loadBindings_eq, boundLimits_withoutInactiveRoutes]
  rw [bindsActiveRoutes] at active
  cases joined : db.boundLimits with
  | error fault => rfl
  | ok bounds =>
      rw [joined] at active
      have kept : (bounds.filter fun bound => isActive bound.route) = bounds :=
        List.filter_eq_self.mpr (List.all_eq_true.mp active)
      simp only [Except.map, kept]

/-- Deleting rows that are joined makes the bindings fewer. -/
theorem bindsActiveRoutes_of_length_eq {bindings others : List LimitBinding}
    (loaded : db.loadBindings ties = .ok bindings)
    (deleted : db.withoutInactiveRoutes.loadBindings ties = .ok others)
    (sameLength : others.length = bindings.length) :
    db.bindsActiveRoutes = true := by
  obtain ⟨bounds, joined, length⟩ := length_of_loadBindings loaded
  obtain ⟨rest, joinedRest, lengthRest⟩ := length_of_loadBindings deleted
  rw [boundLimits_withoutInactiveRoutes, joined] at joinedRest
  rw [← Except.ok.inj joinedRest, sameLength, length] at lengthRest
  rw [bindsActiveRoutes, joined]
  exact List.all_eq_true.mpr
    (List.length_filter_eq_length_iff.mp lengthRest.symm)

end Contents

end Database

/-! ## What bindings show in the routes -/

theorem StoreFault.message_inj {fault other : StoreFault}
    (same : fault.message = other.message) : fault = other := by
  have differ (reason reason' : String) :
      "store unavailable: " ++ reason ≠ "row mapping error: " ++ reason' := by
    intro same
    have texts := congrArg String.toList same
    simp [String.toList_append] at texts
  cases fault with
  | unavailable reason =>
      cases other with
      | unavailable reason' =>
          exact congrArg unavailable ((String.append_right_inj _).mp same)
      | mapping reason' => exact absurd same (differ reason reason')
  | mapping reason =>
      cases other with
      | unavailable reason' => exact absurd same.symm (differ reason' reason)
      | mapping reason' =>
          exact congrArg mapping ((String.append_right_inj _).mp same)

/-- Routes and their status tell how many bindings were read, or why none
could be. -/
theorem CycleReads.length_eq_of_alike (reads : CycleReads)
    (settings : ResolverSettings)
    {bindings others : Except StoreFault (List LimitBinding)}
    (routes : valueOfRead (reads.resolveRoutes settings) others =
      valueOfRead (reads.resolveRoutes settings) bindings)
    (status :
      statusOfRead (reads.resolveRoutes settings) Routing.skippedBindings
          others =
        statusOfRead (reads.resolveRoutes settings) Routing.skippedBindings
          bindings) :
    others.map List.length = bindings.map List.length := by
  cases others with
  | error otherFault =>
      cases bindings with
      | error fault =>
          have message := CategoryStatus.degraded.inj status
          rw [StoreFault.message_inj ((String.append_right_inj _).mp message)]
      | ok rows => cases status
  | ok otherRows =>
      cases bindings with
      | error fault => cases status
      | ok rows =>
          have limited := congrArg
            (List.countP fun route => route.limit.isSome) routes
          have skipped := congrArg List.length
            (CategoryStatus.loaded.inj status).2
          simp only [valueOfRead, resolveRoutes,
            Routing.countP_limit_routes] at limited
          rw [List.length_map, List.length_map] at skipped
          have all := Routing.length_limitedRoutes_add_skippedBindings
            reads.index settings
          simp only [Except.map, ← all otherRows, ← all rows, limited, skipped]

/-! ## What the inactive rows show in a refresh -/

namespace Database.Contents

variable (ties : TieOrder)

def cycleReads (db : Contents) (rules : List RouteRule) : CycleReads :=
  { rules := rules
    bindings := db.loadBindings ties
    grants := db.loadGrants
    blackList := db.loadAddresses .black
    whiteList := db.loadAddresses .white }

theorem cycleReads_withoutInactiveRoutes (db : Contents)
    (rules : List RouteRule) :
    db.withoutInactiveRoutes.cycleReads ties rules =
      { db.cycleReads ties rules with
        bindings := db.withoutInactiveRoutes.loadBindings ties } := by
  simp only [cycleReads, loadGrants_withoutInactiveRoutes,
    loadAddresses_withoutInactiveRoutes]

theorem ofReading_eq (db : Contents) :
    FinishedCycle.ofReading (db.reading ties) =
      match db.loadRoutes with
      | .ok rules => .completed (db.cycleReads ties rules)
      | .error fault => .abandoned fault := rfl

/-- Deleting rows can only take bindings away, and each of them counts among
the limited routes or the skipped rows. -/
theorem bindings_alike_iff (db : Contents) (rules : List RouteRule)
    (settings : ResolverSettings) :
    let resolve := (db.cycleReads ties rules).resolveRoutes settings
    let kept := db.loadBindings ties
    let deleted := db.withoutInactiveRoutes.loadBindings ties
    (valueOfRead resolve deleted = valueOfRead resolve kept ∧
      statusOfRead resolve Routing.skippedBindings deleted =
        statusOfRead resolve Routing.skippedBindings kept) ↔
    (∃ fault, kept = .error fault ∧ deleted = .error fault) ∨
    db.bindsActiveRoutes = true := by
  intro resolve kept deleted
  constructor
  · rintro ⟨routes, status⟩
    have length : deleted.map List.length = kept.map List.length :=
      (db.cycleReads ties rules).length_eq_of_alike settings routes status
    cases loaded : kept with
    | error fault =>
        rw [loaded] at length
        cases rest : deleted with
        | error other =>
            rw [rest] at length
            exact Or.inl ⟨fault, rfl, congrArg _ (Except.error.inj length)⟩
        | ok others => rw [rest] at length; cases length
    | ok bindings =>
        rw [loaded] at length
        cases rest : deleted with
        | error other => rw [rest] at length; cases length
        | ok others =>
            rw [rest] at length
            exact Or.inr (db.bindsActiveRoutes_of_length_eq loaded rest
              (Except.ok.inj length))
  · intro unshown
    have same : deleted = kept := by
      rcases unshown with ⟨fault, loaded, rest⟩ | active
      · exact rest.trans loaded.symm
      · exact db.loadBindings_withoutInactiveRoutes active
    rw [same]
    exact ⟨rfl, rfl⟩

end Database.Contents

/-- Deleting the inactive rows changes nothing but routes and their status in
what a call publishes and reports.  These stay as they are too exactly if the
routes cannot be read, the bindings cannot be read for one and the same
reason, or no inactive route is joined with a binding. -/
theorem inactive_routes_leave_no_trace_iff {coordinator : Coordinator}
    (free : coordinator.isRefreshing = false) (call : RefreshCall)
    (ties : Database.TieOrder) (db : Database.Contents) :
    let refreshed (db : Database.Contents) :=
      Coordinator.complete (db.reading ties) (coordinator.call call)
    let kept := refreshed db
    let deleted := refreshed db.withoutInactiveRoutes
    (∃ routes status,
      deleted =
        (kept.1.publish { kept.1.snapshot with routes := routes },
          kept.2.map fun report => { report with routes := status })) ∧
    (deleted.1.routes = kept.1.routes ∧
        deleted.2.map RefreshReport.routes = kept.2.map RefreshReport.routes ↔
      (∃ fault, db.loadRoutes = .error fault) ∨
      (∃ fault, db.loadBindings ties = .error fault ∧
        db.withoutInactiveRoutes.loadBindings ties = .error fault) ∨
      db.bindsActiveRoutes = true) := by
  intro refreshed kept deleted
  have keptEq : kept = _ :=
    Coordinator.complete_call free call (db.reading ties)
  have deletedEq : deleted = _ :=
    Coordinator.complete_call free call (db.withoutInactiveRoutes.reading ties)
  rw [Database.Contents.ofReading_eq] at keptEq
  rw [Database.Contents.ofReading_eq,
    db.loadRoutes_withoutInactiveRoutes] at deletedEq
  cases routes : db.loadRoutes with
  | error fault =>
      rw [routes] at keptEq deletedEq
      have same : deleted = kept := deletedEq.trans keptEq.symm
      rw [same, keptEq]
      exact ⟨⟨_, _, rfl⟩, fun _ => Or.inl ⟨fault, rfl⟩, fun _ => ⟨rfl, rfl⟩⟩
  | ok rules =>
      rw [routes] at keptEq deletedEq
      dsimp only at keptEq deletedEq
      rw [db.cycleReads_withoutInactiveRoutes ties] at deletedEq
      rw [keptEq, deletedEq]
      refine ⟨⟨_, _, rfl⟩, ?_⟩
      rw [or_iff_right (nofun)]
      exact (and_congr_right' Option.some_inj).trans
        (db.bindings_alike_iff ties rules coordinator.settings)

/-- A database with one api of the service svc, bound to one policy, and one
route for each given name and status. -/
def Database.limitedApi (routes : List (String × Int64)) : Database.Contents :=
  let inserts : List Database.Change :=
    [.insert "base_api"
        [("api_id", .integer 10), ("api_code", .text "users"),
          ("api_name", .text "users"), ("service_id", .text "svc"),
          ("path", .text "/users")],
      .insert "gateway_rate_limit"
        [("policy_id", .integer 100), ("policy_name", .text "p"),
          ("limit_quota", .integer 60), ("interval_unit", .text "seconds")],
      .insert "gateway_rate_limit_api"
        [("policy_id", .integer 100), ("api_id", .integer 10)]]
  let route (entry : String × Int64) : Database.Change :=
    .insert "gateway_route"
      [("route_name", .text entry.1), ("path", .text ("/" ++ entry.1 ++ "/**")),
        ("service_id", .text entry.1), ("url", .text "http://10.0.0.1"),
        ("status", .integer entry.2)]
  (Database.Contents.empty.applyAll (inserts ++ routes.map route)).2

theorem inactive_route_of_other_service_leaves_no_trace :
    let coordinator := Coordinator.new { keyResolver := "path" }
    let refreshed (db : Database.Contents) :=
      Coordinator.complete (db.reading .byUrl) (coordinator.call .refresh)
    let db := Database.limitedApi [("svc", 1), ("old", 0)]
    coordinator.isRefreshing = false ∧
    (refreshed db.withoutInactiveRoutes).1.routes = (refreshed db).1.routes ∧
    (refreshed db.withoutInactiveRoutes).2.map RefreshReport.routes =
      (refreshed db).2.map RefreshReport.routes := by
  intro coordinator refreshed db
  have active : db.bindsActiveRoutes = true := by decide +kernel
  exact ⟨rfl,
    (@inactive_routes_leave_no_trace_iff coordinator rfl .refresh .byUrl
      db).2.mpr (Or.inr (Or.inr active))⟩

/-- The only route of svc is inactive, and requests for its api are still sent
to the url of that route. -/
theorem inactive_route_lends_its_url :
    let coordinator := Coordinator.new { keyResolver := "path" }
    let refreshed (db : Database.Contents) :=
      (Coordinator.complete (db.reading .byUrl)
        (coordinator.call .refresh)).1
    let db := Database.limitedApi [("svc", 0)]
    db.loadRoutes.toOption = some [] ∧
    (refreshed db).routes.map ResolvedRoute.target =
      [.url "http://10.0.0.1"] ∧
    (refreshed db.withoutInactiveRoutes).routes = [] := by
  decide +kernel

end GatewayPolicy
