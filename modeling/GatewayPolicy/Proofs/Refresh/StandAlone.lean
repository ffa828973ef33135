import GatewayPolicy.Proofs.Refresh.History
import GatewayPolicy.Proofs.Refresh.Quiet

/-!
# Refreshes and stand-alone passes

Each category can also be resolved on its own, by a pass that reads the routes
for itself.  On a store that stands still this comes to the same thing as a
refresh: the refresh publishes the values of the four passes and reports of
each category what its pass says, whatever the coordinator has published
before.
-/

set_option autoImplicit false

namespace GatewayPolicy

structure CategoryStatus.Reports {Value : Type} (status : CategoryStatus)
    (pass : Resolution (List Value)) : Prop where
  degraded_iff : status.isDegraded = true ↔ pass.isDegraded = true
  error : ∀ cause, pass.cause? = some cause →
    status = .degraded cause.message
  loaded : pass.isDegraded = false →
    status = .loaded (pass.value []).length (pass.skipped.map Issue.message)

/-! ## One read, resolved by a pass -/

section OneRead

variable {Row Value : Type} (resolve : List Row → List Value)
  (skipped : List Row → List Issue) (read : Except StoreFault (List Row))

theorem Resolution.value_ofRead :
    (Resolution.ofRead read fun rows =>
        .loaded (resolve rows) (skipped rows)).value [] =
      valueOfRead resolve read := by
  cases read <;> rfl

theorem statusOfRead_reports :
    (statusOfRead resolve skipped read).Reports
      (.ofRead read fun rows => .loaded (resolve rows) (skipped rows)) := by
  cases read with
  | ok rows =>
      exact
        { degraded_iff := Iff.rfl
          error := nofun
          loaded := fun _ => rfl }
  | error fault =>
      exact
        { degraded_iff := Iff.rfl
          error := by
            rintro cause ⟨⟩
            rfl
          loaded := nofun }

end OneRead

/-! ## The passes -/

namespace Resolve

variable {reading : Reading} {rules : List RouteRule} {fault : StoreFault}

theorem loadRoutes_of_ok (settings : ResolverSettings)
    (readable : reading .routes = .ok rules) :
    loadRoutes (m := Id) reading settings =
      routes settings rules (PathIndex.ofRules rules) (reading .bindings) := by
  simp only [loadRoutes, readable]
  rfl

theorem loadAuthorities_of_ok (readable : reading .routes = .ok rules) :
    loadAuthorities (m := Id) reading =
      authorities (PathIndex.ofRules rules) (reading .authorities) := by
  simp only [loadAuthorities, readable]
  rfl

theorem loadAddresses_of_ok (kind : ListKind)
    (readable : reading .routes = .ok rules) :
    loadAddresses (m := Id) reading kind =
      addresses (PathIndex.ofRules rules) (reading (.addresses kind)) := by
  simp only [loadAddresses, readable]
  rfl

theorem loadRoutes_of_error (settings : ResolverSettings)
    (unreadable : reading .routes = .error fault) :
    loadRoutes (m := Id) reading settings = .degraded fault.toIssue := by
  simp only [loadRoutes, unreadable]
  rfl

theorem loadAuthorities_of_error
    (unreadable : reading .routes = .error fault) :
    loadAuthorities (m := Id) reading = .degraded fault.toIssue := by
  simp only [loadAuthorities, unreadable]
  rfl

theorem loadAddresses_of_error (kind : ListKind)
    (unreadable : reading .routes = .error fault) :
    loadAddresses (m := Id) reading kind = .degraded fault.toIssue := by
  simp only [loadAddresses, unreadable]
  rfl

end Resolve

/-! ## The refresh -/

/-- A call on an idle coordinator, after any history and with any of the reads
failing, agrees with the stand-alone passes over the same store. -/
theorem refresh_agrees_with_passes {State : Type} (answers : State → Reading)
    (settings : ResolverSettings) (store : State)
    (events : List (RefreshEvent State)) (call : RefreshCall)
    (free : ((RefreshSystem.new settings store).run answers
      events).coordinator.isRefreshing = false) :
    let system := (RefreshSystem.new settings store).run answers events
    let reading := answers system.store
    let routes : Resolution (List ResolvedRoute) :=
      Resolve.loadRoutes (m := Id) reading settings
    let authorities : Resolution AuthorityMap :=
      Resolve.loadAuthorities (m := Id) reading
    let addresses (kind : ListKind) : Resolution (List AddressEntry) :=
      Resolve.loadAddresses (m := Id) reading kind
    let refreshed := Coordinator.complete reading (system.coordinator.call call)
    ((∃ rules, reading .routes = .ok rules) →
      refreshed.1.routes = routes.value [] ∧
      refreshed.1.authorities = authorities.value [] ∧
      (∀ kind, refreshed.1.addresses kind = (addresses kind).value []) ∧
      ∃ report, refreshed.2 = some report ∧
        report.routes.Reports routes ∧
        report.authorities.Reports authorities ∧
        report.blackList.Reports (addresses .black) ∧
        report.whiteList.Reports (addresses .white)) ∧
    ((∃ fault, reading .routes = .error fault) →
      (routes.isDegraded = true ∧ routes.value [] = []) ∧
      (authorities.isDegraded = true ∧ authorities.value [] = []) ∧
      ∀ kind, (addresses kind).isDegraded = true ∧
        (addresses kind).value [] = []) := by
  intro system reading routes authorities addresses refreshed
  obtain ⟨_, follows, _⟩ :=
    RefreshSystem.run_new_follows answers settings store events
  have configured : system.coordinator.settings = settings := follows.configured
  constructor
  · rintro ⟨rules, readable⟩
    have refreshedEq := Coordinator.complete_call free call reading
    rw [FinishedCycle.ofReading_of_ok readable, configured] at refreshedEq
    have routesEq : routes = _ := Resolve.loadRoutes_of_ok settings readable
    have authoritiesEq : authorities = _ :=
      Resolve.loadAuthorities_of_ok readable
    have addressesEq (kind : ListKind) : addresses kind = _ :=
      Resolve.loadAddresses_of_ok kind readable
    have result : refreshed = _ := refreshedEq
    rw [routesEq, Resolve.routes_eq, authoritiesEq, result]
    simp only [addressesEq]
    refine ⟨?_, ?_, ?_, _, rfl, ?_, ?_, ?_, ?_⟩
    · exact (Resolution.value_ofRead _ Routing.skippedBindings _).symm
    · exact (Resolution.value_ofRead _ (fun _ => []) _).symm
    · intro kind
      cases kind <;> exact (Resolution.value_ofRead _ (fun _ => []) _).symm
    · exact statusOfRead_reports _ Routing.skippedBindings _
    · exact statusOfRead_reports _ (fun _ => []) _
    · exact statusOfRead_reports _ (fun _ => []) _
    · exact statusOfRead_reports _ (fun _ => []) _
  · rintro ⟨fault, unreadable⟩
    have routesEq : routes = _ := Resolve.loadRoutes_of_error settings unreadable
    have authoritiesEq : authorities = _ :=
      Resolve.loadAuthorities_of_error unreadable
    have addressesEq (kind : ListKind) : addresses kind = _ :=
      Resolve.loadAddresses_of_error kind unreadable
    rw [routesEq, authoritiesEq]
    simp only [addressesEq]
    exact ⟨⟨rfl, rfl⟩, ⟨rfl, rfl⟩, fun _ => ⟨rfl, rfl⟩⟩

/-- Authorities are published, and then can no longer be read: the next refresh
takes them back and says why. -/
theorem refresh_agrees_with_passes_after_outage :
    let grant : AuthorityGrant :=
      { authorityId := 1, authority := "ROLE", serviceId := "users"
        path := some "/users" }
    let answers : Bool → Reading := fun up category =>
      match category with
      | .routes => .ok []
      | .bindings => .ok []
      | .authorities => if up then .ok [grant] else .error (.unavailable "down")
      | .addresses _ => .ok []
    let events : List (RefreshEvent Bool) :=
      [.call .refresh, .read, .read, .read, .read, .read, .edit fun _ => false]
    let system :=
      (RefreshSystem.new { keyResolver := "path" } true).run answers events
    let refreshed :=
      Coordinator.complete (answers system.store)
        (system.coordinator.call .refresh)
    system.coordinator.isRefreshing = false ∧
    answers system.store .routes = .ok [] ∧
    system.coordinator.authorities = [("/users", ["ROLE"])] ∧
    refreshed.1.authorities = [] ∧
    refreshed.2.map RefreshReport.authorities =
      some (.degraded "store unavailable: store unavailable: down") := by
  intro grant answers events system refreshed
  obtain ⟨_, authorities, _, report, replied, _, status, _⟩ :=
    (refresh_agrees_with_passes answers { keyResolver := "path" } true events
      .refresh rfl).1 ⟨[], rfl⟩
  refine ⟨rfl, rfl, by decide, authorities, ?_⟩
  rw [replied, Option.map_some, status.error _ rfl]
  rfl

end GatewayPolicy
