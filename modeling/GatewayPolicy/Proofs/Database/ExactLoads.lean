import GatewayPolicy.Proofs.Database.Joins

/-!
# Exact loads

The queries of routes, authorities and address lists each select rows of one
table.  A route stands for itself; an authority refers to its api by a key, and
a pair to its policy and its api, so each selected row is joined to one row only
and its load is exact.  A policy is of one kind, so no pair is on both lists.
-/

set_option autoImplicit false

namespace GatewayPolicy.Database

/-! ## Selected rows -/

namespace Contents

def records (db : Contents) (table : Table) : List table.Record :=
  ((db.rows? table).getD []).map NumberedRow.record

def selectedRoutes (db : Contents) : List (Table.Record .route) :=
  (db.records .route).filter fun route => (route .status).equals (.integer 1)

def selectedAuthorities (db : Contents) : List (Table.Record .authority) :=
  (db.records .authority).filter fun authority =>
    ((db.records .api).any fun api =>
      (authority .apiId).equals (api .apiId)) &&
      (authority .status).equals (.integer 1)

def selectedPairs (db : Contents) (kind : ListKind) :
    List (Table.Record .addressApi) :=
  (db.records .addressApi).filter fun pair =>
    ((db.records .address).any fun policy =>
      (pair .policyId).equals (policy .policyId) &&
        (policy .policyType).equals (.integer kind.policyType)) &&
      (db.records .api).any fun api => (pair .apiId).equals (api .apiId)

structure Guards (db : Contents) (authority : Table.Record .authority)
    (api : Table.Record .api) : Prop where
  api_held : api ∈ db.records .api
  api_of_authority : (authority .apiId).equals (api .apiId) = true

/-- The pair puts the api under the policy, which is one of that kind. -/
structure Lists (db : Contents) (kind : ListKind)
    (pair : Table.Record .addressApi) (policy : Table.Record .address)
    (api : Table.Record .api) : Prop where
  policy_held : policy ∈ db.records .address
  policy_of_pair : (pair .policyId).equals (policy .policyId) = true
  of_kind : (policy .policyType).equals (.integer kind.policyType) = true
  api_held : api ∈ db.records .api
  api_of_pair : (pair .apiId).equals (api .apiId) = true

def FitsGrant (db : Contents) (authority : Table.Record .authority) : Prop :=
  ∃ api, db.Guards authority api ∧ fits authorityFields authority = true ∧
    fits grantedApiFields api = true

def GivesGrant (db : Contents) (authority : Table.Record .authority)
    (grant : AuthorityGrant) : Prop :=
  ∃ api, db.Guards authority api ∧ ReadsAsGrant authority api grant

def FitsEntry (db : Contents) (kind : ListKind)
    (pair : Table.Record .addressApi) : Prop :=
  ∃ policy api, db.Lists kind pair policy api ∧
    fits addressFields policy = true ∧ fits listedApiFields api = true

def GivesEntry (db : Contents) (kind : ListKind)
    (pair : Table.Record .addressApi) (entry : AddressEntry) : Prop :=
  ∃ policy api, db.Lists kind pair policy api ∧
    ReadsAsEntry kind policy api entry

variable {db : Contents} {kind : ListKind}

theorem mem_selectedAuthorities {authority : Table.Record .authority} :
    authority ∈ db.selectedAuthorities ↔
      authority ∈ db.records .authority ∧
      (∃ api, db.Guards authority api) ∧
      (authority .status).equals (.integer 1) = true := by
  rw [selectedAuthorities, List.mem_filter, Bool.and_eq_true, List.any_eq_true]
  refine and_congr_right fun _ => and_congr_left fun _ => ?_
  exact exists_congr fun api => ⟨fun ⟨held, same⟩ => ⟨held, same⟩,
    fun guards => ⟨guards.api_held, guards.api_of_authority⟩⟩

theorem mem_selectedPairs {pair : Table.Record .addressApi} :
    pair ∈ db.selectedPairs kind ↔
      pair ∈ db.records .addressApi ∧
      ∃ policy api, db.Lists kind pair policy api := by
  rw [selectedPairs, List.mem_filter, Bool.and_eq_true, List.any_eq_true,
    List.any_eq_true]
  refine and_congr_right fun _ => ⟨?_, ?_⟩
  · rintro ⟨⟨policy, policyHeld, picked⟩, api, apiHeld, ofApi⟩
    obtain ⟨ofPolicy, ofKind⟩ := Bool.and_eq_true_iff.mp picked
    exact ⟨policy, api, policyHeld, ofPolicy, ofKind, apiHeld, ofApi⟩
  · rintro ⟨policy, api, lists⟩
    exact ⟨⟨policy, lists.policy_held,
      Bool.and_eq_true_iff.mpr ⟨lists.policy_of_pair, lists.of_kind⟩⟩,
      api, lists.api_held, lists.api_of_pair⟩

theorem rows_eq_ok_records (complete : db.isComplete = true) (table : Table) :
    db.rows table = .ok (db.records table) := by
  have known : table ∈ Table.all := by cases table <;> decide
  have present := List.all_eq_true.mp complete table known
  obtain ⟨numbered, held⟩ := Option.isSome_iff_exists.mp present
  rw [Contents.rows, records, held]
  rfl

theorem KeysDistinct.records (distinct : db.KeysDistinct)
    (complete : db.isComplete = true) (table : Table) :
    DistinctKeys (db.records table) :=
  distinct table _ (rows_eq_ok_records complete table)

/-! ## Routes -/

theorem loadsExactly_loadRoutes (complete : db.isComplete = true)
    (distinct : db.KeysDistinct) :
    LoadsExactly db.selectedRoutes (fun route => fits ruleFields route = true)
      ReadsAsRule (fun rule other => rule.routeId < other.routeId)
      db.loadRoutes := by
  have load : db.loadRoutes =
      (inOrder [(· .routeId)]
        (db.selectedRoutes.flatMap fun route => [route])).mapM decodeRoute := by
    rw [loadRoutes, rows_eq_ok_records complete, List.flatMap_singleton']
    rfl
  rw [load]
  refine loadsExactly_of_joined_once (fun rule => [rule.routeId])
    (fun route _ => ⟨route, rfl⟩) ?_ ?_ ?_ ?_ failsByMapping_decodeRoute ?_
  · intro route
    rw [← exists_readsAsRule_iff]
    simp only [List.mem_singleton, exists_eq_left, decodeRoute_eq_ok_iff]
  · intro route joined inside rule decoded
    rw [← List.mem_singleton.mp inside]
    exact decodeRoute_eq_ok_iff.mp decoded
  · refine ((distinct.records complete .route).filter _).imp ?_
    intro route other differ a ofRoute b ofOther
    rw [List.mem_singleton.mp ofRoute, List.mem_singleton.mp ofOther]
    exact differ
  · intro route rule decoded
    have reads := decodeRoute_eq_ok_iff.mp decoded
    exact congrArg (fun cell => [cell]) reads.routeId
  · intro rule other less
    simpa [List.cons_lt_cons_iff] using less

/-! ## Authorities -/

def joinAuthority (db : Contents) (authority : Table.Record .authority) :
    List (Table.Record .authority × Table.Record .api) :=
  ((db.records .api).filter fun api =>
    (authority .apiId).equals (api .apiId)).map fun api =>
  (authority, api)

theorem mem_joinAuthority {authority : Table.Record .authority}
    {row : Table.Record .authority × Table.Record .api} :
    row ∈ db.joinAuthority authority ↔
      row.1 = authority ∧ db.Guards authority row.2 := by
  simp only [joinAuthority, List.mem_map, List.mem_filter]
  constructor
  · rintro ⟨api, ⟨held, same⟩, rfl⟩
    exact ⟨rfl, held, same⟩
  · rintro ⟨rfl, held, same⟩
    exact ⟨row.2, ⟨held, same⟩, rfl⟩

/-- Keys leave one api to each authority. -/
theorem Guards.joinAuthority_eq {authority : Table.Record .authority}
    {api : Table.Record .api} (guards : db.Guards authority api)
    (apis : DistinctKeys (db.records .api)) :
    db.joinAuthority authority = [(authority, api)] := by
  have one := apis.filter_eq_singleton_of_refers rfl guards.api_held
    guards.api_of_authority fun _ same => same
  rw [joinAuthority, one, List.map_singleton]

theorem fitsGrant_iff {authority : Table.Record .authority} :
    db.FitsGrant authority ↔
      ∃ row ∈ db.joinAuthority authority, ∃ grant,
        decodeGrant row = .ok grant := by
  simp only [FitsGrant, decodeGrant_eq_ok_iff, exists_readsAsGrant_iff]
  constructor
  · rintro ⟨api, guards, fit⟩
    exact ⟨(authority, api), mem_joinAuthority.mpr ⟨rfl, guards⟩, fit⟩
  · rintro ⟨row, joined, fit⟩
    obtain ⟨rfl, guards⟩ := mem_joinAuthority.mp joined
    exact ⟨row.2, guards, fit⟩

theorem givesGrant_of_mem {authority : Table.Record .authority}
    {row : Table.Record .authority × Table.Record .api}
    (joined : row ∈ db.joinAuthority authority) {grant : AuthorityGrant}
    (decoded : decodeGrant row = .ok grant) : db.GivesGrant authority grant := by
  obtain ⟨rfl, guards⟩ := mem_joinAuthority.mp joined
  exact ⟨row.2, guards, decodeGrant_eq_ok_iff.mp decoded⟩

theorem loadGrants_eq (complete : db.isComplete = true) :
    db.loadGrants =
      (inOrder [fun row => row.1 .authorityId]
        (db.selectedAuthorities.flatMap db.joinAuthority)).mapM
          decodeGrant := by
  have taken : ∀ authority ∈ (db.records .authority).filter fun authority =>
        (authority .status).equals (.integer 1),
      ∀ row ∈ db.joinAuthority authority, ((db.records .api).any fun api =>
        (authority .apiId).equals (api .apiId)) = true := by
    intro authority _ row inside
    obtain ⟨_, guards⟩ := mem_joinAuthority.mp inside
    exact List.any_eq_true.mpr ⟨_, guards.api_held, guards.api_of_authority⟩
  have joined := flatMap_filter_of_joined taken
  rw [List.filter_filter] at joined
  rw [selectedAuthorities, joined, loadGrants, rows_eq_ok_records complete,
    rows_eq_ok_records complete]
  rfl

theorem loadsExactly_loadGrants (complete : db.isComplete = true)
    (distinct : db.KeysDistinct) :
    LoadsExactly db.selectedAuthorities db.FitsGrant db.GivesGrant
      (fun grant other => grant.authorityId < other.authorityId)
      db.loadGrants := by
  have apis := distinct.records complete .api
  rw [loadGrants_eq complete]
  refine loadsExactly_of_joined_once (fun grant => [grant.authorityId]) ?_
    (fun _ => fitsGrant_iff)
    (fun _ _ joined _ decoded => givesGrant_of_mem joined decoded) ?_ ?_
    failsByMapping_decodeGrant ?_
  · intro authority member
    obtain ⟨_, ⟨api, guards⟩, _⟩ := mem_selectedAuthorities.mp member
    exact ⟨_, guards.joinAuthority_eq apis⟩
  · refine ((distinct.records complete .authority).filter _).imp ?_
    intro authority other differ a ofAuthority b ofOther
    obtain ⟨rfl, _⟩ := mem_joinAuthority.mp ofAuthority
    obtain ⟨rfl, _⟩ := mem_joinAuthority.mp ofOther
    exact differ
  · intro row grant decoded
    have reads := decodeGrant_eq_ok_iff.mp decoded
    exact congrArg (fun cell => [cell]) reads.authorityId
  · intro grant other less
    simpa [List.cons_lt_cons_iff] using less

/-! ## Address lists -/

def joinPair (db : Contents) (kind : ListKind)
    (pair : Table.Record .addressApi) :
    List (Table.Record .address × Table.Record .api) :=
  ((db.records .address).filter fun policy =>
    (pair .policyId).equals (policy .policyId) &&
      (policy .policyType).equals (.integer kind.policyType)).flatMap
        fun policy =>
  ((db.records .api).filter fun api =>
    (pair .apiId).equals (api .apiId)).map fun api =>
  (policy, api)

theorem mem_joinPair {pair : Table.Record .addressApi}
    {row : Table.Record .address × Table.Record .api} :
    row ∈ db.joinPair kind pair ↔ db.Lists kind pair row.1 row.2 := by
  simp only [joinPair, List.mem_flatMap, List.mem_map, List.mem_filter,
    Bool.and_eq_true]
  constructor
  · rintro ⟨policy, ⟨policyHeld, ofPolicy, ofKind⟩, api, ⟨held, ofApi⟩, rfl⟩
    exact ⟨policyHeld, ofPolicy, ofKind, held, ofApi⟩
  · rintro ⟨policyHeld, ofPolicy, ofKind, held, ofApi⟩
    exact ⟨row.1, ⟨policyHeld, ofPolicy, ofKind⟩, row.2, ⟨held, ofApi⟩, rfl⟩

theorem Lists.joinPair_eq {pair : Table.Record .addressApi}
    {policy : Table.Record .address} {api : Table.Record .api}
    (lists : db.Lists kind pair policy api)
    (policies : DistinctKeys (db.records .address))
    (apis : DistinctKeys (db.records .api)) :
    db.joinPair kind pair = [(policy, api)] := by
  have onePolicy : ((db.records .address).filter fun policy =>
      (pair .policyId).equals (policy .policyId) &&
        (policy .policyType).equals (.integer kind.policyType)) = [policy] :=
    policies.filter_eq_singleton_of_refers rfl lists.policy_held
      (Bool.and_eq_true_iff.mpr ⟨lists.policy_of_pair, lists.of_kind⟩)
      fun _ picked => (Bool.and_eq_true_iff.mp picked).1
  have oneApi := apis.filter_eq_singleton_of_refers rfl lists.api_held
    lists.api_of_pair fun _ same => same
  rw [joinPair, onePolicy, List.flatMap_singleton, oneApi, List.map_singleton]

theorem fitsEntry_iff {pair : Table.Record .addressApi} :
    db.FitsEntry kind pair ↔
      ∃ row ∈ db.joinPair kind pair, ∃ entry,
        decodeAddresses kind row = .ok entry := by
  simp only [FitsEntry, decodeAddresses_eq_ok_iff, exists_readsAsEntry_iff]
  constructor
  · rintro ⟨policy, api, lists, fit⟩
    exact ⟨(policy, api), mem_joinPair.mpr lists, fit⟩
  · rintro ⟨row, joined, fit⟩
    exact ⟨row.1, row.2, mem_joinPair.mp joined, fit⟩

theorem givesEntry_of_mem {pair : Table.Record .addressApi}
    {row : Table.Record .address × Table.Record .api}
    (joined : row ∈ db.joinPair kind pair) {entry : AddressEntry}
    (decoded : decodeAddresses kind row = .ok entry) :
    db.GivesEntry kind pair entry :=
  ⟨row.1, row.2, mem_joinPair.mp joined, decodeAddresses_eq_ok_iff.mp decoded⟩

theorem loadAddresses_eq (complete : db.isComplete = true) (kind : ListKind) :
    db.loadAddresses kind =
      (inOrder [fun row => row.1 .policyId, fun row => row.2 .apiId]
        ((db.selectedPairs kind).flatMap (db.joinPair kind))).mapM
          (decodeAddresses kind) := by
  have joined : (db.selectedPairs kind).flatMap (db.joinPair kind) =
      (db.records .addressApi).flatMap (db.joinPair kind) := by
    refine flatMap_filter_of_joined fun pair member row inside => ?_
    have selected := mem_selectedPairs.mpr
      ⟨member, row.1, row.2, mem_joinPair.mp inside⟩
    exact (List.mem_filter.mp selected).2
  rw [joined, loadAddresses, rows_eq_ok_records complete,
    rows_eq_ok_records complete, rows_eq_ok_records complete]
  rfl

theorem loadsExactly_loadAddresses (complete : db.isComplete = true)
    (distinct : db.KeysDistinct) (kind : ListKind) :
    LoadsExactly (db.selectedPairs kind) (db.FitsEntry kind)
      (db.GivesEntry kind)
      (fun entry other => entry.policyId < other.policyId ∨
        entry.policyId = other.policyId ∧ entry.apiId < other.apiId)
      (db.loadAddresses kind) := by
  have policies := distinct.records complete .address
  have apis := distinct.records complete .api
  rw [loadAddresses_eq complete]
  refine loadsExactly_of_joined_once
    (fun entry => [entry.policyId, entry.apiId]) ?_ (fun _ => fitsEntry_iff)
    (fun _ _ joined _ decoded => givesEntry_of_mem joined decoded) ?_ ?_
    (failsByMapping_decodeAddresses kind) ?_
  · intro pair member
    obtain ⟨_, policy, api, lists⟩ := mem_selectedPairs.mp member
    exact ⟨_, lists.joinPair_eq policies apis⟩
  · refine ((distinct.records complete .addressApi).filter _).imp ?_
    intro pair other differ a ofPair b ofOther
    have first := mem_joinPair.mp ofPair
    have next := mem_joinPair.mp ofOther
    refine Bool.eq_false_iff.mpr fun equal => Bool.eq_false_iff.mp differ ?_
    obtain ⟨samePolicy, sameApi⟩ :
        (a.1 .policyId).equals (b.1 .policyId) = true ∧
          (a.2 .apiId).equals (b.2 .apiId) = true := by
      simpa [equalKeys] using equal
    have ofPolicies := Cell.equals_trans first.policy_of_pair
      (Cell.equals_trans samePolicy (Cell.equals_symm next.policy_of_pair))
    have ofApis := Cell.equals_trans first.api_of_pair
      (Cell.equals_trans sameApi (Cell.equals_symm next.api_of_pair))
    simp [sameKey, Table.key, ofPolicies, ofApis]
  · intro row entry decoded
    have reads := decodeAddresses_eq_ok_iff.mp decoded
    simp [HasKeys, reads.policyId, reads.apiId]
  · intro entry other less
    simpa [List.cons_lt_cons_iff] using less

/-! ## The two lists -/

/-- A policy is of one kind, by whatever reference it is reached. -/
theorem Lists.kind_unique {other : ListKind}
    {pair otherPair : Table.Record .addressApi}
    {policy otherPolicy : Table.Record .address}
    {api otherApi : Table.Record .api} (lists : db.Lists kind pair policy api)
    (also : db.Lists other otherPair otherPolicy otherApi)
    (policies : DistinctKeys (db.records .address)) {cell : Cell}
    (refers : cell.equals (policy .policyId) = true)
    (refersAlso : cell.equals (otherPolicy .policyId) = true) :
    other = kind := by
  obtain rfl := policies.eq_of_refers rfl lists.policy_held also.policy_held
    refers refersAlso
  have same := (Cell.equals_integer_iff lists.of_kind).mp also.of_kind
  cases kind <;> cases other <;> first | rfl | cases same

theorem not_mem_selectedPairs {other : ListKind} (differ : other ≠ kind)
    (policies : DistinctKeys (db.records .address))
    {pair : Table.Record .addressApi} (selected : pair ∈ db.selectedPairs kind) :
    pair ∉ db.selectedPairs other := by
  intro again
  obtain ⟨_, policy, api, lists⟩ := mem_selectedPairs.mp selected
  obtain ⟨_, otherPolicy, otherApi, also⟩ := mem_selectedPairs.mp again
  exact differ (lists.kind_unique also policies lists.policy_of_pair
    also.policy_of_pair)

theorem exists_lists_of_mem (complete : db.isComplete = true)
    {entries : List AddressEntry} (loaded : db.loadAddresses kind = .ok entries)
    {entry : AddressEntry} (member : entry ∈ entries) :
    ∃ pair, db.GivesEntry kind pair entry := by
  rw [loadAddresses_eq complete] at loaded
  obtain ⟨row, inside, decoded⟩ := exists_row_of_mem_values loaded member
  obtain ⟨pair, _, joined⟩ :=
    List.mem_flatMap.mp (List.mem_mergeSort.mp inside)
  exact ⟨pair, givesEntry_of_mem joined decoded⟩

theorem policyId_ne_of_mem (complete : db.isComplete = true)
    (distinct : db.KeysDistinct) {other : ListKind} (differ : other ≠ kind)
    {entries otherEntries : List AddressEntry}
    (loaded : db.loadAddresses kind = .ok entries)
    (otherLoaded : db.loadAddresses other = .ok otherEntries)
    {entry otherEntry : AddressEntry} (member : entry ∈ entries)
    (otherMember : otherEntry ∈ otherEntries) :
    entry.policyId ≠ otherEntry.policyId := by
  intro same
  obtain ⟨_, policy, _, lists, reads⟩ :=
    exists_lists_of_mem complete loaded member
  obtain ⟨_, otherPolicy, _, also, readsAlso⟩ :=
    exists_lists_of_mem complete otherLoaded otherMember
  have refers : (policy .policyId).equals (otherPolicy .policyId) = true := by
    rw [reads.policyId, readsAlso.policyId, same]
    simp [Cell.equals, Cell.compare_integer]
  have self := Cell.equals_trans refers (Cell.equals_symm refers)
  exact differ (lists.kind_unique also (distinct.records complete .address)
    self refers)

end Contents

/-- The routes, the authorities and the address lists that are loaded are
exactly what the tables say, or a fault of mapping; and no pair is on both
lists. -/
theorem loads_are_exact {db : Contents} (complete : db.isComplete = true)
    (distinct : db.KeysDistinct) :
    LoadsExactly db.selectedRoutes (fun route => fits ruleFields route = true)
      ReadsAsRule (fun rule other => rule.routeId < other.routeId)
      db.loadRoutes ∧
    LoadsExactly db.selectedAuthorities db.FitsGrant db.GivesGrant
      (fun grant other => grant.authorityId < other.authorityId)
      db.loadGrants ∧
    (∀ kind, LoadsExactly (db.selectedPairs kind) (db.FitsEntry kind)
      (db.GivesEntry kind)
      (fun entry other => entry.policyId < other.policyId ∨
        entry.policyId = other.policyId ∧ entry.apiId < other.apiId)
      (db.loadAddresses kind)) ∧
    (∀ pair ∈ db.selectedPairs .black, pair ∉ db.selectedPairs .white) ∧
    ∀ black white, db.loadAddresses .black = .ok black →
      db.loadAddresses .white = .ok white →
      ∀ entry ∈ black, ∀ other ∈ white,
        ¬(entry.policyId = other.policyId ∧ entry.apiId = other.apiId) := by
  refine ⟨Contents.loadsExactly_loadRoutes complete distinct,
    Contents.loadsExactly_loadGrants complete distinct,
    Contents.loadsExactly_loadAddresses complete distinct, ?_, ?_⟩
  · intro pair selected
    exact Contents.not_mem_selectedPairs (by decide)
      (distinct.records complete .address) selected
  · rintro black white blackLoaded whiteLoaded entry member other otherMember
      ⟨samePolicy, _⟩
    exact Contents.policyId_ne_of_mem complete distinct (by decide) blackLoaded
      whiteLoaded member otherMember samePolicy

/-- Two routes, the second before the first, and an api on the black list by a
policy whose addresses are bytes. -/
def bytesForAddresses : Contents :=
  (Contents.empty.applyAll
    [.insert "gateway_route"
      [("route_id", .integer 2), ("route_name", .text "b"),
        ("path", .text "/b/**"), ("service_id", .text " ")],
    .insert "gateway_route"
      [("route_id", .integer 1), ("route_name", .text "a"),
        ("path", .text "/a/**"), ("service_id", .text "svc")],
    .insert "base_api"
      [("api_id", .integer 10), ("api_code", .text "users"),
        ("api_name", .text "users"), ("service_id", .text "svc")],
    .insert "gateway_ip_limit"
      [("policy_id", .integer 5), ("policy_name", .text "p"),
        ("policy_type", .integer 0), ("ip_address", .blob [10])],
    .insert "gateway_ip_limit_api"
      [("policy_id", .integer 5), ("api_id", .integer 10)]]).2

theorem loads_of_bytesForAddresses :
    let db := bytesForAddresses
    db.isComplete = true ∧ db.KeysDistinct ∧
    (∃ rules, db.loadRoutes = .ok rules ∧ rules.length = 2 ∧
      rules.Pairwise fun rule other => rule.routeId < other.routeId) ∧
    ∃ reason, db.loadAddresses .black = .error (.mapping reason) := by
  intro db
  have distinct : db.KeysDistinct := Contents.keysDistinct_empty.applyAll _
  obtain ⟨complete, fit, two, one, misfits⟩ : db.isComplete = true ∧
      (∀ route ∈ db.selectedRoutes, fits ruleFields route = true) ∧
      db.selectedRoutes.length = 2 ∧ 0 < (db.selectedPairs .black).length ∧
      ∀ policy ∈ db.records .address, fits addressFields policy = false := by
    decide +kernel
  obtain ⟨routes, _, lists, _⟩ := loads_are_exact complete distinct
  obtain ⟨rules, each, loaded, perm, reads, ascending⟩ := routes.one_each fit
  obtain ⟨pair, selected⟩ := List.exists_mem_of_length_pos one
  refine ⟨complete, distinct, ⟨rules, loaded, ?_, ascending⟩,
    (lists .black).no_part ⟨pair, selected, ?_⟩⟩
  · rw [perm.length_eq, ← reads.length_eq, two]
  · rintro ⟨policy, _, lists, fit, _⟩
    rw [misfits policy lists.policy_held] at fit
    cases fit

end GatewayPolicy.Database
