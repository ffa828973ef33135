import GatewayPolicy.Access
import GatewayPolicy.Proofs.Path.KeptRules
import GatewayPolicy.Proofs.Text.Trimming
import GatewayPolicy.Routing

/-!
# The public path of one api in every category

A rate limit binding, an authority grant and an address entry may all be about
one api: they name the same service and the same path.  Grants and entries trim
the path before it is made public, and are left out if nothing remains.
Bindings take the path as it is written.  So the three categories meet at one
public path, whatever the routes are, exactly for those paths that trimming
leaves as they are and that are not blank.
-/

set_option autoImplicit false

namespace GatewayPolicy

/-! ## What a row publishes -/

def LimitBinding.publicPaths (binding : LimitBinding) (index : PathIndex)
    (settings : ResolverSettings) : List String :=
  (Routing.limitPass index settings [binding]).routes.map fun route =>
    route.predicate.pattern

def AuthorityGrant.publicPaths (grant : AuthorityGrant) (index : PathIndex) :
    List String :=
  Keyed.keys (Access.authorityMap [grant] index)

def AddressEntry.publicPaths (entry : AddressEntry) (index : PathIndex) :
    List String :=
  (Access.addressEntries [entry] index).filterMap AddressEntry.path

/-- A binding with a known unit is published under its path as it is written,
which may be blank. -/
theorem LimitBinding.publicPaths_eq {binding : LimitBinding}
    {unit : IntervalUnit}
    (known : IntervalUnit.parse binding.intervalUnit = .ok unit)
    (index : PathIndex) (settings : ResolverSettings) :
    binding.publicPaths index settings =
      [index.fullPath binding.serviceId binding.path] := by
  simp [publicPaths, Routing.limitPass, Routing.LimitPass.add,
    Routing.limitedRoute, known, Except.map]

theorem AuthorityGrant.publicPaths_eq (grant : AuthorityGrant)
    (index : PathIndex) :
    grant.publicPaths index =
      (Access.publicPath? index grant.serviceId grant.path).toList := by
  unfold publicPaths Access.authorityMap
  simp only [List.foldl_cons, List.foldl_nil, Access.grant]
  cases Access.publicPath? index grant.serviceId grant.path <;> rfl

theorem AddressEntry.publicPaths_eq (entry : AddressEntry)
    (index : PathIndex) :
    entry.publicPaths index =
      (Access.publicPath? index entry.serviceId entry.path).toList := by
  unfold publicPaths Access.addressEntries
  simp only [List.filterMap_cons, List.filterMap_nil, Access.publish?]
  cases Access.publicPath? index entry.serviceId entry.path <;> rfl

theorem Access.publicPath?_some (index : PathIndex)
    (serviceId path : String) :
    publicPath? index serviceId (some path) =
      if Text.isBlank path then none
      else some (index.fullPath serviceId (Text.trim path)) := by
  simp only [publicPath?, usablePath?, Option.bind_some, Text.trimmed?_eq]
  cases Text.isBlank path <;> rfl

/-! ## Paths that trimming changes -/

theorem Path.normalizeChars_trimChars_iff (cs : List Char) :
    normalizeChars (Text.trimChars cs) = normalizeChars cs ↔
      Text.trimChars cs = cs := by
  constructor
  · intro same
    by_cases rooted : cs.head? = some '/'
    · have kept := Text.head?_trimChars rooted (by decide)
      rwa [normalizeChars_of_rooted kept, normalizeChars_of_rooted rooted]
        at same
    · by_cases kept : (Text.trimChars cs).head? = some '/'
      · have shorter := (Text.trimChars_infix_self cs).length_le
        rw [normalizeChars_of_rooted kept, normalizeChars_of_not_rooted rooted]
          at same
        rw [same, List.length_cons] at shorter
        omega
      · rw [normalizeChars_of_not_rooted kept,
          normalizeChars_of_not_rooted rooted] at same
        exact List.tail_eq_of_cons_eq same
  · intro same
    rw [same]

theorem PathIndex.toList_fullPath_unowned (serviceId path : String) :
    ((ofRules []).fullPath serviceId path).toList =
      Path.normalizeChars path.toList :=
  Path.toList_normalize path

theorem Access.publicPath?_unowned_iff (serviceId path : String) :
    let index := PathIndex.ofRules []
    publicPath? index serviceId (some path) =
        some (index.fullPath serviceId path) ↔
      Text.isBlank path = false ∧ Text.trim path = path := by
  intro index
  rw [publicPath?_some]
  cases Text.isBlank path with
  | true => simp
  | false =>
      have texts : index.fullPath serviceId (Text.trim path) =
          index.fullPath serviceId path ↔ Text.trim path = path := by
        rw [← String.toList_inj, ← String.toList_inj,
          PathIndex.toList_fullPath_unowned, PathIndex.toList_fullPath_unowned,
          Text.toList_trim]
        exact Path.normalizeChars_trimChars_iff path.toList
      simpa using texts

/-! ## One api, one path -/

/-- A grant and an entry for one api always meet at one public path, or are
both left out.  A binding joins them, whatever the routes and the service are,
exactly if its path is not blank and has no blanks at its ends. -/
theorem one_public_path_iff (path : String) :
    (∀ (rules : List RouteRule) (grant : AuthorityGrant)
        (entry : AddressEntry),
      entry.serviceId = grant.serviceId → entry.path = grant.path →
      let index := PathIndex.ofRules rules
      entry.publicPaths index = grant.publicPaths index) ∧
    ((∀ (rules : List RouteRule) (settings : ResolverSettings)
        (binding : LimitBinding) (grant : AuthorityGrant)
        (entry : AddressEntry) (unit : IntervalUnit),
      IntervalUnit.parse binding.intervalUnit = .ok unit →
      grant.serviceId = binding.serviceId →
      entry.serviceId = binding.serviceId →
      binding.path = path → grant.path = some path → entry.path = some path →
      let index := PathIndex.ofRules rules
      grant.publicPaths index = binding.publicPaths index settings ∧
      entry.publicPaths index = binding.publicPaths index settings) ↔
    Text.isBlank path = false ∧ Text.trim path = path) := by
  refine ⟨?_, ?_, ?_⟩
  · intro rules grant entry sameService samePath index
    rw [entry.publicPaths_eq, grant.publicPaths_eq, sameService, samePath]
  · intro agree
    -- without routes the public paths are the normal ones, which blanks change
    let binding : LimitBinding :=
      { policyId := 1, policyName := "", limitQuota := 1
        intervalUnit := "seconds", apiId := 1, apiCode := "", apiName := ""
        apiCategory := "", serviceId := "", path := path, url := none }
    let grant : AuthorityGrant :=
      { authorityId := 1, authority := "", serviceId := ""
        path := some path }
    let entry : AddressEntry :=
      { policyId := 1, policyName := "", kind := .black, addresses := []
        apiId := 1, serviceId := "", path := some path }
    have known : IntervalUnit.parse binding.intervalUnit = .ok .seconds := by
      have second : IntervalUnit.ofText? "seconds" = some .seconds := by decide
      simp only [binding, IntervalUnit.parse, second]
    have met := (agree [] { keyResolver := "path" } binding grant entry
      .seconds known rfl rfl rfl rfl rfl).1
    rw [grant.publicPaths_eq, LimitBinding.publicPaths_eq known] at met
    exact (Access.publicPath?_unowned_iff "" path).mp
      (Option.toList_eq_singleton_iff.mp met)
  · rintro ⟨visible, trimmed⟩ rules settings binding grant entry unit known
      grantService entryService bindingPath grantPath entryPath index
    have usable : Access.publicPath? index binding.serviceId (some path) =
        some (index.fullPath binding.serviceId path) := by
      rw [Access.publicPath?_some, visible, trimmed]
      rfl
    rw [grant.publicPaths_eq, entry.publicPaths_eq,
      LimitBinding.publicPaths_eq known, grantService, entryService,
      grantPath, entryPath, bindingPath, usable]
    exact ⟨rfl, rfl⟩

/-- A blank before the path parts the binding from the others, and so does a
path that is missing altogether. -/
theorem blank_before_path_parts_categories :
    let rules : List RouteRule :=
      [{ routeId := 1, routeName := "svc", serviceId := some "svc"
         url := none, path := "/svc/**", stripPrefix := 1
         retryable := false, persist := false, status := 1 }]
    let index := PathIndex.ofRules rules
    let settings : ResolverSettings := { keyResolver := "path" }
    let binding (path : String) : LimitBinding :=
      { policyId := 1, policyName := "p", limitQuota := 60
        intervalUnit := "seconds", apiId := 10, apiCode := "users"
        apiName := "users", apiCategory := "", serviceId := "svc"
        path := path, url := none }
    let grant (path : String) : AuthorityGrant :=
      { authorityId := 1, authority := "ROLE", serviceId := "svc"
        path := some path }
    let entry (path : String) : AddressEntry :=
      { policyId := 1, policyName := "p", kind := .black
        addresses := ["10.0.0.1"], apiId := 10, serviceId := "svc"
        path := some path }
    (binding " /users").publicPaths index settings = ["/svc/ /users"] ∧
    (grant " /users").publicPaths index = ["/svc/users"] ∧
    (entry " /users").publicPaths index = ["/svc/users"] ∧
    (binding "").publicPaths index settings = ["/svc/"] ∧
    (grant "").publicPaths index = [] ∧
    (entry "").publicPaths index = [] := by
  decide

end GatewayPolicy
