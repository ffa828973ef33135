import GatewayPolicy.Proofs.Json.Ordered
import GatewayPolicy.Proofs.Json.Reading
import GatewayPolicy.Proofs.Json.Records

/-!
# Nothing is lost in JSON

Every row, route and setting is encoded as a legible value.  So it can be
decoded from the value and from the text of the value, and is the same again.
Settings are an ascending list; whatever is decoded from a text ascends, since
reading puts the members of each object into order.
-/

set_option autoImplicit false

namespace GatewayPolicy

namespace Json

/-! ## Legible values -/

theorem legible_ofInt64 (n : Int64) : Legible (ofInt64 n) := by
  have above := Int64.minValue_le_toInt n
  have below := Int64.toInt_lt n
  have size : (UInt64.size : Int) = 2 ^ 64 := rfl
  exact .integer above (by omega)

theorem legible_ofNat {n : Nat} (small : n < UInt64.size) :
    Legible (ofNat n) :=
  .integer (Int.le_trans (by decide) (Int.natCast_nonneg n))
    (by exact_mod_cast small)

theorem legible_ofUInt64 (n : UInt64) : Legible (ofUInt64 n) :=
  legible_ofNat n.toNat_lt_size

theorem legible_ofUInt32 (n : UInt32) : Legible (ofNat n.toNat) :=
  legible_ofNat (Nat.lt_trans n.toNat_lt_size (by decide))

theorem Legible.record {members : List (String × Json)}
    (ascending : (Keyed.keys members).Pairwise (· < ·))
    (legible : ∀ member ∈ members, Legible member.2) :
    Legible (.object members) :=
  .object (List.pairwise_map.mp ascending) legible

section Parts

variable {α : Type} {encode : α → Json}

theorem legible_ofOption (legible : ∀ value, Legible (encode value))
    (value : Option α) : Legible (ofOption encode value) := by
  cases value with
  | none => exact .null
  | some value => exact legible value

theorem legible_ofList (legible : ∀ value, Legible (encode value))
    (items : List α) : Legible (ofList encode items) := by
  refine .array fun item member => ?_
  obtain ⟨value, _, rfl⟩ := List.mem_map.mp member
  exact legible value

end Parts

attribute [simp] Legible.bool Legible.string legible_ofInt64 legible_ofUInt64
  legible_ofUInt32

@[simp] theorem legible_optionalString (value : Option String) :
    Legible (ofOption .string value) :=
  legible_ofOption .string value

@[simp] theorem legible_strings (items : List String) :
    Legible (strings items) :=
  legible_ofList .string items

end Json

open Json (Legible)

/-! ## Rows, routes and settings are legible -/

theorem RouteRule.legible_toJson (rule : RouteRule) : Legible rule.toJson :=
  .record (by dsimp only [Keyed.keys, List.map]; decide) (by simp)

theorem LimitPolicy.legible_toJson (policy : LimitPolicy) :
    Legible policy.toJson :=
  .record (by dsimp only [Keyed.keys, List.map]; decide) (by simp)

theorem LimitBinding.legible_toJson (binding : LimitBinding) :
    Legible binding.toJson :=
  .record (by dsimp only [Keyed.keys, List.map]; decide) (by simp)

theorem AuthorityGrant.legible_toJson (grant : AuthorityGrant) :
    Legible grant.toJson :=
  .record (by dsimp only [Keyed.keys, List.map]; decide) (by simp)

theorem AddressEntry.legible_toJson (entry : AddressEntry) :
    Legible entry.toJson :=
  .record (by dsimp only [Keyed.keys, List.map]; decide)
    (by simp [ListKind.toJson])

theorem TokenBucket.legible_toJson (bucket : TokenBucket) :
    Legible bucket.toJson :=
  .record (by dsimp only [Keyed.keys, List.map]; decide) (by simp)

theorem RouteTarget.legible_toJson (target : RouteTarget) :
    Legible target.toJson := by
  cases target with
  | loadBalanced serviceId =>
      exact .record (by dsimp only [Keyed.keys, List.map]; decide) (by simp)
  | url literal =>
      exact .record (by dsimp only [Keyed.keys, List.map]; decide) (by simp)

theorem RouteFilter.legible_toJson (filter : RouteFilter) :
    Legible filter.toJson := by
  cases filter with
  | stripPrefix parts =>
      exact .record (by dsimp only [Keyed.keys, List.map]; decide) (by simp)
  | requestRateLimiter replenishRate burstCapacity keyResolver =>
      exact .record (by dsimp only [Keyed.keys, List.map]; decide) (by simp)

theorem PathPredicate.legible_toJson (predicate : PathPredicate) :
    Legible predicate.toJson :=
  .record (by dsimp only [Keyed.keys, List.map]; decide) (by simp)

theorem RouteLimit.legible_toJson (limit : RouteLimit) :
    Legible limit.toJson :=
  .record (by dsimp only [Keyed.keys, List.map]; decide)
    (by simp [IntervalUnit.toJson, limit.bucket.legible_toJson])

theorem ResolvedRoute.legible_toJson (route : ResolvedRoute) :
    Legible route.toJson :=
  .record (by dsimp only [Keyed.keys, List.map]; decide)
    (by
      simp [Json.legible_ofList RouteFilter.legible_toJson route.filters,
        Json.legible_ofOption RouteLimit.legible_toJson route.limit,
        route.predicate.legible_toJson, route.target.legible_toJson])

theorem ResolverSettings.legible_toJson (settings : ResolverSettings) :
    Legible settings.toJson :=
  .record (by dsimp only [Keyed.keys, List.map]; decide) (by simp)

theorem Settings.legible_toJson {settings : Settings}
    (sorted : Keyed.Sorted settings.values) : Legible settings.toJson := by
  have values : Legible (.object
      (settings.values.map fun entry => (entry.1, .string entry.2))) := by
    refine .object (List.pairwise_map.mpr sorted) fun member present => ?_
    obtain ⟨entry, _, rfl⟩ := List.mem_map.mp present
    exact .string entry.2
  exact .record (by dsimp only [Keyed.keys, List.map]; decide)
    (by simpa using values)

/-! ## Round trips -/

/-- Decoding undoes encoding, by way of values and by way of texts, and what a
text decodes to stays the same from then on. -/
structure Json.Keeps {α : Type} (decode : Json → Option α) (encode : α → Json)
    (Proper : α → Prop) : Prop where
  undoes : Undoes decode encode
  reads : ∀ value, Proper value →
    (read? (render (encode value))).bind decode = some value
  stable : ∀ text value, (read? text).bind decode = some value →
    (read? (render (encode value))).bind decode = some value

theorem Json.Keeps.of_legible {α : Type} {decode : Json → Option α}
    {encode : α → Json} {Proper : α → Prop} (undoes : Undoes decode encode)
    (legible : ∀ value, Proper value → Legible (encode value))
    (proper : ∀ json value, Ordered json → decode json = some value →
      Proper value) : Keeps decode encode Proper := by
  have reads (value : α) (fine : Proper value) :
      (read? (render (encode value))).bind decode = some value := by
    rw [read?_render (legible value fine), Option.bind_some, undoes value]
  refine ⟨undoes, reads, fun text value found => ?_⟩
  obtain ⟨json, read, decoded⟩ := Option.bind_eq_some_iff.mp found
  exact reads value (proper json value (ordered_of_read? read) decoded)

theorem Json.Keeps.of_all_legible {α : Type} {decode : Json → Option α}
    {encode : α → Json} (undoes : Undoes decode encode)
    (legible : ∀ value, Legible (encode value)) :
    Keeps decode encode fun _ => True :=
  .of_legible undoes (fun value _ => legible value)
    fun _ _ _ _ => trivial

/-- The texts of settings are kept in ascending order of their keys; of all
other types any value is proper. -/
theorem json_loses_nothing :
    Json.Keeps RouteRule.ofJson? RouteRule.toJson (fun _ => True) ∧
    Json.Keeps LimitPolicy.ofJson? LimitPolicy.toJson (fun _ => True) ∧
    Json.Keeps LimitBinding.ofJson? LimitBinding.toJson (fun _ => True) ∧
    Json.Keeps AuthorityGrant.ofJson? AuthorityGrant.toJson (fun _ => True) ∧
    Json.Keeps AddressEntry.ofJson? AddressEntry.toJson (fun _ => True) ∧
    Json.Keeps TokenBucket.ofJson? TokenBucket.toJson (fun _ => True) ∧
    Json.Keeps RouteTarget.ofJson? RouteTarget.toJson (fun _ => True) ∧
    Json.Keeps RouteFilter.ofJson? RouteFilter.toJson (fun _ => True) ∧
    Json.Keeps ResolvedRoute.ofJson? ResolvedRoute.toJson (fun _ => True) ∧
    Json.Keeps ResolverSettings.ofJson? ResolverSettings.toJson
      (fun _ => True) ∧
    Json.Keeps Settings.ofJson? Settings.toJson
      (fun settings => Keyed.Sorted settings.values) :=
  ⟨.of_all_legible RouteRule.ofJson?_toJson RouteRule.legible_toJson,
    .of_all_legible LimitPolicy.ofJson?_toJson LimitPolicy.legible_toJson,
    .of_all_legible LimitBinding.ofJson?_toJson LimitBinding.legible_toJson,
    .of_all_legible AuthorityGrant.ofJson?_toJson AuthorityGrant.legible_toJson,
    .of_all_legible AddressEntry.ofJson?_toJson AddressEntry.legible_toJson,
    .of_all_legible TokenBucket.ofJson?_toJson TokenBucket.legible_toJson,
    .of_all_legible RouteTarget.ofJson?_toJson RouteTarget.legible_toJson,
    .of_all_legible RouteFilter.ofJson?_toJson RouteFilter.legible_toJson,
    .of_all_legible ResolvedRoute.ofJson?_toJson ResolvedRoute.legible_toJson,
    .of_all_legible ResolverSettings.ofJson?_toJson
      ResolverSettings.legible_toJson,
    .of_legible Settings.ofJson?_toJson
      (fun _ sorted => Settings.legible_toJson sorted)
      fun _ _ ordered => Settings.sorted_of_ofJson? ordered⟩

end GatewayPolicy
