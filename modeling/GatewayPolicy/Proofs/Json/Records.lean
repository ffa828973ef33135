import GatewayPolicy.Json.Route
import GatewayPolicy.Json.Row
import GatewayPolicy.Json.Settings

/-!
# Decoding what was encoded

An encoder and a decoder belong together if decoding undoes encoding.  Plain
values, options and lists carry this from their parts; a record carries it from
its fields, which are looked up by name, and a choice from its cases.
-/

set_option autoImplicit false

namespace GatewayPolicy

namespace Json

variable {α : Type}

def Undoes (decode : Json → Option α) (encode : α → Json) : Prop :=
  ∀ value, decode (encode value) = some value

/-! ## Plain values -/

@[simp] theorem string?_string (s : String) :
    (Json.string s).string? = some s :=
  rfl

@[simp] theorem bool?_bool (b : Bool) : (Json.bool b).bool? = some b :=
  rfl

theorem integerIn?_integer {least greatest n : Int} (above : least ≤ n)
    (below : n ≤ greatest) :
    (Json.integer n).integerIn? least greatest = some n := by
  simp [integerIn?, above, below]

@[simp] theorem int64?_ofInt64 (n : Int64) : (ofInt64 n).int64? = some n := by
  rw [int64?, ofInt64,
    integerIn?_integer (Int64.minValue_le_toInt n) (Int64.toInt_le n),
    Option.map_some, Int64.ofInt_toInt]

@[simp] theorem uint64?_ofUInt64 (n : UInt64) :
    (ofUInt64 n).uint64? = some n := by
  have below : (n.toNat : Int) ≤ (UInt64.size : Int) - 1 := by
    have := n.toNat_lt_size
    omega
  rw [uint64?, ofUInt64, ofNat, integerIn?_integer (by omega) below,
    Option.map_some, Int.toNat_natCast, UInt64.ofNat_toNat]

@[simp] theorem uint32?_ofNat_toNat (n : UInt32) :
    (ofNat n.toNat).uint32? = some n := by
  have below : (n.toNat : Int) ≤ (UInt32.size : Int) - 1 := by
    have := n.toNat_lt_size
    omega
  rw [uint32?, ofNat, integerIn?_integer (by omega) below, Option.map_some,
    Int.toNat_natCast, UInt32.ofNat_toNat]

/-! ## Options and lists -/

/-- An encoder whose values are not null can be used for a field that may be
absent. -/
theorem optional_ofOption {decode : Json → Option α} {encode : α → Json}
    (undoes : Undoes decode encode) (present : ∀ value, encode value ≠ .null)
    (value : Option α) :
    optional decode (some (ofOption encode value)) = some value := by
  cases value with
  | none => rfl
  | some value =>
      rw [ofOption, optional]
      · rw [undoes value, Option.map_some]
      · exact present value

@[simp] theorem optional_string (value : Option String) :
    optional string? (some (ofOption .string value)) = some value :=
  optional_ofOption string?_string (fun _ => nofun) value

theorem mapM_map {β : Type} {decode : β → Option α} {encode : α → β}
    (undoes : ∀ value, decode (encode value) = some value) (items : List α) :
    (items.map encode).mapM decode = some items := by
  induction items with
  | nil => rfl
  | cons item rest ih =>
      rw [List.map_cons, List.mapM_cons, undoes item, ih]
      rfl

theorem list?_ofList {decode : Json → Option α} {encode : α → Json}
    (undoes : Undoes decode encode) (items : List α) :
    list? decode (ofList encode items) = some items :=
  mapM_map undoes items

@[simp] theorem list?_strings (items : List String) :
    list? string? (strings items) = some items :=
  list?_ofList string?_string items

/-! ## Records -/

@[simp] theorem record?_object (names : List String)
    (members : List (String × Json)) :
    (Json.object members).record? names =
      some fun name => Keyed.find? name members :=
  rfl

@[simp] theorem required_some (decode : Json → Option α) (field : Json) :
    required decode (some field) = decode field :=
  rfl

end Json

/-! ## Configuration rows -/

theorem RouteRule.ofJson?_toJson : Json.Undoes ofJson? toJson := by
  intro rule
  simp [ofJson?, toJson, Keyed.find?]

theorem LimitPolicy.ofJson?_toJson : Json.Undoes ofJson? toJson := by
  intro policy
  simp [ofJson?, toJson, Keyed.find?]

theorem LimitBinding.ofJson?_toJson : Json.Undoes ofJson? toJson := by
  intro binding
  simp [ofJson?, toJson, Keyed.find?]

theorem AuthorityGrant.ofJson?_toJson : Json.Undoes ofJson? toJson := by
  intro grant
  simp [ofJson?, toJson, Keyed.find?]

theorem ListKind.ofJson?_toJson : Json.Undoes ofJson? toJson := by
  intro kind
  cases kind <;> rfl

theorem AddressEntry.ofJson?_toJson : Json.Undoes ofJson? toJson := by
  intro entry
  simp [ofJson?, toJson, Keyed.find?, ListKind.ofJson?_toJson entry.kind]

/-! ## Gateway routes -/

theorem IntervalUnit.ofJson?_toJson : Json.Undoes ofJson? toJson := by
  intro unit
  cases unit <;> rfl

theorem TokenBucket.ofJson?_toJson : Json.Undoes ofJson? toJson := by
  intro bucket
  simp [ofJson?, toJson, Keyed.find?]

theorem RouteTarget.ofJson?_toJson : Json.Undoes ofJson? toJson := by
  intro target
  cases target with
  | loadBalanced serviceId =>
      simp [ofJson?, toJson, Json.tagged?, Keyed.find?]
  | url literal =>
      simp [ofJson?, toJson, Json.tagged?, Keyed.find?]

theorem RouteFilter.ofJson?_toJson : Json.Undoes ofJson? toJson := by
  intro filter
  cases filter with
  | stripPrefix parts =>
      simp [ofJson?, toJson, Json.tagged?, Keyed.find?]
  | requestRateLimiter replenishRate burstCapacity keyResolver =>
      simp [ofJson?, toJson, Json.tagged?, Keyed.find?]

theorem PathPredicate.ofJson?_toJson : Json.Undoes ofJson? toJson := by
  intro predicate
  simp [ofJson?, toJson, Keyed.find?]

theorem RouteLimit.ofJson?_toJson : Json.Undoes ofJson? toJson := by
  intro limit
  simp [ofJson?, toJson, Keyed.find?, IntervalUnit.ofJson?_toJson limit.unit,
    TokenBucket.ofJson?_toJson limit.bucket]

theorem ResolvedRoute.ofJson?_toJson : Json.Undoes ofJson? toJson := by
  intro route
  simp [ofJson?, toJson, Keyed.find?,
    PathPredicate.ofJson?_toJson route.predicate,
    RouteTarget.ofJson?_toJson route.target,
    Json.list?_ofList RouteFilter.ofJson?_toJson route.filters,
    Json.optional_ofOption RouteLimit.ofJson?_toJson (fun _ => nofun)
      route.limit]

/-! ## Settings -/

theorem ResolverSettings.ofJson?_toJson : Json.Undoes ofJson? toJson := by
  intro settings
  simp [ofJson?, toJson, Keyed.find?]

theorem Json.entries?_object {α : Type} {decode : Json → Option α}
    {encode : α → Json} (undoes : Undoes decode encode)
    (entries : List (String × α)) :
    entries? decode
        (.object (entries.map fun entry => (entry.1, encode entry.2))) =
      some entries := by
  refine mapM_map (fun entry => ?_) entries
  rw [undoes entry.2]
  rfl

theorem Settings.ofJson?_toJson : Json.Undoes ofJson? toJson := by
  intro settings
  simp [ofJson?, toJson, Keyed.find?,
    Json.entries?_object Json.string?_string settings.values]

end GatewayPolicy
