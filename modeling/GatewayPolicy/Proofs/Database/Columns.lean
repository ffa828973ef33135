import GatewayPolicy.Proofs.Database.Decoding

/-!
# Columns and fields

A query reads each selected column into a field of one type.  A row is decoded
exactly if every one of its columns fits its field, and then each field is what
its own column says; where a column does not fit, the fault is one of mapping.
-/

set_option autoImplicit false

namespace GatewayPolicy.Database

/-! ## Fields and what a row says of them -/

inductive FieldType where
  | integer
  | text
  | optionalText
  deriving DecidableEq, Repr

def FieldType.admits : FieldType → Cell → Bool
  | integer, .integer _ => true
  | text, .text _ => true
  | optionalText, .null => true
  | optionalText, .text _ => true
  | _, _ => false

def fits {table : Table} (fields : List (table.Column × FieldType))
    (record : table.Record) : Bool :=
  fields.all fun field => field.2.admits (record field.1)

def Cell.ofText? : Option String → Cell
  | none => .null
  | some s => .text s

def ruleFields : List (Table.Column .route × FieldType) :=
  [(.routeId, .integer), (.routeName, .text), (.path, .text),
    (.serviceId, .optionalText), (.url, .optionalText),
    (.stripPrefix, .integer), (.retryable, .integer), (.persist, .integer),
    (.status, .integer)]

/-- The rule is what the row says; a blank service or url counts as absent, and
a number stands for true unless it is 0. -/
structure ReadsAsRule (route : Table.Record .route) (rule : RouteRule) :
    Prop where
  routeId : route .routeId = .integer rule.routeId
  routeName : route .routeName = .text rule.routeName
  path : route .path = .text rule.path
  serviceId : ∃ written, route .serviceId = .ofText? written ∧
    rule.serviceId = written.filter fun s => !Text.isBlank s
  url : ∃ written, route .url = .ofText? written ∧
    rule.url = written.filter fun s => !Text.isBlank s
  stripPrefix : route .stripPrefix = .integer rule.stripPrefix
  retryable : ∃ n, route .retryable = .integer n ∧ rule.retryable = (n != 0)
  persist : ∃ n, route .persist = .integer n ∧ rule.persist = (n != 0)
  status : route .status = .integer rule.status

def authorityFields : List (Table.Column .authority × FieldType) :=
  [(.authorityId, .integer), (.authority, .text)]

def grantedApiFields : List (Table.Column .api × FieldType) :=
  [(.serviceId, .text), (.path, .optionalText)]

structure ReadsAsGrant (authority : Table.Record .authority)
    (api : Table.Record .api) (grant : AuthorityGrant) : Prop where
  authorityId : authority .authorityId = .integer grant.authorityId
  authority : authority .authority = .text grant.authority
  serviceId : api .serviceId = .text grant.serviceId
  path : api .path = .ofText? grant.path

def addressFields : List (Table.Column .address × FieldType) :=
  [(.policyId, .integer), (.policyName, .text), (.address, .text)]

def listedApiFields : List (Table.Column .api × FieldType) :=
  [(.apiId, .integer), (.serviceId, .text), (.path, .optionalText)]

structure ReadsAsEntry (kind : ListKind) (policy : Table.Record .address)
    (api : Table.Record .api) (entry : AddressEntry) : Prop where
  policyId : policy .policyId = .integer entry.policyId
  policyName : policy .policyName = .text entry.policyName
  kind : entry.kind = kind
  addresses : ∃ written, policy .address = .text written ∧
    entry.addresses = splitAddresses written
  apiId : api .apiId = .integer entry.apiId
  serviceId : api .serviceId = .text entry.serviceId
  path : api .path = .ofText? entry.path

/-! ## One column -/

namespace FieldType

variable {cell : Cell}

theorem admits_integer_iff :
    integer.admits cell = true ↔ ∃ n, cell = .integer n := by
  constructor
  · cases cell with
    | integer n => exact fun _ => ⟨n, rfl⟩
    | null | real | text | malformed | blob => nofun
  · rintro ⟨n, rfl⟩
    rfl

theorem admits_text_iff :
    text.admits cell = true ↔ ∃ s, cell = .text s := by
  constructor
  · cases cell with
    | text s => exact fun _ => ⟨s, rfl⟩
    | null | integer | real | malformed | blob => nofun
  · rintro ⟨s, rfl⟩
    rfl

theorem admits_optionalText_iff :
    optionalText.admits cell = true ↔ ∃ written, cell = .ofText? written := by
  constructor
  · cases cell with
    | null => exact fun _ => ⟨none, rfl⟩
    | text s => exact fun _ => ⟨some s, rfl⟩
    | integer | real | malformed | blob => nofun
  · rintro ⟨written, rfl⟩
    cases written <;> rfl

end FieldType

namespace Selected

variable {column : Selected}

theorem int64_eq_ok_iff {n : Int64} :
    column.int64 = .ok n ↔ column.cell = .integer n := by
  refine ⟨int64_eq_ok, fun held => ?_⟩
  rw [int64, held]

theorem text_eq_ok_iff {s : String} :
    column.text = .ok s ↔ column.cell = .text s := by
  rw [text]
  cases column.cell <;> simp [wrongKind, notUtf8]

theorem text?_eq_ok_iff {written : Option String} :
    column.text? = .ok written ↔ column.cell = .ofText? written := by
  rw [text?]
  cases column.cell <;> cases written <;>
    simp [wrongKind, notUtf8, Cell.ofText?]

theorem nonBlank?_eq_ok_iff {s : Option String} :
    column.nonBlank? = .ok s ↔ ∃ written, column.cell = .ofText? written ∧
      s = written.filter fun s => !Text.isBlank s := by
  have dropped (written : Option String) :
      written.bind Text.nonBlank? =
        written.filter fun s => !Text.isBlank s := by
    cases written with
    | none => rfl
    | some s =>
        cases blank : Text.isBlank s <;>
          simp [Option.filter, Text.nonBlank?, blank]
  simp only [← text?_eq_ok_iff, nonBlank?, dropped]
  cases column.text? <;> simp [Except.map, eq_comm]

end Selected

/-! ## Faults of mapping -/

variable {α β : Type}

/-- If there is no value, then because something could not be mapped. -/
def FailsByMapping (result : Except StoreFault α) : Prop :=
  ∀ fault, result = .error fault → ∃ reason, fault = .mapping reason

namespace FailsByMapping

theorem ok (value : α) : FailsByMapping (.ok value) :=
  nofun

theorem bind {first : Except StoreFault α} {next : α → Except StoreFault β}
    (here : FailsByMapping first) (later : ∀ value, FailsByMapping (next value)) :
    FailsByMapping (first >>= next) := by
  cases first with
  | error fault => exact fun _ same => here _ (congrArg _ (Except.error.inj same))
  | ok value => exact later value

theorem map {first : Except StoreFault α} (here : FailsByMapping first)
    (f : α → β) : FailsByMapping (first.map f) := by
  cases first with
  | error fault => exact fun _ same => here _ (congrArg _ (Except.error.inj same))
  | ok value => exact ok (f value)

theorem mapM {decode : α → Except StoreFault β}
    (each : ∀ row, FailsByMapping (decode row)) (rows : List α) :
    FailsByMapping (rows.mapM decode) := by
  induction rows with
  | nil => exact ok []
  | cons row rest ih =>
      rw [List.mapM_cons]
      exact (each row).bind fun _ => ih.bind fun _ => ok _

theorem wrongKind (column : Selected) :
    FailsByMapping (column.wrongKind : Except StoreFault α) :=
  fun _ same => ⟨_, (Except.error.inj same).symm⟩

theorem notUtf8 (column : Selected) (text : MalformedText) :
    FailsByMapping (column.notUtf8 text : Except StoreFault α) :=
  fun _ same => ⟨_, (Except.error.inj same).symm⟩

theorem int64 (column : Selected) : FailsByMapping column.int64 := by
  unfold Selected.int64
  split
  · exact ok _
  · exact wrongKind column

theorem text (column : Selected) : FailsByMapping column.text := by
  unfold Selected.text
  split
  · exact ok _
  · exact notUtf8 column _
  · exact wrongKind column

theorem text? (column : Selected) : FailsByMapping column.text? := by
  unfold Selected.text?
  split
  · exact ok _
  · exact ok _
  · exact notUtf8 column _
  · exact wrongKind column

theorem nonBlank? (column : Selected) : FailsByMapping column.nonBlank? :=
  (text? column).map _

end FailsByMapping

theorem bind_eq_ok_iff {first : Except StoreFault α}
    {next : α → Except StoreFault β} {result : β} :
    (first >>= next) = .ok result ↔
      ∃ value, first = .ok value ∧ next value = .ok result := by
  refine ⟨exists_of_bind_eq_ok, ?_⟩
  rintro ⟨value, here, later⟩
  rw [here]
  exact later

/-! ## Route rows -/

theorem decodeRoute_eq_ok_iff {route : Table.Record .route}
    {rule : RouteRule} :
    decodeRoute route = .ok rule ↔ ReadsAsRule route rule := by
  simp only [decodeRoute, bind_eq_ok_iff, Selected.int64_eq_ok_iff,
    Selected.text_eq_ok_iff, Selected.nonBlank?_eq_ok_iff, select]
  constructor
  · rintro ⟨routeId, idCell, routeName, nameCell, path, pathCell, serviceId,
      serviceCell, url, urlCell, stripPrefix, stripCell, retryable, retryCell,
      persist, persistCell, status, statusCell, made⟩
    obtain rfl := Except.ok.inj made
    exact ⟨idCell, nameCell, pathCell, serviceCell, urlCell, stripCell,
      ⟨retryable, retryCell, rfl⟩, ⟨persist, persistCell, rfl⟩, statusCell⟩
  · rintro ⟨idCell, nameCell, pathCell, serviceCell, urlCell, stripCell,
      ⟨retryable, retryCell, retries⟩, ⟨persist, persistCell, persists⟩,
      statusCell⟩
    refine ⟨_, idCell, _, nameCell, _, pathCell, _, serviceCell, _, urlCell, _,
      stripCell, _, retryCell, _, persistCell, _, statusCell, ?_⟩
    rw [← retries, ← persists]
    rfl

theorem exists_readsAsRule_iff {route : Table.Record .route} :
    (∃ rule, ReadsAsRule route rule) ↔ fits ruleFields route = true := by
  simp only [fits, ruleFields, List.all_cons, List.all_nil, Bool.and_true,
    Bool.and_eq_true, FieldType.admits_integer_iff, FieldType.admits_text_iff,
    FieldType.admits_optionalText_iff]
  constructor
  · rintro ⟨rule, reads⟩
    obtain ⟨service, serviceCell, _⟩ := reads.serviceId
    obtain ⟨url, urlCell, _⟩ := reads.url
    obtain ⟨retryable, retryCell, _⟩ := reads.retryable
    obtain ⟨persist, persistCell, _⟩ := reads.persist
    exact ⟨⟨_, reads.routeId⟩, ⟨_, reads.routeName⟩, ⟨_, reads.path⟩,
      ⟨_, serviceCell⟩, ⟨_, urlCell⟩, ⟨_, reads.stripPrefix⟩, ⟨_, retryCell⟩,
      ⟨_, persistCell⟩, ⟨_, reads.status⟩⟩
  · rintro ⟨⟨routeId, idCell⟩, ⟨routeName, nameCell⟩, ⟨path, pathCell⟩,
      ⟨service, serviceCell⟩, ⟨url, urlCell⟩, ⟨stripPrefix, stripCell⟩,
      ⟨retryable, retryCell⟩, ⟨persist, persistCell⟩, ⟨status, statusCell⟩⟩
    exact ⟨
      { routeId := routeId
        routeName := routeName
        serviceId := service.filter fun s => !Text.isBlank s
        url := url.filter fun s => !Text.isBlank s
        path := path
        stripPrefix := stripPrefix
        retryable := retryable != 0
        persist := persist != 0
        status := status },
      ⟨idCell, nameCell, pathCell, ⟨service, serviceCell, rfl⟩,
        ⟨url, urlCell, rfl⟩, stripCell, ⟨retryable, retryCell, rfl⟩,
        ⟨persist, persistCell, rfl⟩, statusCell⟩⟩

theorem failsByMapping_decodeRoute (route : Table.Record .route) :
    FailsByMapping (decodeRoute route) := by
  refine (FailsByMapping.int64 _).bind fun _ => ?_
  refine (FailsByMapping.text _).bind fun _ => ?_
  refine (FailsByMapping.text _).bind fun _ => ?_
  refine (FailsByMapping.nonBlank? _).bind fun _ => ?_
  refine (FailsByMapping.nonBlank? _).bind fun _ => ?_
  iterate 4 refine (FailsByMapping.int64 _).bind fun _ => ?_
  exact FailsByMapping.ok _

/-! ## Authorities with their apis -/

theorem decodeGrant_eq_ok_iff
    {row : Table.Record .authority × Table.Record .api}
    {grant : AuthorityGrant} :
    decodeGrant row = .ok grant ↔ ReadsAsGrant row.1 row.2 grant := by
  simp only [decodeGrant, bind_eq_ok_iff, Selected.int64_eq_ok_iff,
    Selected.text_eq_ok_iff, Selected.text?_eq_ok_iff, select]
  constructor
  · rintro ⟨authorityId, idCell, authority, authorityCell, serviceId,
      serviceCell, path, pathCell, made⟩
    obtain rfl := Except.ok.inj made
    exact ⟨idCell, authorityCell, serviceCell, pathCell⟩
  · rintro ⟨idCell, authorityCell, serviceCell, pathCell⟩
    exact ⟨_, idCell, _, authorityCell, _, serviceCell, _, pathCell, rfl⟩

theorem exists_readsAsGrant_iff {authority : Table.Record .authority}
    {api : Table.Record .api} :
    (∃ grant, ReadsAsGrant authority api grant) ↔
      fits authorityFields authority = true ∧
        fits grantedApiFields api = true := by
  simp only [fits, authorityFields, grantedApiFields, List.all_cons,
    List.all_nil, Bool.and_true, Bool.and_eq_true,
    FieldType.admits_integer_iff, FieldType.admits_text_iff,
    FieldType.admits_optionalText_iff]
  constructor
  · rintro ⟨grant, reads⟩
    exact ⟨⟨⟨_, reads.authorityId⟩, ⟨_, reads.authority⟩⟩,
      ⟨_, reads.serviceId⟩, ⟨_, reads.path⟩⟩
  · rintro ⟨⟨⟨authorityId, idCell⟩, ⟨token, tokenCell⟩⟩,
      ⟨serviceId, serviceCell⟩, ⟨path, pathCell⟩⟩
    exact ⟨
      { authorityId := authorityId
        authority := token
        serviceId := serviceId
        path := path },
      ⟨idCell, tokenCell, serviceCell, pathCell⟩⟩

theorem failsByMapping_decodeGrant
    (row : Table.Record .authority × Table.Record .api) :
    FailsByMapping (decodeGrant row) := by
  refine (FailsByMapping.int64 _).bind fun _ => ?_
  refine (FailsByMapping.text _).bind fun _ => ?_
  refine (FailsByMapping.text _).bind fun _ => ?_
  refine (FailsByMapping.text? _).bind fun _ => ?_
  exact FailsByMapping.ok _

/-! ## Address policies with their apis -/

theorem decodeAddresses_eq_ok_iff {kind : ListKind}
    {row : Table.Record .address × Table.Record .api} {entry : AddressEntry} :
    decodeAddresses kind row = .ok entry ↔
      ReadsAsEntry kind row.1 row.2 entry := by
  simp only [decodeAddresses, bind_eq_ok_iff, Selected.int64_eq_ok_iff,
    Selected.text_eq_ok_iff, Selected.text?_eq_ok_iff, select]
  constructor
  · rintro ⟨written, writtenCell, policyId, policyCell, policyName, nameCell,
      apiId, apiCell, serviceId, serviceCell, path, pathCell, made⟩
    obtain rfl := Except.ok.inj made
    exact ⟨policyCell, nameCell, rfl, ⟨written, writtenCell, rfl⟩, apiCell,
      serviceCell, pathCell⟩
  · rintro ⟨policyCell, nameCell, rfl, ⟨written, writtenCell, split⟩, apiCell,
      serviceCell, pathCell⟩
    refine ⟨written, writtenCell, _, policyCell, _, nameCell, _, apiCell, _,
      serviceCell, _, pathCell, ?_⟩
    rw [← split]
    rfl

theorem exists_readsAsEntry_iff {kind : ListKind}
    {policy : Table.Record .address} {api : Table.Record .api} :
    (∃ entry, ReadsAsEntry kind policy api entry) ↔
      fits addressFields policy = true ∧ fits listedApiFields api = true := by
  simp only [fits, addressFields, listedApiFields, List.all_cons,
    List.all_nil, Bool.and_true, Bool.and_eq_true,
    FieldType.admits_integer_iff, FieldType.admits_text_iff,
    FieldType.admits_optionalText_iff]
  constructor
  · rintro ⟨entry, reads⟩
    obtain ⟨written, writtenCell, _⟩ := reads.addresses
    exact ⟨⟨⟨_, reads.policyId⟩, ⟨_, reads.policyName⟩, ⟨_, writtenCell⟩⟩,
      ⟨_, reads.apiId⟩, ⟨_, reads.serviceId⟩, ⟨_, reads.path⟩⟩
  · rintro ⟨⟨⟨policyId, policyCell⟩, ⟨policyName, nameCell⟩,
      ⟨written, writtenCell⟩⟩, ⟨apiId, apiCell⟩, ⟨serviceId, serviceCell⟩,
      ⟨path, pathCell⟩⟩
    exact ⟨
      { policyId := policyId
        policyName := policyName
        kind := kind
        addresses := splitAddresses written
        apiId := apiId
        serviceId := serviceId
        path := path },
      ⟨policyCell, nameCell, rfl, ⟨written, writtenCell, rfl⟩, apiCell,
        serviceCell, pathCell⟩⟩

theorem failsByMapping_decodeAddresses (kind : ListKind)
    (row : Table.Record .address × Table.Record .api) :
    FailsByMapping (decodeAddresses kind row) := by
  refine (FailsByMapping.text _).bind fun _ => ?_
  refine (FailsByMapping.int64 _).bind fun _ => ?_
  refine (FailsByMapping.text _).bind fun _ => ?_
  refine (FailsByMapping.int64 _).bind fun _ => ?_
  refine (FailsByMapping.text _).bind fun _ => ?_
  refine (FailsByMapping.text? _).bind fun _ => ?_
  exact FailsByMapping.ok _

end GatewayPolicy.Database
