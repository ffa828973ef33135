import GatewayPolicy.Proofs.Access.Publication
import GatewayPolicy.Proofs.Database.Decoding
import GatewayPolicy.Proofs.Refresh.Publication
import GatewayPolicy.Proofs.Routing.Consistency
import GatewayPolicy.Store.Basic

/-!
# Well-formed snapshots

A snapshot says several things more than once: routes carry their place, their
flag and their limit, address entries their list, and the summary counts it
all.  Over the stores there are, whichever of their reads fail and whatever
happens to their rows, no published snapshot ever contradicts itself.  The
empty one does not, and neither does any that the reads of a cycle determine,
provided that the address entries were read from the list they belong to.
-/

set_option autoImplicit false

namespace GatewayPolicy

structure Snapshot.WellFormed (settings : ResolverSettings)
    (snapshot : Snapshot) : Prop where
  routes : Routing.WellFormed settings snapshot.routes
  authorities : ∀ entry ∈ snapshot.authorities, entry.2 ≠ []
  blackList : ∀ entry ∈ snapshot.blackList,
    entry.kind = .black ∧ entry.path.isSome = true
  whiteList : ∀ entry ∈ snapshot.whiteList,
    entry.kind = .white ∧ entry.path.isSome = true
  summary : snapshot.summary =
    { generation := snapshot.generation
      routes := snapshot.routes.length
      limitedRoutes :=
        (snapshot.routes.filter fun route => route.limit.isSome).length
      authorityPaths := snapshot.authorities.length
      blackList := snapshot.blackList.length
      whiteList := snapshot.whiteList.length }

/-! ## What a cycle publishes -/

theorem Routing.wellFormed_nil (settings : ResolverSettings) :
    WellFormed settings [] where
  order := nofun
  consistent := nofun
  limited_first := List.nil_prefix
  unclaimed := nofun

theorem Snapshot.summary_eq (snapshot : Snapshot) :
    snapshot.summary =
      { generation := snapshot.generation
        routes := snapshot.routes.length
        limitedRoutes :=
          (snapshot.routes.filter fun route => route.limit.isSome).length
        authorityPaths := snapshot.authorities.length
        blackList := snapshot.blackList.length
        whiteList := snapshot.whiteList.length } := by
  simp only [summary, List.countP_eq_length_filter]

theorem Snapshot.wellFormed_empty (settings : ResolverSettings) :
    empty.WellFormed settings where
  routes := Routing.wellFormed_nil settings
  authorities := nofun
  blackList := nofun
  whiteList := nofun
  summary := rfl

/-- Of each address list that could be read, all entries belong to it. -/
def CycleReads.Listed (reads : CycleReads) : Prop :=
  (∀ rows, reads.blackList = .ok rows → ∀ entry ∈ rows, entry.kind = .black) ∧
  (∀ rows, reads.whiteList = .ok rows → ∀ entry ∈ rows, entry.kind = .white)

theorem forall_mem_valueOfRead {Row Value : Type} {resolve : List Row → List Value}
    {P : Value → Prop} {read : Except StoreFault (List Row)}
    (held : ∀ rows, read = .ok rows → ∀ value ∈ resolve rows, P value) :
    ∀ value ∈ valueOfRead resolve read, P value := by
  cases read with
  | ok rows => exact held rows rfl
  | error fault => nofun

/-- Nothing else is asked of the reads, since a category that could not be
read is empty. -/
theorem CycleReads.wellFormed_snapshot {reads : CycleReads}
    (listed : reads.Listed) (settings : ResolverSettings)
    (generation : UInt64) :
    (reads.snapshot settings generation).WellFormed settings where
  routes := by
    unfold snapshot
    cases reads.bindings with
    | ok bindings =>
        exact Routing.wellFormed_routes reads.rules bindings reads.index settings
    | error fault => exact Routing.wellFormed_nil settings
  authorities :=
    forall_mem_valueOfRead fun grants _ =>
      Access.tokens_ne_nil_of_mem_authorityMap grants
  blackList :=
    forall_mem_valueOfRead fun rows read =>
      Access.kind_of_mem_addressEntries (listed.1 rows read)
  whiteList :=
    forall_mem_valueOfRead fun rows read =>
      Access.kind_of_mem_addressEntries (listed.2 rows read)
  summary := Snapshot.summary_eq _

/-! ## What a store hands out -/

theorem Store.kind_of_mem_rows {ties : Database.TieOrder} {store : Store}
    {kind : ListKind} {rows : List AddressEntry}
    (read : store.reading ties (.addresses kind) = .ok rows) :
    ∀ entry ∈ rows, entry.kind = kind := by
  intro entry member
  cases store with
  | tables tables =>
      obtain rfl : tables.rows (.addresses kind) = rows := Except.ok.inj read
      exact beq_iff_eq.mp (List.mem_filter.mp member).2
  | database db =>
      have loaded : db.loadAddresses kind = .ok rows := read
      unfold Database.Contents.loadAddresses at loaded
      iterate 3 obtain ⟨_, _, loaded⟩ := Database.exists_of_bind_eq_ok loaded
      obtain ⟨row, _, decoded⟩ :=
        Database.exists_row_of_mem_values loaded member
      exact Database.kind_of_decodeAddresses decoded

/-- A store of which any read may be made to fail, and which may put rows that
its queries leave unordered in any order. -/
structure FallibleStore where
  store : Store
  ties : Database.TieOrder
  fault? : Category → Option StoreFault

def FallibleStore.reading (fallible : FallibleStore) : Reading :=
  fun category =>
    match fallible.fault? category with
    | some fault => .error fault
    | none => fallible.store.reading fallible.ties category

theorem FallibleStore.kind_of_mem_rows {fallible : FallibleStore}
    {kind : ListKind} {rows : List AddressEntry}
    (read : fallible.reading (.addresses kind) = .ok rows) :
    ∀ entry ∈ rows, entry.kind = kind := by
  unfold reading at read
  split at read
  · cases read
  · exact Store.kind_of_mem_rows read

/-! ## Every point of every history -/

namespace RefreshSystem

variable {State : Type} (answers : State → Reading)

theorem exists_store_of_mem_readsOf {system : RefreshSystem State}
    {event : RefreshEvent State} {read : Read}
    (made : read ∈ system.readsOf answers event) :
    ∃ state category, read = Read.of (answers state) category := by
  cases event with
  | edit change => cases made
  | call call => cases made
  | read =>
      cases activity : system.coordinator.activity with
      | idle =>
          rw [readsOf, ask, Coordinator.ask_of_idle activity] at made
          cases made
      | reading cycle =>
          rw [readsOf, ask, Coordinator.ask_of_reading activity] at made
          exact ⟨_, _, List.mem_singleton.mp made⟩

theorem exists_store_of_mem_history (system : RefreshSystem State)
    (events : List (RefreshEvent State)) {read : Read}
    (made : read ∈ system.history answers events) :
    ∃ state category, read = Read.of (answers state) category := by
  induction events generalizing system with
  | nil => cases made
  | cons event rest ih =>
      rcases List.mem_append.mp made with here | later
      · exact exists_store_of_mem_readsOf answers here
      · exact ih _ later

end RefreshSystem

theorem CycleReads.listed_of_history {system : RefreshSystem FallibleStore}
    {events : List (RefreshEvent FallibleStore)} {reads : CycleReads}
    (finished : .completed reads ∈
      finishedCycles (system.history FallibleStore.reading events))
    (split : ∃ unfinished,
      system.history FallibleStore.reading events =
        (finishedCycles (system.history FallibleStore.reading events)).flatMap
          FinishedCycle.reads ++ unfinished) :
    reads.Listed := by
  obtain ⟨unfinished, split⟩ := split
  have made (read : Read)
      (member : read ∈ (FinishedCycle.completed reads).reads) :
      ∃ state category, read = Read.of (FallibleStore.reading state) category := by
    refine RefreshSystem.exists_store_of_mem_history _ system events ?_
    rw [split]
    exact List.mem_append_left _ (List.mem_flatMap.mpr ⟨_, finished, member⟩)
  constructor
  · intro rows read
    obtain ⟨state, category, same⟩ :=
      made ⟨.addresses .black, reads.blackList⟩ (by simp [FinishedCycle.reads])
    rw [Read.answer_of_eq_of same] at read
    exact FallibleStore.kind_of_mem_rows read
  · intro rows read
    obtain ⟨state, category, same⟩ :=
      made ⟨.addresses .white, reads.whiteList⟩ (by simp [FinishedCycle.reads])
    rw [Read.answer_of_eq_of same] at read
    exact FallibleStore.kind_of_mem_rows read

/-- Whatever has happened to the store, its faults and the coordinator, the
published snapshot is well formed. -/
theorem published_snapshot_wellFormed (settings : ResolverSettings)
    (store : FallibleStore) (events : List (RefreshEvent FallibleStore)) :
    let system := RefreshSystem.new settings store
    let coordinator := (system.run FallibleStore.reading events).coordinator
    coordinator.snapshot.WellFormed settings := by
  intro system coordinator
  let cycles := finishedCycles (system.history FallibleStore.reading events)
  obtain ⟨unfinished, follows, split⟩ :=
    RefreshSystem.run_new_follows FallibleStore.reading settings store events
  have published : coordinator.snapshot = publishAll settings .empty cycles :=
    follows.published
  rw [published]
  rcases publishAll_cases settings .empty cycles with
    ⟨_, kept⟩ | ⟨earlier, reads, later, parts, _, value⟩
  · rw [kept]
    exact Snapshot.wellFormed_empty settings
  · have finished : .completed reads ∈ cycles := by
      rw [parts]
      exact List.mem_append_right _ (.head _)
    rw [value]
    exact CycleReads.wellFormed_snapshot
      (CycleReads.listed_of_history finished ⟨unfinished, split⟩) settings _

end GatewayPolicy
