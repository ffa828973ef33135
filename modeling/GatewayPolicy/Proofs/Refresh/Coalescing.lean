import GatewayPolicy.Proofs.Refresh.Calls

/-!
# Requests coalesce and none is lost

A call on an idle coordinator returns if only finitely many of its load calls
are met by requests.  It then has run one cycle, and one more for each of its
cycles in which a request arrived; the last one is met by no request, so that
all its reads are made after every request, and what it publishes is as new as
the last edit that somebody asked to be read.
-/

set_option autoImplicit false

namespace GatewayPolicy

def ReturnsAfter {State : Type} (answers : State → Reading)
    (system : RefreshSystem State) (call : RefreshCall)
    (scripts : Nat → LoadScript State) (count : Nat)
    (report : RefreshReport) : Prop :=
  (∀ earlier < count,
    (CallRun.after answers system call scripts earlier).reply =
      some .reading) ∧
  (CallRun.after answers system call scripts count).reply =
    some (.returned (some report))

structure CallRun.Completes {State : Type} (answers : State → Reading)
    (system : RefreshSystem State) (call : RefreshCall)
    (scripts : Nat → LoadScript State) (count : Nat)
    (served : List (ServedCycle answers)) (last : ServedCycle answers) :
    Prop where
  serving : ∀ earlier < count, ∃ settings first served unfinished,
    (CallRun.after answers system call scripts earlier).Serving answers
      settings first served unfinished
  returned :
    (CallRun.after answers system call scripts count).Returned answers
      system.coordinator.settings system.coordinator.snapshot served last
  made : (CallRun.after answers system call scripts count).Made scripts count

namespace CallRun

variable {State : Type} {answers : State → Reading}
  {system : RefreshSystem State} {call : RefreshCall}
  {scripts : Nat → LoadScript State} {count : Nat}
  {served : List (ServedCycle answers)} {last : ServedCycle answers}

theorem Completes.returnsAfter
    (completes :
      Completes answers system call scripts count served last) :
    ReturnsAfter answers system call scripts count
      (last.cycle.report system.coordinator.settings
        (publishAll system.coordinator.settings system.coordinator.snapshot
          (served.map ServedCycle.cycle))) := by
  constructor
  · intro earlier before
    obtain ⟨settings, first, served, unfinished, serving⟩ :=
      completes.serving earlier before
    exact serving.reply
  · exact completes.returned.reply

theorem after_cases (answers : State → Reading)
    (idle : system.coordinator.activity = .idle) (call : RefreshCall)
    (scripts : Nat → LoadScript State) (count : Nat) :
    (∃ served unfinished,
      (after answers system call scripts count).Serving answers
        system.coordinator.settings system.coordinator.snapshot served
        unfinished ∧
      (after answers system call scripts count).Made scripts count ∧
      ∀ earlier < count, ∃ settings first served unfinished,
        (after answers system call scripts earlier).Serving answers settings
          first served unfinished) ∨
    ∃ fewer served last,
      Completes answers system call scripts fewer served last := by
  induction count with
  | zero =>
      exact Or.inl
        ⟨[], [], serving_start idle call, made_start system call, nofun⟩
  | succ count ih =>
      rcases ih with ⟨served, unfinished, serving, made, before⟩ | returned
      · obtain ⟨load, step, outcome⟩ := serving.next (scripts count)
        have madeNext := made.next step
        have before : ∀ earlier < count + 1,
            ∃ settings first served unfinished,
              (after answers system call scripts earlier).Serving answers
                settings first served unfinished := by
          intro earlier fewer
          rcases Nat.lt_succ_iff_lt_or_eq.mp fewer with fewer | rfl
          · exact before earlier fewer
          · exact ⟨_, _, served, unfinished, serving⟩
        rcases outcome with serving | ⟨last, _, serving | returned⟩
        · exact Or.inl ⟨served, _, serving, madeNext, before⟩
        · exact Or.inl ⟨_, [], serving, madeNext, before⟩
        · exact Or.inr
            ⟨count + 1, served, last,
              { serving := before, returned := returned, made := madeNext }⟩
      · exact Or.inr returned

/-! ## Termination -/

/-- Each cycle that asked for one more has at least one load call with a
request. -/
theorem length_le_countP (served : List (ServedCycle answers))
    (requested : ∀ cycle ∈ served, cycle.isRequested = true) :
    served.length ≤
      (served.flatMap ServedCycle.loads).countP
        (fun load => load.script.isRequested) := by
  induction served with
  | nil => exact Nat.zero_le _
  | cons cycle rest ih =>
      have first : 0 < cycle.loads.countP
          (fun load => load.script.isRequested) := by
        rw [List.countP_pos_iff]
        exact List.any_eq_true.mp (requested cycle (by simp))
      have others := ih fun other member => requested other (by simp [member])
      rw [List.flatMap_cons, List.countP_append, List.length_cons]
      omega

theorem length_flatMap_le (served : List (ServedCycle answers)) :
    (served.flatMap ServedCycle.loads).length ≤ 5 * served.length := by
  induction served with
  | nil => exact Nat.zero_le _
  | cons cycle rest ih =>
      have reads := congrArg List.length cycle.reads_eq
      have few := cycle.cycle.reads_length_le
      rw [List.length_map] at reads
      rw [List.flatMap_cons, List.length_append, List.length_cons]
      omega

/-- If requests meet only load calls with a number below the bound, no more of
them than that are met by one. -/
theorem countP_isRequested_le {bound : Nat}
    (finite : ∀ load ≥ bound, .requestRefresh ∉ (scripts load).acts)
    (count : Nat) :
    ((List.range count).map scripts).countP LoadScript.isRequested ≤
      bound := by
  induction count with
  | zero => exact Nat.zero_le _
  | succ count ih =>
      by_cases met : count < bound
      · calc ((List.range (count + 1)).map scripts).countP
                LoadScript.isRequested
            ≤ ((List.range (count + 1)).map scripts).length :=
              List.countP_le_length
          _ ≤ bound := by simpa using Nat.succ_le_of_lt met
      · have unmet : (scripts count).isRequested = false := by
          rw [Bool.eq_false_iff]
          intro requested
          exact finite count (Nat.not_lt.mp met)
            ((scripts count).isRequested_iff.mp requested)
        rw [List.range_succ, List.map_append, List.countP_append]
        simpa [unmet] using ih

theorem Serving.count_le {settings : ResolverSettings} {first : Snapshot}
    {unfinished : List (Load State)} {run : CallRun State} {bound : Nat}
    (serving : run.Serving answers settings first served unfinished)
    (made : run.Made scripts count)
    (finite : ∀ load ≥ bound, .requestRefresh ∉ (scripts load).acts) :
    count < 5 * bound + 5 := by
  -- a served cycle uses up a load call with a request, and has five at most
  have total := made.length_eq
  rw [serving.loads, List.length_append] at total
  have cycles := length_le_countP served serving.requested
  have perCycle := length_flatMap_le served
  obtain ⟨progress, progressMade⟩ := serving.follows.exists_progress
  have running := progressMade.length_lt
  rw [List.length_map] at running
  have met : (served.flatMap ServedCycle.loads).countP
      (fun load => load.script.isRequested) ≤ bound := by
    calc (served.flatMap ServedCycle.loads).countP
            (fun load => load.script.isRequested)
        ≤ run.loads.countP (fun load => load.script.isRequested) := by
          rw [serving.loads, List.countP_append]
          exact Nat.le_add_right _ _
      _ = (run.loads.map Load.script).countP LoadScript.isRequested := by
          rw [List.countP_map]
          rfl
      _ ≤ bound := by
          rw [made.scripts_eq]
          exact countP_isRequested_le finite count
  omega

theorem exists_completes (answers : State → Reading)
    (idle : system.coordinator.activity = .idle) (call : RefreshCall)
    (scripts : Nat → LoadScript State)
    (finite : ∃ bound, ∀ load ≥ bound,
      .requestRefresh ∉ (scripts load).acts) :
    ∃ count served last,
      Completes answers system call scripts count served last := by
  obtain ⟨bound, finite⟩ := finite
  rcases after_cases answers idle call scripts (5 * bound + 5) with
    ⟨served, unfinished, serving, made, _⟩ | completes
  · have few := serving.count_le made finite
    exact absurd few (Nat.lt_irrefl _)
  · exact completes

end CallRun

/-! ## How many cycles a call runs, and which -/

namespace ServedCycle

variable {State : Type} {answers : State → Reading}

theorem categories_of_loads (served : ServedCycle answers) :
    served.loads.map Load.category =
      if served.cycle.isCompleted then Category.all else [.routes] := by
  rw [← served.cycle.categories_of_reads, ← served.reads_eq, List.map_map]
  rfl

/-- The reads of a cycle: every category in its order if the routes could be
read, and else the routes alone. -/
theorem reads_cases (served : ServedCycle answers) :
    (∃ rules,
      (served.loads.map (Load.read answers)).head? =
        some ⟨.routes, .ok rules⟩ ∧
      served.loads.map Load.category = Category.all) ∨
    ∃ fault,
      served.loads.map (Load.read answers) = [⟨.routes, .error fault⟩] := by
  have categories := served.categories_of_loads
  rw [served.reads_eq]
  cases cycle : served.cycle with
  | completed reads =>
      rw [cycle] at categories
      exact Or.inl ⟨reads.rules, rfl, categories⟩
  | abandoned fault => exact Or.inr ⟨fault, rfl⟩

end ServedCycle

theorem CallRun.Completes.length_eq {State : Type}
    {answers : State → Reading} {system : RefreshSystem State}
    {call : RefreshCall} {scripts : Nat → LoadScript State} {count : Nat}
    {served : List (ServedCycle answers)} {last : ServedCycle answers}
    (completes : Completes answers system call scripts count served last) :
    (served ++ [last]).length =
      1 + (served ++ [last]).countP ServedCycle.isRequested := by
  have all : served.countP ServedCycle.isRequested = served.length :=
    List.countP_eq_length.mpr completes.returned.requested
  rw [List.countP_append, all]
  simp [completes.returned.unrequested, Nat.add_comm]

/-- A call on an idle coordinator returns if requests meet only finitely many
of its load calls.  It runs one cycle, and one more for each of its cycles in
which a request arrived; each cycle reads every category once and in order, or
the routes alone if these cannot be read; and the call returns the report of
its last cycle. -/
theorem call_runs_one_cycle_more_than_requested {State : Type}
    (answers : State → Reading) (system : RefreshSystem State)
    (call : RefreshCall) (scripts : Nat → LoadScript State)
    (free : system.coordinator.isRefreshing = false)
    (finite : ∃ bound, ∀ load ≥ bound,
      .requestRefresh ∉ (scripts load).acts) :
    ∃ (count : Nat) (earlier : List (ServedCycle answers))
        (last : ServedCycle answers),
      let settings := system.coordinator.settings
      let final := CallRun.after answers system call scripts count
      let cycles := earlier ++ [last]
      ReturnsAfter answers system call scripts count
        (last.cycle.report settings
          (publishAll settings system.coordinator.snapshot
            (earlier.map ServedCycle.cycle))) ∧
      final.loads.map Load.script = (List.range count).map scripts ∧
      final.loads = cycles.flatMap ServedCycle.loads ∧
      cycles.length = 1 + cycles.countP ServedCycle.isRequested ∧
      ∀ cycle ∈ cycles,
        (∃ rules,
          (cycle.loads.map (Load.read answers)).head? =
            some ⟨.routes, .ok rules⟩ ∧
          cycle.loads.map Load.category =
            [.routes, .bindings, .authorities, .addresses .black,
              .addresses .white]) ∨
        ∃ fault,
          cycle.loads.map (Load.read answers) =
            [⟨.routes, .error fault⟩] := by
  obtain ⟨count, earlier, last, completes⟩ :=
    CallRun.exists_completes answers (Coordinator.idle_of_free free) call
      scripts finite
  exact
    ⟨count, earlier, last, completes.returnsAfter, completes.made.scripts_eq,
      completes.returned.loads, completes.length_eq,
      fun cycle _ => cycle.reads_cases⟩

/-- A request in the very first load call of a store that fails: the call
still returns. -/
theorem call_on_failing_store_returns :
    let answers : Unit → Reading := fun _ _ => .error (.unavailable "down")
    let scripts : Nat → LoadScript Unit := fun load =>
      if load = 0 then { before := [.requestRefresh], after := [] }
      else .answerOnly
    let system := RefreshSystem.new { keyResolver := "path" } ()
    ∃ count report,
      ReturnsAfter answers system .refresh scripts count report := by
  intro answers scripts system
  have finite : ∀ load ≥ 1, .requestRefresh ∉ (scripts load).acts := by
    intro load late
    have other : load ≠ 0 := Nat.ne_of_gt late
    simp [scripts, other, LoadScript.acts, LoadScript.answerOnly]
  obtain ⟨count, _, _, returns, _⟩ :=
    call_runs_one_cycle_more_than_requested answers system .refresh scripts rfl
      ⟨1, finite⟩
  exact ⟨count, _, returns⟩

/-! ## What is published when the call returns -/

def Snapshot.ofRows (settings : ResolverSettings) (generation : UInt64)
    (rows : (category : Category) → List category.Row) : Snapshot :=
  let index := PathIndex.ofRules (rows .routes)
  { generation := generation
    routes :=
      Routing.routes (rows .routes) (rows .bindings) index settings
    authorities := Access.authorityMap (rows .authorities) index
    blackList := Access.addressEntries (rows (.addresses .black)) index
    whiteList := Access.addressEntries (rows (.addresses .white)) index }

theorem exists_rows {reading : Reading}
    (readable : ∀ category ∈ Category.all,
      ∃ rows, reading category = .ok rows) :
    ∃ rows : (category : Category) → List category.Row,
      ∀ category, reading category = .ok (rows category) := by
  have each : ∀ category, ∃ rows, reading category = .ok rows := by
    intro category
    refine readable category ?_
    cases category with
    | routes => decide
    | bindings => decide
    | authorities => decide
    | addresses kind => cases kind <;> decide
  exact ⟨fun category => (each category).choose,
    fun category => (each category).choose_spec⟩

/-- A cycle that completes while the store stands still, and finds everything
readable, publishes what the rows of the store resolve to. -/
theorem FinishedCycle.publish_of_rows {reading : Reading}
    {rows : (category : Category) → List category.Row}
    (readable : ∀ category, reading category = .ok (rows category))
    {cycle : FinishedCycle}
    (reads : cycle.reads = Category.all.map (Read.of reading))
    (settings : ResolverSettings) (before : Snapshot) :
    cycle.publish settings before =
      Snapshot.ofRows settings (before.generation + 1) rows := by
  cases cycle with
  | abandoned fault => simp [FinishedCycle.reads, Category.all] at reads
  | completed values =>
      obtain ⟨rules, bindings, grants, blackList, whiteList⟩ := values
      simp only [FinishedCycle.reads, Category.all, List.map_cons,
        List.map_nil, Read.of, readable, List.cons.injEq, Read.mk.injEq,
        heq_eq_eq, true_and, and_true, Except.ok.injEq] at reads
      obtain ⟨rfl, rfl, rfl, rfl, rfl⟩ := reads
      rfl

namespace ServedCycle

variable {State : Type} {answers : State → Reading}

theorem isRequested_of_mem {served : ServedCycle answers} {load : Load State}
    (member : load ∈ served.loads)
    (request : .requestRefresh ∈ load.script.acts) :
    served.isRequested = true :=
  List.any_eq_true.mpr
    ⟨load, member, load.script.isRequested_iff.mpr request⟩

theorem isCompleted_of_routes {served : ServedCycle answers}
    (readable : ∀ load ∈ served.loads, load.category = .routes →
      ∃ rules, answers load.store .routes = .ok rules) :
    served.cycle.isCompleted = true := by
  rcases cycle : served.cycle with reads | fault
  · rfl
  · have single := served.reads_eq
    rw [cycle] at single
    obtain ⟨load, loads, read⟩ := List.map_eq_singleton_iff.mp single
    have member : load ∈ served.loads := by simp [loads]
    obtain ⟨script, store, category⟩ := load
    obtain ⟨rfl, failed⟩ := Read.mk.inj read
    obtain ⟨rules, found⟩ := readable _ member rfl
    rw [eq_of_heq failed] at found
    cases found

theorem isCompleted_of_readable {served : ServedCycle answers}
    (readable : ∀ load ∈ served.loads,
      ∃ rows, answers load.store load.category = .ok rows) :
    served.cycle.isCompleted = true := by
  refine isCompleted_of_routes fun load member routes => ?_
  rw [← routes]
  exact readable load member

theorem reads_of_stands {served : ServedCycle answers} {store : State}
    (stands : ∀ load ∈ served.loads, load.store = store)
    (completed : served.cycle.isCompleted = true) :
    served.cycle.reads = Category.all.map (Read.of (answers store)) := by
  have categories := served.categories_of_loads
  rw [completed, if_pos rfl] at categories
  rw [← served.reads_eq, ← categories, List.map_map]
  refine List.map_congr_left fun load member => ?_
  rw [Load.read, stands load member]
  rfl

end ServedCycle

namespace CallRun

variable {State : Type} {answers : State → Reading}
  {system : RefreshSystem State} {call : RefreshCall}
  {scripts : Nat → LoadScript State} {count : Nat}
  {served : List (ServedCycle answers)} {last : ServedCycle answers}

theorem Serving.step_request {settings : ResolverSettings} {first : Snapshot}
    {unfinished : List (Load State)} {run : CallRun State}
    (serving : run.Serving answers settings first served unfinished)
    (acts : List (LoadAct State)) :
    ((run.system.run answers (acts.map LoadAct.event)).step answers
      (.call .request)).2 = some (.returned none) := by
  obtain ⟨⟨cycle, busy⟩, _, _⟩ := serving.run_acts acts
  rw [RefreshSystem.step_request_of_reading answers busy]

theorem Made.script_getElem {run : CallRun State}
    (made : run.Made scripts count) {number : Nat}
    (small : number < run.loads.length) :
    run.loads[number].script = scripts number := by
  have same := congrArg (fun list => list[number]?) made.scripts_eq
  have few : number < count := made.length_eq ▸ small
  simpa [small, few] using same

/-- All load calls with requests come before those of the last cycle. -/
theorem Completes.request_before_last
    (completes : Completes answers system call scripts count served last)
    {number : Nat} (small : number < count)
    (request : .requestRefresh ∈ (scripts number).acts) :
    number < (served.flatMap ServedCycle.loads).length := by
  have loads := completes.returned.loads
  rw [List.flatMap_append, List.flatMap_singleton] at loads
  have length := completes.made.length_eq
  have inside := length.symm ▸ small
  rcases Nat.lt_or_ge number (served.flatMap ServedCycle.loads).length with
    early | late
  · exact early
  · have inLast : (after answers system call scripts count).loads[number] ∈
        last.loads := by
      simp only [loads]
      rw [List.getElem_append_right late]
      exact List.getElem_mem _
    have script := completes.made.script_getElem inside
    have requested := ServedCycle.isRequested_of_mem inLast (script ▸ request)
    rw [completes.returned.unrequested] at requested
    cases requested

/-- If a request follows every edit, there are no acts in the last cycle. -/
theorem Completes.last_unacted
    (completes : Completes answers system call scripts count served last)
    (followed : ∀ front change back,
      (List.range count).flatMap (fun number => (scripts number).acts) =
        front ++ .edit change :: back →
      .requestRefresh ∈ back) :
    ∀ load ∈ last.loads, load.script.acts = [] := by
  -- an edit in the last cycle would be followed by a request in it
  have loads := completes.returned.loads
  rw [List.flatMap_append, List.flatMap_singleton] at loads
  have acts : (List.range count).flatMap (fun number => (scripts number).acts) =
      (served.flatMap ServedCycle.loads).flatMap
          (fun load => load.script.acts) ++
        last.loads.flatMap (fun load => load.script.acts) := by
    have scriptsEq := completes.made.scripts_eq
    rw [loads] at scriptsEq
    have flat := congrArg (List.flatMap LoadScript.acts) scriptsEq
    simpa [List.flatMap_map] using flat.symm
  have unrequested :
      .requestRefresh ∉ last.loads.flatMap (fun load => load.script.acts) := by
    intro request
    obtain ⟨load, member, request⟩ := List.mem_flatMap.mp request
    have requested := ServedCycle.isRequested_of_mem member request
    rw [completes.returned.unrequested] at requested
    cases requested
  intro load member
  cases split : load.script.acts with
  | nil => rfl
  | cons act rest =>
      exfalso
      have inLast : act ∈ last.loads.flatMap (fun load => load.script.acts) :=
        List.mem_flatMap.mpr ⟨load, member, by rw [split]; exact .head _⟩
      cases act with
      | requestRefresh => exact unrequested inLast
      | edit change =>
          obtain ⟨front, back, lastSplit⟩ := List.append_of_mem inLast
          have later := followed _ change back
            (by rw [acts, lastSplit, ← List.append_assoc])
          apply unrequested
          rw [lastSplit]
          exact List.mem_append_right _ (.tail _ later)

end CallRun

/-- No request that arrives during a call is lost.  It returns nothing itself,
and the last cycle of the call begins after it.  When the call returns, no
request is noted and no cycle runs; and if every edit during the call was
followed by a request and the last cycle could read all it wanted, the
published snapshot is the one that the store resolves to as it then stands. -/
theorem every_request_precedes_last_cycle {State : Type}
    (answers : State → Reading) (system : RefreshSystem State)
    (call : RefreshCall) (scripts : Nat → LoadScript State)
    (free : system.coordinator.isRefreshing = false)
    (finite : ∃ bound, ∀ load ≥ bound,
      .requestRefresh ∉ (scripts load).acts) :
    ∃ (count : Nat) (report : RefreshReport)
        (earlier : List (ServedCycle answers)) (last : ServedCycle answers),
      let final := CallRun.after answers system call scripts count
      ReturnsAfter answers system call scripts count report ∧
      final.loads.map Load.script = (List.range count).map scripts ∧
      final.loads = earlier.flatMap ServedCycle.loads ++ last.loads ∧
      (∀ number < count, ∀ front back,
        (scripts number).acts = front ++ .requestRefresh :: back →
        let running := CallRun.after answers system call scripts number
        let met := running.system.run answers (front.map LoadAct.event)
        (met.step answers (.call .request)).2 = some (.returned none) ∧
        number < (earlier.flatMap ServedCycle.loads).length) ∧
      final.system.coordinator.pending = false ∧
      final.system.coordinator.isRefreshing = false ∧
      ((∀ front change back,
          (List.range count).flatMap (fun number => (scripts number).acts) =
            front ++ .edit change :: back →
          .requestRefresh ∈ back) →
        (∀ load ∈ last.loads,
          ∃ rows, answers load.store load.category = .ok rows) →
        ∃ rows : (category : Category) → List category.Row,
          (∀ category,
            answers final.system.store category = .ok (rows category)) ∧
          final.system.coordinator.snapshot =
            Snapshot.ofRows system.coordinator.settings
              final.system.coordinator.snapshot.generation rows) := by
  obtain ⟨count, earlier, last, completes⟩ :=
    CallRun.exists_completes answers (Coordinator.idle_of_free free) call
      scripts finite
  have returned := completes.returned
  have loads := returned.loads
  rw [List.flatMap_append, List.flatMap_singleton] at loads
  refine ⟨count, _, earlier, last, completes.returnsAfter,
    completes.made.scripts_eq, loads, ?_, returned.pending, ?_, ?_⟩
  · intro number small front back split
    obtain ⟨_, _, _, _, serving⟩ := completes.serving number small
    refine ⟨serving.step_request front, ?_⟩
    exact completes.request_before_last small (by simp [split])
  · simp [Coordinator.isRefreshing, returned.idle]
  · intro followed readable
    have unacted := completes.last_unacted followed
    have stands := completes.made.rests _ _ loads unacted
    have completed := ServedCycle.isCompleted_of_readable readable
    have reads := ServedCycle.reads_of_stands stands completed
    have found : ∀ category ∈ Category.all, ∃ rows,
        answers (CallRun.after answers system call scripts count).system.store
          category = .ok rows := by
      intro category member
      have categories := last.categories_of_loads
      rw [completed, if_pos rfl] at categories
      rw [← categories] at member
      obtain ⟨load, inLast, rfl⟩ := List.mem_map.mp member
      rw [← stands load inLast]
      exact readable load inLast
    obtain ⟨rows, rowsOf⟩ := exists_rows found
    have published := returned.published
    rw [List.map_append, List.map_singleton, publishAll_append_singleton,
      FinishedCycle.publish_of_rows rowsOf reads] at published
    refine ⟨rows, rowsOf, ?_⟩
    rw [published]
    rfl

/-- An edit and a request while the white list is read, which is the last read
of a cycle: the call publishes what the edit left. -/
theorem late_request_precedes_last_cycle :
    let answers : List RouteRule → Reading := fun rules category =>
      match category with
      | .routes => .ok rules
      | .bindings => .ok []
      | .authorities => .ok []
      | .addresses _ => .ok []
    let rule : RouteRule :=
      { routeId := 1, routeName := "users", serviceId := some "users"
        url := none, path := "/users/**", stripPrefix := 1
        retryable := false, persist := false, status := 1 }
    let scripts : Nat → LoadScript (List RouteRule) := fun load =>
      if load = 4 then
        { before := [], after := [.edit (rule :: ·), .requestRefresh] }
      else .answerOnly
    let system := RefreshSystem.new { keyResolver := "path" } []
    ∃ count report rows,
      let final := CallRun.after answers system .request scripts count
      ReturnsAfter answers system .request scripts count report ∧
      (∀ category,
        answers final.system.store category = .ok (rows category)) ∧
      final.system.coordinator.snapshot =
        Snapshot.ofRows { keyResolver := "path" }
          final.system.coordinator.snapshot.generation rows := by
  intro answers rule scripts system
  have finite : ∀ load ≥ 5, .requestRefresh ∉ (scripts load).acts := by
    intro load late
    have other : load ≠ 4 := by omega
    simp [scripts, other, LoadScript.acts, LoadScript.answerOnly]
  have acts : ∀ count,
      (List.range count).flatMap (fun number => (scripts number).acts) =
        if count ≤ 4 then [] else [.edit (rule :: ·), .requestRefresh] := by
    intro count
    induction count with
    | zero => rfl
    | succ count ih =>
        rw [List.range_succ, List.flatMap_append, ih, List.flatMap_singleton]
        rcases Nat.lt_trichotomy count 4 with less | rfl | more
        · have other : scripts count = .answerOnly := if_neg (by omega)
          rw [other, if_pos (by omega), if_pos (by omega)]
          rfl
        · rfl
        · have other : scripts count = .answerOnly := if_neg (by omega)
          rw [other, if_neg (by omega), if_neg (by omega)]
          rfl
  have followed : ∀ count front change back,
      (List.range count).flatMap (fun number => (scripts number).acts) =
        front ++ .edit change :: back →
      .requestRefresh ∈ back := by
    intro count front change back split
    rw [acts count] at split
    by_cases early : count ≤ 4
    · simp [early] at split
    · rw [if_neg early] at split
      rcases front with _ | ⟨_, _ | ⟨_, front⟩⟩ <;> simp at split
      simp [← split.2]
  have readable : ∀ load : Load (List RouteRule),
      ∃ rows, answers load.store load.category = .ok rows := by
    intro load
    obtain ⟨_, _, category⟩ := load
    cases category <;> exact ⟨_, rfl⟩
  obtain ⟨count, report, _, _, returns, _, _, _, _, _, published⟩ :=
    every_request_precedes_last_cycle answers system .request scripts rfl
      ⟨5, finite⟩
  obtain ⟨rows, read, snapshot⟩ :=
    published (followed count) fun load _ => readable load
  exact ⟨count, report, rows, returns, read, snapshot⟩

end GatewayPolicy
