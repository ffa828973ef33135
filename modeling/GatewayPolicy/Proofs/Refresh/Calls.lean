import GatewayPolicy.Proofs.Refresh.History

/-!
# Calls that run cycles

A call on an idle coordinator makes one load call of the store after the
other until it returns.  Inside a load call, before and after the store has
answered, the store may change and further requests may arrive.  Whatever
decides on that, in one call it comes to one script for each load call, so that
what holds for every sequence of scripts holds for every store.

Each load call takes the call one step further: the cycle goes on, or it ends
and one more begins because a request was noted in it, or it ends and the call
returns.
-/

set_option autoImplicit false

namespace GatewayPolicy

/-! ## Load calls -/

inductive LoadAct (State : Type) where
  | edit (change : State → State)
  | requestRefresh

namespace LoadAct

variable {State : Type}

def event : LoadAct State → RefreshEvent State
  | edit change => .edit change
  | requestRefresh => .call .request

def isRequest : LoadAct State → Bool
  | edit _ => false
  | requestRefresh => true

end LoadAct

/-- What a load method does before it takes its answer from the store, and
what it does with the answer in its hands. -/
structure LoadScript (State : Type) where
  before : List (LoadAct State)
  after : List (LoadAct State)

namespace LoadScript

variable {State : Type}

def answerOnly : LoadScript State :=
  { before := [], after := [] }

def acts (script : LoadScript State) : List (LoadAct State) :=
  script.before ++ script.after

def isRequested (script : LoadScript State) : Bool :=
  script.acts.any LoadAct.isRequest

theorem isRequested_iff (script : LoadScript State) :
    script.isRequested = true ↔ LoadAct.requestRefresh ∈ script.acts := by
  simp only [isRequested, List.any_eq_true]
  constructor
  · rintro ⟨act, member, request⟩
    cases act with
    | edit change => cases request
    | requestRefresh => exact member
  · intro member
    exact ⟨.requestRefresh, member, rfl⟩

end LoadScript

/-- A load call: what was done in it, and the store as it answered. -/
structure Load (State : Type) where
  script : LoadScript State
  store : State
  category : Category

def Load.read {State : Type} (answers : State → Reading) (load : Load State) :
    Read :=
  Read.of (answers load.store) load.category

structure ServedCycle {State : Type} (answers : State → Reading) where
  cycle : FinishedCycle
  loads : List (Load State)
  reads_eq : loads.map (Load.read answers) = cycle.reads

def isRequestedIn {State : Type} (loads : List (Load State)) : Bool :=
  loads.any fun load => load.script.isRequested

def ServedCycle.isRequested {State : Type} {answers : State → Reading}
    (served : ServedCycle answers) : Bool :=
  isRequestedIn served.loads

/-! ## A call and its load calls -/

structure CallRun (State : Type) where
  system : RefreshSystem State
  reply : Option Reply
  loads : List (Load State)

namespace CallRun

variable {State : Type} (answers : State → Reading)

def start (system : RefreshSystem State) (call : RefreshCall) :
    CallRun State :=
  { system := (system.step answers (.call call)).1
    reply := (system.step answers (.call call)).2
    loads := [] }

/-- One more load call.  The running cycle takes in the answer when all that
the script does is done. -/
def next (run : CallRun State) (script : LoadScript State) :
    CallRun State :=
  let asked := run.system.run answers (script.before.map LoadAct.event)
  let told := asked.run answers (script.after.map LoadAct.event)
  match asked.ask answers with
  | none => { run with system := told, reply := none }
  | some read =>
      let (coordinator, reply) := told.coordinator.read read
      { system := { told with coordinator := coordinator }
        reply := some reply
        loads :=
          run.loads ++
            [{ script := script
               store := asked.store
               category := read.category }] }

def after (system : RefreshSystem State) (call : RefreshCall)
    (scripts : Nat → LoadScript State) : Nat → CallRun State
  | 0 => start answers system call
  | loads + 1 => (after system call scripts loads).next answers (scripts loads)

end CallRun

/-! ## What a load call does -/

namespace RefreshSystem

variable {State : Type} (answers : State → Reading)

theorem step_request_of_reading {system : RefreshSystem State} {cycle : Cycle}
    (busy : system.coordinator.activity = .reading cycle) :
    system.step answers (.call .request) =
      ({ system with coordinator := system.coordinator.note },
        some (.returned none)) := by
  simp only [step, Coordinator.request_of_reading busy]

/-- Acts note requests, and else leave the running cycle alone. -/
theorem run_acts (system : RefreshSystem State) (acts : List (LoadAct State))
    {cycle : Cycle} (busy : system.coordinator.activity = .reading cycle) :
    (system.run answers (acts.map LoadAct.event)).coordinator =
      if acts.any LoadAct.isRequest then system.coordinator.note
      else system.coordinator := by
  induction acts generalizing system with
  | nil => rfl
  | cons act rest ih =>
      cases act with
      | edit change =>
          exact ih (system.edit change) busy
      | requestRefresh =>
          have step := step_request_of_reading answers busy
          have later :=
            ih { system with coordinator := system.coordinator.note } busy
          have again : system.coordinator.note.note = system.coordinator.note :=
            rfl
          simp only [again, ite_self] at later
          simpa [run, LoadAct.event, step, LoadAct.isRequest] using later

theorem activity_run_acts (system : RefreshSystem State)
    (acts : List (LoadAct State)) {cycle : Cycle}
    (busy : system.coordinator.activity = .reading cycle) :
    (system.run answers (acts.map LoadAct.event)).coordinator.activity =
      .reading cycle := by
  rw [run_acts answers system acts busy]
  split <;> exact busy

end RefreshSystem

/-- A call that is still running: it has served some cycles, each of which was
asked for one more, and the running one has made the open load calls. -/
structure CallRun.Serving {State : Type} (answers : State → Reading)
    (settings : ResolverSettings) (first : Snapshot)
    (served : List (ServedCycle answers)) (unfinished : List (Load State))
    (run : CallRun State) : Prop where
  loads : run.loads = served.flatMap ServedCycle.loads ++ unfinished
  reply : run.reply = some .reading
  follows :
    run.system.coordinator.Follows settings first
      (served.map ServedCycle.cycle) (unfinished.map (Load.read answers))
  busy : ∃ cycle, run.system.coordinator.activity = .reading cycle
  pending : run.system.coordinator.pending = isRequestedIn unfinished
  requested : ∀ cycle ∈ served, cycle.isRequested = true

/-- A call that returned: the last of its cycles is the first one in which no
request arrived. -/
structure CallRun.Returned {State : Type} (answers : State → Reading)
    (settings : ResolverSettings) (first : Snapshot)
    (served : List (ServedCycle answers)) (last : ServedCycle answers)
    (run : CallRun State) : Prop where
  loads : run.loads = (served ++ [last]).flatMap ServedCycle.loads
  reply : run.reply =
    some (.returned (some (last.cycle.report settings
      (publishAll settings first (served.map ServedCycle.cycle)))))
  published : run.system.coordinator.snapshot =
    publishAll settings first ((served ++ [last]).map ServedCycle.cycle)
  idle : run.system.coordinator.activity = .idle
  pending : run.system.coordinator.pending = false
  requested : ∀ cycle ∈ served, cycle.isRequested = true
  unrequested : last.isRequested = false

structure CallRun.Loads {State : Type} (answers : State → Reading)
    (before : CallRun State) (script : LoadScript State) (load : Load State)
    (after : CallRun State) : Prop where
  script_eq : load.script = script
  loads : after.loads = before.loads ++ [load]
  rests : script.acts = [] →
    load.store = before.system.store ∧
      after.system.store = before.system.store

namespace CallRun

variable {State : Type} {answers : State → Reading}
  {settings : ResolverSettings} {first : Snapshot}
  {served : List (ServedCycle answers)} {unfinished : List (Load State)}

theorem serving_start {system : RefreshSystem State}
    (idle : system.coordinator.activity = .idle) (call : RefreshCall) :
    (start answers system call).Serving answers system.coordinator.settings
      system.coordinator.snapshot [] [] := by
  have begun := Coordinator.call_of_idle idle call
  have follows := (Coordinator.Follows.of_idle idle).call call
  exact
    { loads := rfl
      reply := by
        simp [start, RefreshSystem.step, begun, Coordinator.beginCycle]
      follows := by simpa [start, RefreshSystem.step] using follows
      busy := by simp [start, RefreshSystem.step, begun, Coordinator.beginCycle]
      pending := by
        simp [start, RefreshSystem.step, begun, Coordinator.beginCycle,
          isRequestedIn]
      requested := nofun }

theorem Serving.run_acts {run : CallRun State}
    (serving : run.Serving answers settings first served unfinished)
    (acts : List (LoadAct State)) :
    let asked := run.system.run answers (acts.map LoadAct.event)
    (∃ cycle, asked.coordinator.activity = .reading cycle) ∧
      asked.coordinator.Follows settings first
        (served.map ServedCycle.cycle) (unfinished.map (Load.read answers)) ∧
      asked.coordinator.pending =
        (isRequestedIn unfinished || acts.any LoadAct.isRequest) := by
  intro asked
  obtain ⟨cycle, busy⟩ := serving.busy
  have coordinator : asked.coordinator =
      if acts.any LoadAct.isRequest then run.system.coordinator.note
      else run.system.coordinator :=
    RefreshSystem.run_acts answers run.system acts busy
  rw [coordinator]
  cases requested : acts.any LoadAct.isRequest with
  | true =>
      refine ⟨⟨cycle, busy⟩, serving.follows.note, ?_⟩
      rw [Bool.or_true]
      rfl
  | false =>
      refine ⟨⟨cycle, busy⟩, serving.follows, ?_⟩
      rw [Bool.or_false]
      exact serving.pending

theorem next_eq {run : CallRun State} {cycle : Cycle}
    (busy : run.system.coordinator.activity = .reading cycle)
    (script : LoadScript State) :
    let asked := run.system.run answers (script.before.map LoadAct.event)
    let told := run.system.run answers (script.acts.map LoadAct.event)
    let read := Read.of (answers asked.store) cycle.awaits
    run.next answers script =
      { system :=
          { told with coordinator := (told.coordinator.read read).1 }
        reply := some (told.coordinator.read read).2
        loads :=
          run.loads ++
            [{ script := script
               store := asked.store
               category := cycle.awaits }] } := by
  intro asked told read
  have both : told = asked.run answers (script.after.map LoadAct.event) := by
    rw [← RefreshSystem.run_append, ← List.map_append]
    rfl
  have awaited : asked.ask answers = some read :=
    Coordinator.ask_of_reading
      (RefreshSystem.activity_run_acts answers run.system script.before busy) _
  rw [CallRun.next, awaited, both]
  rfl

theorem next_loads {run : CallRun State} {cycle : Cycle}
    (busy : run.system.coordinator.activity = .reading cycle)
    (script : LoadScript State) :
    let asked := run.system.run answers (script.before.map LoadAct.event)
    run.Loads answers script
      { script := script, store := asked.store, category := cycle.awaits }
      (run.next answers script) where
  script_eq := rfl
  loads := by rw [next_eq busy script]
  rests := by
    intro unacted
    obtain ⟨noneBefore, noneAfter⟩ := List.append_eq_nil_iff.mp unacted
    rw [next_eq busy script, unacted, noneBefore]
    exact ⟨rfl, rfl⟩

end CallRun

/-! ## What the answer of a load call leads to -/

/-- A load call whose script is done: the coordinator `told` holds what was
noted in it, and from there it takes the answer in. -/
structure CallRun.Heard {State : Type} (answers : State → Reading)
    (settings : ResolverSettings) (first : Snapshot)
    (served : List (ServedCycle answers)) (unfinished : List (Load State))
    (load : Load State) (told : Coordinator) (after : CallRun State) :
    Prop where
  loads : after.loads =
    served.flatMap ServedCycle.loads ++ (unfinished ++ [load])
  reply : after.reply = some (told.read (load.read answers)).2
  taken : after.system.coordinator = (told.read (load.read answers)).1
  follows :
    told.Follows settings first (served.map ServedCycle.cycle)
      (unfinished.map (Load.read answers))
  /-- The flag holds every request since the cycle began, those of this load
  call included. -/
  pending : told.pending = isRequestedIn (unfinished ++ [load])
  requested : ∀ cycle ∈ served, cycle.isRequested = true

namespace CallRun

variable {State : Type} {answers : State → Reading}
  {settings : ResolverSettings} {first : Snapshot}
  {served : List (ServedCycle answers)} {unfinished : List (Load State)}

theorem Serving.heard {run : CallRun State} {cycle : Cycle}
    (serving : run.Serving answers settings first served unfinished)
    (busy : run.system.coordinator.activity = .reading cycle)
    (script : LoadScript State) :
    let asked := run.system.run answers (script.before.map LoadAct.event)
    let told := run.system.run answers (script.acts.map LoadAct.event)
    Heard answers settings first served unfinished
      { script := script, store := asked.store, category := cycle.awaits }
      told.coordinator (run.next answers script) := by
  obtain ⟨_, follows, pending⟩ := serving.run_acts script.acts
  exact
    { loads := by
        rw [(next_loads busy script).loads, serving.loads, List.append_assoc]
      reply := by
        rw [next_eq busy script]
        rfl
      taken := by
        rw [next_eq busy script]
        rfl
      follows := follows
      pending := by
        rw [pending]
        simp [isRequestedIn, LoadScript.isRequested]
      requested := serving.requested }

section Answer

variable {load : Load State} {told : Coordinator} {after : CallRun State}
  {last : ServedCycle answers} {loop : RefreshLoop}

theorem Heard.goes_on {next : Cycle}
    (heard : Heard answers settings first served unfinished load told after)
    (goesOn : told.read (load.read answers) =
      ({ told with activity := .reading next }, .reading))
    (still : (told.read (load.read answers)).1.Follows settings first
      (served.map ServedCycle.cycle)
      (unfinished.map (Load.read answers) ++ [load.read answers])) :
    after.Serving answers settings first served (unfinished ++ [load]) := by
  rw [← heard.taken] at still
  have coordinator : after.system.coordinator =
      { told with activity := .reading next } :=
    heard.taken.trans (congrArg Prod.fst goesOn)
  exact
    { loads := heard.loads
      reply := heard.reply.trans (congrArg some (congrArg Prod.snd goesOn))
      follows := by rw [List.map_append]; exact still
      busy := ⟨next, congrArg Coordinator.activity coordinator⟩
      pending :=
        (congrArg Coordinator.pending coordinator).trans heard.pending
      requested := heard.requested }

theorem Heard.loads_served
    (heard : Heard answers settings first served unfinished load told after)
    (made : last.loads = unfinished ++ [load]) :
    after.loads = (served ++ [last]).flatMap ServedCycle.loads := by
  rw [heard.loads, ← made]
  simp

theorem Heard.begins_another
    (heard : Heard answers settings first served unfinished load told after)
    (made : last.loads = unfinished ++ [load])
    (ends : told.EndsCycle settings loop last.cycle
      (told.read (load.read answers)).1 (told.read (load.read answers)).2)
    (still : (told.read (load.read answers)).1.Follows settings first
      (served.map ServedCycle.cycle ++ [last.cycle]) [])
    (noted : told.pending = true) :
    after.Serving answers settings first (served ++ [last]) [] := by
  rw [← heard.taken] at ends still
  have activity := ends.activity
  rw [noted, if_pos rfl] at activity
  have requested : last.isRequested = true := by
    rw [ServedCycle.isRequested, made, ← heard.pending, noted]
  exact
    { loads := by rw [heard.loads_served made, List.append_nil]
      reply := heard.reply.trans (congrArg some activity.2)
      follows := by rw [List.map_append]; exact still
      busy := ⟨_, activity.1⟩
      pending := ends.pending
      requested :=
        List.forall_mem_append.mpr
          ⟨heard.requested, List.forall_mem_singleton.mpr requested⟩ }

theorem Heard.returns
    (heard : Heard answers settings first served unfinished load told after)
    (made : last.loads = unfinished ++ [load])
    (ends : told.EndsCycle settings loop last.cycle
      (told.read (load.read answers)).1 (told.read (load.read answers)).2)
    (still : (told.read (load.read answers)).1.Follows settings first
      (served.map ServedCycle.cycle ++ [last.cycle]) [])
    (unnoted : told.pending = false) :
    after.Returned answers settings first served last := by
  rw [← heard.taken] at ends still
  have activity := ends.activity
  rw [unnoted, if_neg Bool.false_ne_true, heard.follows.published] at activity
  exact
    { loads := heard.loads_served made
      reply := heard.reply.trans (congrArg some activity.2)
      published := by rw [List.map_append]; exact still.published
      idle := activity.1
      pending := ends.pending
      requested := heard.requested
      unrequested := by
        rw [ServedCycle.isRequested, made, ← heard.pending, unnoted] }

end Answer

/-- The load call that a running call makes next, and what it leads to. -/
theorem Serving.next {run : CallRun State}
    (serving : run.Serving answers settings first served unfinished)
    (script : LoadScript State) :
    ∃ load : Load State,
      run.Loads answers script load (run.next answers script) ∧
      ((run.next answers script).Serving answers settings first served
          (unfinished ++ [load]) ∨
        ∃ last : ServedCycle answers,
          last.loads = unfinished ++ [load] ∧
          ((run.next answers script).Serving answers settings first
              (served ++ [last]) [] ∨
            (run.next answers script).Returned answers settings first served
              last)) := by
  obtain ⟨cycle, busy⟩ := serving.busy
  let asked := run.system.run answers (script.before.map LoadAct.event)
  let told := run.system.run answers (script.acts.map LoadAct.event)
  let load : Load State :=
    { script := script, store := asked.store, category := cycle.awaits }
  have heard : Heard answers settings first served unfinished load
      told.coordinator (run.next answers script) := serving.heard busy script
  have toldBusy : told.coordinator.activity = .reading cycle :=
    RefreshSystem.activity_run_acts answers run.system script.acts busy
  have awaited : (load.read answers).category = cycle.awaits := rfl
  refine ⟨load, next_loads busy script, ?_⟩
  rcases Coordinator.read_cases heard.follows toldBusy awaited
    with ⟨next, goesOn, still⟩ | ⟨finished, made, ends, still⟩
  · exact Or.inl (heard.goes_on goesOn still)
  · right
    let last : ServedCycle answers :=
      { cycle := finished
        loads := unfinished ++ [load]
        reads_eq := by
          rw [List.map_append, made]
          rfl }
    refine ⟨last, rfl, ?_⟩
    cases noted : told.coordinator.pending with
    | true => exact Or.inl (heard.begins_another rfl ends still noted)
    | false => exact Or.inr (heard.returns rfl ends still noted)

end CallRun

/-! ## The scripts of the load calls -/

/-- The load calls made so far have followed the scripts. -/
structure CallRun.Made {State : Type} (scripts : Nat → LoadScript State)
    (count : Nat) (run : CallRun State) : Prop where
  scripts_eq : run.loads.map Load.script = (List.range count).map scripts
  /-- Since the last act the store has stood still. -/
  rests : ∀ earlier later, run.loads = earlier ++ later →
    (∀ load ∈ later, load.script.acts = []) →
    ∀ load ∈ later, load.store = run.system.store

namespace CallRun

variable {State : Type} {answers : State → Reading}
  {scripts : Nat → LoadScript State} {count : Nat}

theorem made_start (system : RefreshSystem State) (call : RefreshCall) :
    (start answers system call).Made scripts 0 where
  scripts_eq := rfl
  rests := by
    intro earlier later split _ load member
    have none : later = [] := (List.append_eq_nil_iff.mp split.symm).2
    rw [none] at member
    cases member

theorem Made.length_eq {run : CallRun State} (made : run.Made scripts count) :
    run.loads.length = count := by
  have lengths := congrArg List.length made.scripts_eq
  simpa using lengths

theorem Made.next {run after : CallRun State} {load : Load State}
    (made : run.Made scripts count)
    (step : run.Loads answers (scripts count) load after) :
    after.Made scripts (count + 1) := by
  constructor
  · rw [step.loads, List.map_append, made.scripts_eq, List.range_succ,
      List.map_append]
    simp [step.script_eq]
  · intro earlier later split unacted other member
    rw [step.loads] at split
    rcases List.eq_nil_or_concat later with rfl | ⟨front, back, rfl⟩
    · cases member
    · -- the new load call is without acts, so what holds of the calls before it
      -- holds of the store as it is now
      rw [List.concat_eq_append, ← List.append_assoc] at split
      obtain ⟨frontSplit, backSplit⟩ := List.append_inj' split rfl
      have same : load = back := List.head_eq_of_cons_eq backSplit
      subst same
      have rested : (scripts count).acts = [] := by
        rw [← step.script_eq]
        exact unacted load (by simp)
      obtain ⟨answered, left⟩ := step.rests rested
      rw [List.concat_eq_append] at member
      rcases List.mem_append.mp member with member | member
      · have before := made.rests earlier front frontSplit
          (fun other member => unacted other (by simp [member])) other member
        rw [before, left]
      · rw [List.mem_singleton.mp member, answered, left]

end CallRun

end GatewayPolicy
