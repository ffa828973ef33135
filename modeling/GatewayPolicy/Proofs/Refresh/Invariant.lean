import GatewayPolicy.Proofs.Refresh.Reads
import GatewayPolicy.Refresh.Coordinator

/-!
# The invariant of a coordinator

`Coordinator.Follows` ties a coordinator to the reads that were made for it:
the published snapshot is what its finished cycles have published, one after
the other, and the running cycle has made of its reads what it should.  A call
keeps the invariant as it is, and `Coordinator.read_cases` says all that a read
can do to it.
-/

set_option autoImplicit false

namespace GatewayPolicy

/-! ## What calls and reads do -/

def RefreshCall.loop : RefreshCall → RefreshLoop
  | refresh => .refresh
  | request => .request none

namespace Coordinator

theorem idle_of_free {coordinator : Coordinator}
    (free : coordinator.isRefreshing = false) :
    coordinator.activity = .idle := by
  cases activity : coordinator.activity with
  | idle => rfl
  | reading cycle => simp [isRefreshing, activity] at free

theorem call_of_idle {coordinator : Coordinator}
    (idle : coordinator.activity = .idle) (call : RefreshCall) :
    coordinator.call call = coordinator.beginCycle call.loop := by
  cases call with
  | refresh => simp only [Coordinator.call, refresh, idle, RefreshCall.loop]
  | request =>
      simp only [Coordinator.call, requestRefresh, idle]
      rfl

theorem request_of_reading {coordinator : Coordinator} {cycle : Cycle}
    (busy : coordinator.activity = .reading cycle) :
    coordinator.call .request = (coordinator.note, .returned none) := by
  simp only [Coordinator.call, requestRefresh, busy]

/-- All that a call can do: begin a cycle, wait, or note a request. -/
theorem call_cases (coordinator : Coordinator) (call : RefreshCall) :
    (coordinator.activity = .idle ∧
      coordinator.call call = coordinator.beginCycle call.loop) ∨
    (∃ cycle, coordinator.activity = .reading cycle ∧ call = .refresh ∧
      coordinator.call call = (coordinator, .waiting)) ∨
    (∃ cycle, coordinator.activity = .reading cycle ∧ call = .request ∧
      coordinator.call call = (coordinator.note, .returned none)) := by
  cases activity : coordinator.activity with
  | idle => exact Or.inl ⟨rfl, call_of_idle activity call⟩
  | reading cycle =>
      cases call with
      | refresh =>
          refine Or.inr (Or.inl ⟨cycle, rfl, rfl, ?_⟩)
          simp only [Coordinator.call, refresh, activity]
      | request =>
          exact Or.inr (Or.inr ⟨cycle, rfl, rfl, request_of_reading activity⟩)

/-- The loops of both calls go on alike: with one more cycle if a request was
noted, and else by giving the lock back with the report of the last cycle.
Their second look at the flag, after the lock is free, finds what the first one
found. -/
theorem resume_eq (coordinator : Coordinator) (report : RefreshReport)
    (loop : RefreshLoop) :
    coordinator.resume report loop =
      if coordinator.pending then coordinator.beginCycle loop
      else (coordinator.unlock, .returned (some report)) := by
  cases loop with
  | refresh =>
      cases pending : coordinator.pending <;>
        simp [resume, refreshLoop, unlock, pending]
  | request refreshed =>
      cases pending : coordinator.pending <;>
        simp [resume, requestLoop, unlock, pending]

theorem resume_of_pending {coordinator : Coordinator}
    (pending : coordinator.pending = true) (report : RefreshReport)
    (loop : RefreshLoop) :
    coordinator.resume report loop = coordinator.beginCycle loop := by
  rw [resume_eq, pending, if_pos rfl]

theorem resume_of_not_pending {coordinator : Coordinator}
    (pending : coordinator.pending = false) (report : RefreshReport)
    (loop : RefreshLoop) :
    coordinator.resume report loop =
      (coordinator.unlock, .returned (some report)) := by
  rw [resume_eq, pending, if_neg Bool.false_ne_true]

theorem ask_of_reading {coordinator : Coordinator} {cycle : Cycle}
    (busy : coordinator.activity = .reading cycle) (reading : Reading) :
    coordinator.ask reading = some (.of reading cycle.awaits) := by
  simp only [ask, busy]

theorem ask_of_idle {coordinator : Coordinator}
    (idle : coordinator.activity = .idle) (reading : Reading) :
    coordinator.ask reading = none := by
  simp only [ask, idle]

theorem read_of_ongoing {coordinator : Coordinator} {read : Read}
    {cycle next : Cycle} (busy : coordinator.activity = .reading cycle)
    (advanced : cycle.advance coordinator.settings read = .ongoing next) :
    coordinator.read read =
      ({ coordinator with activity := .reading next }, .reading) := by
  simp only [Coordinator.read, busy, advanced]

theorem read_of_lastStep {coordinator : Coordinator} {read : Read}
    {cycle : Cycle} {last : FinishedCycle}
    (busy : coordinator.activity = .reading cycle)
    (advanced : cycle.advance coordinator.settings read =
      last.lastStep coordinator.settings coordinator.snapshot) :
    coordinator.read read =
      (coordinator.publish
          (last.publish coordinator.settings coordinator.snapshot)).resume
        (last.report coordinator.settings coordinator.snapshot) cycle.loop := by
  cases last with
  | completed reads =>
      simp only [Coordinator.read, busy, advanced, FinishedCycle.lastStep]
  | abandoned fault =>
      simp only [Coordinator.read, busy, advanced, FinishedCycle.lastStep]
      rfl

end Coordinator

/-! ## The invariant -/

def publishAll (settings : ResolverSettings) (first : Snapshot)
    (cycles : List FinishedCycle) : Snapshot :=
  cycles.foldl (FinishedCycle.publish settings) first

theorem publishAll_append_singleton (settings : ResolverSettings)
    (first : Snapshot) (cycles : List FinishedCycle) (cycle : FinishedCycle) :
    publishAll settings first (cycles ++ [cycle]) =
      cycle.publish settings (publishAll settings first cycles) := by
  simp [publishAll]

/-- The activity of a coordinator that publishes `published` and has made the
reads of the running cycle. -/
def Activity.MadeOf (settings : ResolverSettings) (published : Snapshot)
    (reads : List Read) : Activity → Prop
  | .idle => reads = []
  | .reading cycle =>
      cycle.previous = published.generation ∧
        cycle.progress.MadeOf settings reads

/-- The coordinator has finished the cycles, which began when `first` was
published, and has made the unfinished reads since. -/
structure Coordinator.Follows (settings : ResolverSettings) (first : Snapshot)
    (finished : List FinishedCycle) (unfinished : List Read)
    (coordinator : Coordinator) : Prop where
  configured : coordinator.settings = settings
  published : coordinator.snapshot = publishAll settings first finished
  activity : coordinator.activity.MadeOf settings coordinator.snapshot unfinished

namespace Coordinator.Follows

variable {settings : ResolverSettings} {first : Snapshot}
  {finished : List FinishedCycle} {unfinished : List Read}
  {coordinator : Coordinator}

theorem new (settings : ResolverSettings) :
    (Coordinator.new settings).Follows settings .empty [] [] :=
  { configured := rfl, published := rfl, activity := rfl }

theorem of_idle (idle : coordinator.activity = .idle) :
    coordinator.Follows coordinator.settings coordinator.snapshot [] [] :=
  { configured := rfl
    published := rfl
    activity := by rw [idle]; rfl }

theorem exists_progress
    (follows : coordinator.Follows settings first finished unfinished) :
    ∃ progress : Progress, progress.MadeOf settings unfinished := by
  have made := follows.activity
  cases activity : coordinator.activity with
  | idle =>
      rw [activity] at made
      have none : unfinished = [] := made
      exact ⟨.start, none ▸ .start⟩
  | reading cycle =>
      rw [activity] at made
      exact ⟨cycle.progress, made.2⟩

theorem unfinished_of_idle
    (follows : coordinator.Follows settings first finished unfinished)
    (idle : coordinator.activity = .idle) : unfinished = [] := by
  have made := follows.activity
  rw [idle] at made
  exact made

theorem note
    (follows : coordinator.Follows settings first finished unfinished) :
    coordinator.note.Follows settings first finished unfinished :=
  { configured := follows.configured
    published := follows.published
    activity := follows.activity }

theorem beginCycle
    (follows : coordinator.Follows settings first finished unfinished)
    (loop : RefreshLoop) :
    (coordinator.beginCycle loop).1.Follows settings first finished [] :=
  { configured := follows.configured
    published := follows.published
    activity := ⟨rfl, .start⟩ }

theorem call
    (follows : coordinator.Follows settings first finished unfinished)
    (call : RefreshCall) :
    (coordinator.call call).1.Follows settings first finished unfinished := by
  rcases coordinator.call_cases call with
    ⟨idle, step⟩ | ⟨cycle, busy, _, step⟩ | ⟨cycle, busy, _, step⟩
  · rw [step, follows.unfinished_of_idle idle]
    exact follows.beginCycle _
  · rw [step]
    exact follows
  · rw [step]
    exact follows.note

end Coordinator.Follows

structure Coordinator.EndsCycle (settings : ResolverSettings)
    (before : Coordinator) (loop : RefreshLoop) (cycle : FinishedCycle)
    (after : Coordinator) (reply : Reply) : Prop where
  published : after.snapshot = cycle.publish settings before.snapshot
  pending : after.pending = false
  /-- A noted request costs one more cycle, and nothing else does. -/
  activity :
    if before.pending then
      after.activity = .reading (.start loop after.snapshot.generation) ∧
        reply = .reading
    else
      after.activity = .idle ∧
        reply = .returned (some (cycle.report settings before.snapshot))

/-- All that a read of a running cycle can do: it is taken in and changes
nothing else, or it is the last one of the cycle. -/
theorem Coordinator.read_cases {settings : ResolverSettings}
    {first : Snapshot} {finished : List FinishedCycle}
    {unfinished : List Read} {coordinator : Coordinator} {cycle : Cycle}
    {read : Read}
    (follows : coordinator.Follows settings first finished unfinished)
    (busy : coordinator.activity = .reading cycle)
    (awaited : read.category = cycle.awaits) :
    (∃ next : Cycle,
      coordinator.read read =
        ({ coordinator with activity := .reading next }, .reading) ∧
      (coordinator.read read).1.Follows settings first finished
        (unfinished ++ [read])) ∨
    (∃ last : FinishedCycle,
      last.reads = unfinished ++ [read] ∧
      coordinator.EndsCycle settings cycle.loop last (coordinator.read read).1
        (coordinator.read read).2 ∧
      (coordinator.read read).1.Follows settings first (finished ++ [last])
        []) := by
  have made := follows.activity
  have configured := follows.configured
  subst configured
  rw [busy] at made
  obtain ⟨began, made⟩ := made
  rcases cycle.advance_cases awaited began made with
    ⟨next, advanced, nextBegan, nextMade⟩ | ⟨last, advanced, lastReads⟩
  · left
    have step := Coordinator.read_of_ongoing busy advanced
    refine ⟨next, step, ?_⟩
    rw [step]
    exact
      { configured := rfl
        published := follows.published
        activity := ⟨nextBegan, nextMade⟩ }
  · right
    let snapshot := last.publish coordinator.settings coordinator.snapshot
    have published :
        snapshot = publishAll coordinator.settings first (finished ++ [last]) := by
      rw [publishAll_append_singleton, ← follows.published]
    rw [Coordinator.read_of_lastStep busy advanced]
    refine ⟨last, lastReads, ?_⟩
    cases pending : coordinator.pending with
    | true =>
        have noted : (coordinator.publish snapshot).pending = true := pending
        rw [Coordinator.resume_of_pending noted]
        refine ⟨⟨rfl, rfl, ?_⟩, rfl, published, rfl, .start⟩
        rw [pending]
        exact ⟨rfl, rfl⟩
    | false =>
        have unnoted : (coordinator.publish snapshot).pending = false := pending
        rw [Coordinator.resume_of_not_pending unnoted]
        refine ⟨⟨rfl, pending, ?_⟩, rfl, published, rfl⟩
        rw [pending]
        exact ⟨rfl, rfl⟩

end GatewayPolicy
