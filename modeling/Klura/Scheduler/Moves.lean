import Klura.Scheduler.Queue
import Mathlib.Tactic.Linarith

/-! What one event does to the state of one origin. -/

namespace Klura

namespace OriginEntryV1

/-- The entry of a known origin under one more policy. -/
def under (entry : OriginEntryV1) (merged : OriginSchedulerTrafficPolicyV1) : OriginEntryV1 :=
  { entry with policy := merged, tokens := min entry.tokens merged.burst }

/-- The entry once a request has been queued and the queue served. -/
def serve (entry : OriginEntryV1) (queued : QueuedAdmissionV1) (aborted : List Nat)
    (clock : DrainClockV1) : OriginEntryV1 :=
  ((entry.enqueue queued).note .queued).drain aborted clock

/-- The entry without a permit that was released. -/
def free (entry : OriginEntryV1) (id : Nat) : OriginEntryV1 :=
  { entry with active := entry.active - 1, permits := entry.permits.erase id }

end OriginEntryV1

/-- What an event makes of the state of an origin, which it may meet for the first time. -/
inductive EntryMove (before after : OriginSchedulerV1) :
    SchedulerEventV1 → String → Option OriginEntryV1 → OriginEntryV1 → Prop where
  | meets {policy : OriginSchedulerTrafficPolicyV1} {signal : Option Nat}
      {workloadId : Option String} {workload : String} {entryMs : ℚ} {clock : DrainClockV1}
      (named : parseWorkloadId workloadId = .ok workload) (starts : before.clockMs ≤ entryMs)
      (follows : clock.Follows entryMs) (ends : after.clockMs = clock.waitMs)
      (counted : after.nextId = before.nextId + 1)
      (wanted : ¬ signal.any (· ∈ before.aborted) = true) :
      EntryMove before after (.acquire policy signal workloadId entryMs clock) policy.origin none
        ((OriginSchedulerV1.newEntry policy (before.recovered.get? policy.origin) entryMs).serve
          ⟨before.nextId, signal, workload⟩ before.aborted clock)
  | joins {policy merged : OriginSchedulerTrafficPolicyV1} {signal : Option Nat}
      {workloadId : Option String} {workload : String} {entryMs : ℚ} {clock : DrainClockV1}
      {entry : OriginEntryV1} (named : parseWorkloadId workloadId = .ok workload)
      (starts : before.clockMs ≤ entryMs) (follows : clock.Follows entryMs)
      (ends : after.clockMs = clock.waitMs) (counted : after.nextId = before.nextId + 1)
      (wanted : ¬ signal.any (· ∈ before.aborted) = true)
      (merges : mergeConservatively entry.policy policy = .ok merged) :
      EntryMove before after (.acquire policy signal workloadId entryMs clock) policy.origin
        (some entry)
        ((entry.under merged).serve ⟨before.nextId, signal, workload⟩ before.aborted clock)
  | throws {origin : String} {id : Nat} {completion : SchedulerCompletionV1}
      {write : PersistWriteV1} {completedMs persistedMs : ℚ} {clock : DrainClockV1}
      {entry : OriginEntryV1} (held : id ∈ entry.permits) (starts : before.clockMs ≤ completedMs)
      (writes : before.statePath = true ∧ write ≠ .succeeds) :
      EntryMove before after (.release origin id completion write completedMs persistedMs clock)
        origin (some entry) ((entry.free id).recordCompletion completion completedMs)
  | releases {origin : String} {id : Nat} {completion : SchedulerCompletionV1}
      {write : PersistWriteV1} {completedMs persistedMs : ℚ} {clock : DrainClockV1}
      {entry : OriginEntryV1} (held : id ∈ entry.permits) (starts : before.clockMs ≤ completedMs)
      (ordered : completedMs ≤ persistedMs) (follows : clock.Follows persistedMs)
      (ends : after.clockMs = clock.waitMs)
      (returns : ¬ (before.statePath = true ∧ write ≠ .succeeds)) :
      EntryMove before after (.release origin id completion write completedMs persistedMs clock)
        origin (some entry)
        (((entry.free id).recordCompletion completion completedMs).drain before.aborted clock)
  | leaves {origin : String} {queued : QueuedAdmissionV1} {entry : OriginEntryV1}
      (waits : queued ∈ entry.queuedAdmissions) (gone : queued.aborted before.aborted = true) :
      EntryMove before after (.abortQueued origin queued) origin (some entry)
        (entry.rejectQueued .cancelled queued)
  | wakes {origin : String} {clock : DrainClockV1} {entry : OriginEntryV1}
      (armed : entry.timer = true) (follows : clock.Follows before.clockMs)
      (ends : after.clockMs = clock.waitMs) :
      EntryMove before after (.timer origin clock) origin (some entry)
        ({ entry with timer := false }.drain before.aborted clock)

/-- What an event changes besides the state of one origin. -/
structure SchedulerKept (before after : OriginSchedulerV1) : Prop where
  clock : before.clockMs ≤ after.clockMs
  ids : before.nextId ≤ after.nextId
  aborted : ∀ signal ∈ before.aborted, signal ∈ after.aborted

theorem SchedulerKept.refl (scheduler : OriginSchedulerV1) : SchedulerKept scheduler scheduler :=
  ⟨le_refl _, le_refl _, fun _ member => member⟩

variable {clock : DrainClockV1}

theorem DrainClockV1.Follows.le {lastMs : ℚ} (follows : clock.Follows lastMs) :
    lastMs ≤ clock.waitMs :=
  follows.1.trans (follows.2.1.trans follows.2.2)

theorem DrainClockV1.Follows.now_le {lastMs : ℚ} (follows : clock.Follows lastMs) :
    clock.nowMs ≤ clock.waitMs :=
  follows.2.1.trans follows.2.2

variable {entries : OrderedMap String OriginEntryV1} {origin : String} {entry found : OriginEntryV1}

theorem get?_set_cases {other : String} (has : (entries.set origin entry).get? other = some found) :
    other = origin ∧ found = entry ∨ other ≠ origin ∧ entries.get? other = some found := by
  by_cases same : other = origin
  · subst same
    rw [OrderedMap.get?_set_self, Option.some.injEq] at has
    exact .inl ⟨rfl, has.symm⟩
  · rw [OrderedMap.get?_set_of_ne _ _ same] at has
    exact .inr ⟨same, has⟩

theorem get?_set_set_cases {other : String} {first : OriginEntryV1}
    (has : ((entries.set origin first).set origin entry).get? other = some found) :
    other = origin ∧ found = entry ∨ other ≠ origin ∧ entries.get? other = some found := by
  rcases get?_set_cases has with same | ⟨differs, older⟩
  · exact .inl same
  · rw [OrderedMap.get?_set_of_ne _ _ differs] at older
    exact .inr ⟨differs, older⟩

/-- What an event does to the scheduler, seen from any origin. -/
def StepMoves (before after : OriginSchedulerV1) (event : SchedulerEventV1) : Prop :=
  SchedulerKept before after ∧ ∀ origin entry, after.entries.get? origin = some entry →
    before.entries.get? origin = some entry ∨
      EntryMove before after event origin (before.entries.get? origin) entry

variable {scheduler : OriginSchedulerV1}

variable {event : SchedulerEventV1}

theorem StepMoves.same :
    StepMoves scheduler scheduler event :=
  ⟨.refl scheduler, fun _ _ has => .inl has⟩

/-- An acquisition moves the origin of its policy. -/
theorem acquire_moves {policy : OriginSchedulerTrafficPolicyV1} {signal : Option Nat}
    {workloadId : Option String} {entryMs : ℚ} (starts : scheduler.clockMs ≤ entryMs)
    (follows : clock.Follows entryMs) :
    StepMoves scheduler (scheduler.acquire policy signal workloadId entryMs clock)
      (.acquire policy signal workloadId entryMs clock) := by
  unfold OriginSchedulerV1.acquire
  by_cases gone : signal.any (· ∈ scheduler.aborted)
  · rw [if_pos gone]
    exact .same
  · rw [if_neg gone]
    have later : scheduler.clockMs ≤ clock.waitMs := starts.trans follows.le
    cases named : parseWorkloadId workloadId with
    | error failure => exact .same
    | ok workload =>
      cases known : scheduler.entries.get? policy.origin with
      | none =>
        simp only [OriginSchedulerV1.getEntry, known, pure, Except.pure]
        refine ⟨⟨later, Nat.le_succ _, fun _ member => member⟩, fun origin entry has => ?_⟩
        rcases get?_set_set_cases has with ⟨rfl, rfl⟩ | ⟨_, older⟩
        · rw [known]
          exact .inr (.meets named starts follows rfl rfl gone)
        · exact .inl older
      | some existing =>
        cases merges : mergeConservatively existing.policy policy with
        | error failure =>
          simp only [OriginSchedulerV1.getEntry, known, merges, bind, Except.bind]
          exact .same
        | ok merged =>
          simp only [OriginSchedulerV1.getEntry, known, merges, bind, Except.bind, pure,
            Except.pure]
          refine ⟨⟨later, Nat.le_succ _, fun _ member => member⟩, fun origin entry has => ?_⟩
          rcases get?_set_set_cases has with ⟨rfl, rfl⟩ | ⟨_, older⟩
          · rw [known]
            exact .inr (.joins named starts follows rfl rfl gone merges)
          · exact .inl older

/-- A release moves the origin of its permit. -/
theorem release_moves {id : Nat} {completion : SchedulerCompletionV1} {write : PersistWriteV1}
    {completedMs persistedMs : ℚ} (starts : scheduler.clockMs ≤ completedMs)
    (ordered : completedMs ≤ persistedMs) (follows : clock.Follows persistedMs) :
    StepMoves scheduler
      (scheduler.release origin id completion write completedMs persistedMs clock)
      (.release origin id completion write completedMs persistedMs clock) := by
  have later : scheduler.clockMs ≤ clock.waitMs := (starts.trans ordered).trans follows.le
  cases known : scheduler.entries.get? origin with
  | none =>
    simp only [OriginSchedulerV1.release, known]
    exact .same
  | some entry =>
    by_cases held : id ∈ entry.permits
    · simp only [OriginSchedulerV1.release, known, held, if_true]
      -- Whether the write returns decides whether the queue is served.
      by_cases path : scheduler.statePath = false
      · simp only [OriginSchedulerV1.persist, OriginSchedulerV1.setEntry, path, if_true]
        refine ⟨⟨later, Nat.le_refl _, fun _ member => member⟩, fun other found has => ?_⟩
        rcases get?_set_set_cases has with ⟨rfl, rfl⟩ | ⟨_, older⟩
        · rw [known]
          exact .inr (.releases held starts ordered follows rfl (by simp [path]))
        · exact .inl older
      · have file : scheduler.statePath = true := by simpa using path
        cases write with
        | succeeds =>
          simp only [OriginSchedulerV1.persist, OriginSchedulerV1.setEntry, path]
          refine ⟨⟨later, Nat.le_refl _, fun _ member => member⟩, fun other found has => ?_⟩
          rcases get?_set_set_cases has with ⟨rfl, rfl⟩ | ⟨_, older⟩
          · rw [known]
            exact .inr (.releases held starts ordered follows rfl (by simp))
          · exact .inl older
        | failsBeforeRename =>
          simp only [OriginSchedulerV1.persist, OriginSchedulerV1.setEntry, path]
          refine ⟨⟨later, Nat.le_refl _, fun _ member => member⟩, fun other found has => ?_⟩
          rcases get?_set_cases has with ⟨rfl, rfl⟩ | ⟨_, older⟩
          · rw [known]
            exact .inr (.throws held starts ⟨file, by simp⟩)
          · exact .inl older
        | failsAfterRename =>
          simp only [OriginSchedulerV1.persist, OriginSchedulerV1.setEntry, path]
          refine ⟨⟨later, Nat.le_refl _, fun _ member => member⟩, fun other found has => ?_⟩
          rcases get?_set_cases has with ⟨rfl, rfl⟩ | ⟨_, older⟩
          · rw [known]
            exact .inr (.throws held starts ⟨file, by simp⟩)
          · exact .inl older
    · simp only [OriginSchedulerV1.release, known, held, if_false]
      exact .same

/-- Every event moves at most one origin, in one of six ways. -/
theorem schedulerStep_moves {before after : OriginSchedulerV1}
    (stepped : schedulerStep before event = some after) : StepMoves before after event := by
  cases event with
  | acquire policy signal workloadId entryMs clock =>
    simp only [schedulerStep, Option.ite_none_right_eq_some, Option.some.injEq] at stepped
    obtain ⟨⟨starts, follows⟩, rfl⟩ := stepped
    exact acquire_moves starts follows
  | release origin id completion write completedMs persistedMs clock =>
    simp only [schedulerStep, Option.ite_none_right_eq_some, Option.some.injEq] at stepped
    obtain ⟨⟨starts, ordered, follows⟩, rfl⟩ := stepped
    exact release_moves starts ordered follows
  | abortSignal signal =>
    simp only [schedulerStep, Option.some.injEq] at stepped
    subst stepped
    exact ⟨⟨le_refl _, Nat.le_refl _, fun _ member => List.mem_cons_of_mem _ member⟩,
      fun _ _ has => .inl has⟩
  | abortQueued origin queued =>
    simp only [schedulerStep, Option.some.injEq] at stepped
    subst stepped
    cases known : before.entries.get? origin with
    | none =>
      simp only [OriginSchedulerV1.abortQueued, known]
      exact .same
    | some entry =>
      by_cases waits : queued ∈ entry.queuedAdmissions ∧ queued.aborted before.aborted = true
      · simp only [OriginSchedulerV1.abortQueued, known, if_pos waits]
        refine ⟨⟨le_refl _, Nat.le_refl _, fun _ member => member⟩, fun other found has => ?_⟩
        rcases get?_set_cases has with ⟨rfl, rfl⟩ | ⟨_, older⟩
        · rw [known]
          exact .inr (.leaves waits.1 waits.2)
        · exact .inl older
      · simp only [OriginSchedulerV1.abortQueued, known, if_neg waits]
        exact .same
  | timer origin clock =>
    simp only [schedulerStep, Option.ite_none_right_eq_some, Option.some.injEq] at stepped
    obtain ⟨follows, rfl⟩ := stepped
    cases known : before.entries.get? origin with
    | none =>
      simp only [OriginSchedulerV1.wake, known]
      exact .same
    | some entry =>
      by_cases armed : entry.timer = true
      · simp only [OriginSchedulerV1.wake, known, armed, if_true]
        refine ⟨⟨follows.le, Nat.le_refl _, fun _ member => member⟩, fun other found has => ?_⟩
        rcases get?_set_cases has with ⟨rfl, rfl⟩ | ⟨_, older⟩
        · rw [known]
          exact .inr (.wakes armed follows rfl)
        · exact .inl older
      · simp only [OriginSchedulerV1.wake, known, armed]
        exact .same

theorem originScheduler_invariant {allowed : OriginSchedulerV1 → SchedulerEventV1 → Prop}
    {property : OriginSchedulerV1 → OriginEntryV1 → Prop}
    (still : ∀ before after entry, SchedulerKept before after → property before entry →
      property after entry)
    (moves : ∀ before after event origin old entry, allowed before event →
      SchedulerKept before after → EntryMove before after event origin old entry →
        before.entries.get? origin = old → (∀ known, old = some known → property before known) →
          property after entry)
    {scheduler : OriginSchedulerV1} (reached : originScheduler.Reaches allowed scheduler)
    {origin : String} {entry : OriginEntryV1}
    (has : scheduler.entries.get? origin = some entry) : property scheduler entry := by
  have always : ∀ origin entry, scheduler.entries.get? origin = some entry →
      property scheduler entry := by
    refine @Machine.Reaches.invariant _ _ originScheduler allowed
      (fun scheduler => ∀ origin entry, scheduler.entries.get? origin = some entry →
        property scheduler entry) ?_ ?_ _ reached
    · intro first starts origin entry has
      rw [starts.entries] at has
      cases has
    · intro before event after allows stepped keeps origin entry has
      obtain ⟨kept, moved⟩ := schedulerStep_moves stepped
      rcases moved origin entry has with same | move
      · exact still _ _ _ kept (keeps origin entry same)
      · exact moves _ _ _ _ _ _ allows kept move rfl fun known found => keeps origin known found
  exact always origin entry has

end Klura
