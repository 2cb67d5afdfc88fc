import Klura.Library.Machine
import Klura.Scheduler.Entry
import Mathlib.Tactic.NormNum

/-! The scheduler of one process, with its callers, their signals and its timers. -/

namespace Klura

/-- What a scheduler leaves on disk for one origin. -/
structure PersistedOriginStateV1 where
  circuitOpenUntil : ℚ
  transientFailures : List ℚ
  deriving DecidableEq

/-- One scheduler: its origins, what it recovered, and what it has written. -/
structure OriginSchedulerV1 where
  entries : OrderedMap String OriginEntryV1
  recovered : OrderedMap String PersistedOriginStateV1
  /-- Whether it has a file for its state. -/
  statePath : Bool
  /-- What it wrote there last. -/
  written : Option (OrderedMap String PersistedOriginStateV1)
  /-- The last reading of the clock. -/
  clockMs : ℚ
  /-- The signals that were aborted. -/
  aborted : List Nat
  /-- The identity of the next queued request. -/
  nextId : Nat

/-- How a write of the state file goes. -/
inductive PersistWriteV1 where
  | succeeds
  | failsBeforeRename
  | failsAfterRename
  deriving DecidableEq, Repr

/-- What may happen next. -/
inductive SchedulerEventV1 where
  | acquire (policy : OriginSchedulerTrafficPolicyV1) (signal : Option Nat)
      (workloadId : Option String) (entryMs : ℚ) (clock : DrainClockV1)
  | release (origin : String) (id : Nat) (completion : SchedulerCompletionV1)
      (write : PersistWriteV1) (completedMs persistedMs : ℚ) (clock : DrainClockV1)
  | abortSignal (signal : Nat)
  /-- A queued request hears that its signal was aborted. -/
  | abortQueued (origin : String) (queued : QueuedAdmissionV1)
  | timer (origin : String) (clock : DrainClockV1)

/-- The workload a request is queued for. -/
def parseWorkloadId : Option String → Except String String
  | none => .ok "foreground"
  | some value =>
    if value = "" ∨ 256 < value.utf8ByteSize then .error "must be a non-empty UTF-8 string"
    else .ok value

namespace OriginSchedulerV1

/-- The scheduler with another state of one origin. -/
def setEntry (scheduler : OriginSchedulerV1) (origin : String) (entry : OriginEntryV1) :
    OriginSchedulerV1 :=
  { scheduler with entries := scheduler.entries.set origin entry }

/-- The state of an origin that the scheduler meets for the first time. -/
def newEntry (policy : OriginSchedulerTrafficPolicyV1) (recovered : Option PersistedOriginStateV1)
    (nowMs : ℚ) : OriginEntryV1 :=
  let failures := ((recovered.map (·.transientFailures)).getD []).filter
    (nowMs - policy.circuitBreaker.transientWindowMs ≤ ·)
  let circuitOpenUntil := (recovered.map (·.circuitOpenUntil)).getD 0
  { policy := policy
    queues := []
    workloadOrder := []
    nextWorkloadIndex := 0
    active := 0
    tokens := policy.burst
    lastRefillAt := nowMs
    nextAdmissionAt := nowMs
    transientFailures := failures
    circuitOpenUntil := if nowMs < circuitOpenUntil then circuitOpenUntil else 0
    timer := false
    permits := []
    history := [] }

/-- The origin's state under one more policy, and the scheduler that keeps it. -/
def getEntry (scheduler : OriginSchedulerV1) (policy : OriginSchedulerTrafficPolicyV1)
    (nowMs : ℚ) : Except String (OriginEntryV1 × OriginSchedulerV1) :=
  match scheduler.entries.get? policy.origin with
  | some existing => do
    let merged ← mergeConservatively existing.policy policy
    let entry := { existing with policy := merged, tokens := min existing.tokens merged.burst }
    return (entry, scheduler.setEntry policy.origin entry)
  | none =>
    let recovered := scheduler.recovered.get? policy.origin
    let entry := newEntry policy recovered nowMs
    let openUntil := (recovered.map (·.circuitOpenUntil)).getD 0
    -- A state that has nothing left to say is no longer carried along.
    let kept :=
      if openUntil ≤ nowMs ∧ entry.transientFailures = [] then
        scheduler.recovered.delete policy.origin
      else scheduler.recovered
    return (entry, { scheduler with recovered := kept }.setEntry policy.origin entry)

/-- What the scheduler would write now. -/
def persistedStates (scheduler : OriginSchedulerV1) (nowMs : ℚ) :
    OrderedMap String PersistedOriginStateV1 :=
  scheduler.entries.foldl (fun states entry =>
    if nowMs < entry.2.circuitOpenUntil ∨ entry.2.transientFailures ≠ [] then
      states.set entry.1 ⟨entry.2.circuitOpenUntil, entry.2.transientFailures⟩
    else states.delete entry.1) scheduler.recovered

/-- The scheduler after a write of its state, and whether the write returned. -/
def persist (scheduler : OriginSchedulerV1) (write : PersistWriteV1) (nowMs : ℚ) :
    OriginSchedulerV1 × Bool :=
  if scheduler.statePath = false then (scheduler, true)
  else
    let saved := { scheduler with written := some (scheduler.persistedStates nowMs) }
    match write with
    | .succeeds => (saved, true)
    | .failsBeforeRename => (scheduler, false)
    | .failsAfterRename => (saved, false)

/-- A request for a permit, queued and perhaps admitted at once. -/
def acquire (scheduler : OriginSchedulerV1) (policy : OriginSchedulerTrafficPolicyV1)
    (signal : Option Nat) (workloadId : Option String) (entryMs : ℚ) (clock : DrainClockV1) :
    OriginSchedulerV1 :=
  if signal.any (· ∈ scheduler.aborted) then scheduler
  else
    match parseWorkloadId workloadId with
    | .error _ => scheduler
    | .ok workloadId =>
      match scheduler.getEntry policy entryMs with
      | .error _ => scheduler
      | .ok (entry, known) =>
        let queued : QueuedAdmissionV1 := ⟨scheduler.nextId, signal, workloadId⟩
        { known with nextId := scheduler.nextId + 1, clockMs := clock.waitMs }.setEntry
          policy.origin
          (((entry.enqueue queued).note .queued).drain scheduler.aborted clock)

/-- A permit's release: its completion, the write, and the next admissions. -/
def release (scheduler : OriginSchedulerV1) (origin : String) (id : Nat)
    (completion : SchedulerCompletionV1) (write : PersistWriteV1) (completedMs persistedMs : ℚ)
    (clock : DrainClockV1) : OriginSchedulerV1 :=
  match scheduler.entries.get? origin with
  | none => scheduler
  | some entry =>
    -- Releasing a permit again does nothing.
    if id ∈ entry.permits then
      let freed := { entry with active := entry.active - 1, permits := entry.permits.erase id }
      let completed := freed.recordCompletion completion completedMs
      let counted := { scheduler.setEntry origin completed with clockMs := clock.waitMs }
      match counted.persist write persistedMs with
      -- A write that fails throws out of the release, before the queue is served.
      | (saved, false) => saved
      | (saved, true) => saved.setEntry origin (completed.drain scheduler.aborted clock)
    else scheduler

/-- A queued request leaves because its signal was aborted. -/
def abortQueued (scheduler : OriginSchedulerV1) (origin : String) (queued : QueuedAdmissionV1) :
    OriginSchedulerV1 :=
  match scheduler.entries.get? origin with
  | none => scheduler
  | some entry =>
    -- The listener of a request that has left the queue was taken off its signal.
    if queued ∈ entry.queuedAdmissions ∧ queued.aborted scheduler.aborted = true then
      scheduler.setEntry origin (entry.rejectQueued .cancelled queued)
    else scheduler

/-- An origin's timer goes off. -/
def wake (scheduler : OriginSchedulerV1) (origin : String) (clock : DrainClockV1) :
    OriginSchedulerV1 :=
  match scheduler.entries.get? origin with
  | none => scheduler
  | some entry =>
    if entry.timer then
      { scheduler.setEntry origin ({ entry with timer := false }.drain scheduler.aborted clock) with
        clockMs := clock.waitMs }
    else scheduler

end OriginSchedulerV1

/-- The state that an event leads to, where the clock does not run backwards. -/
def schedulerStep (scheduler : OriginSchedulerV1) : SchedulerEventV1 → Option OriginSchedulerV1
  | .acquire policy signal workloadId entryMs clock =>
    if scheduler.clockMs ≤ entryMs ∧ clock.Follows entryMs then
      some (scheduler.acquire policy signal workloadId entryMs clock)
    else none
  | .release origin id completion write completedMs persistedMs clock =>
    if scheduler.clockMs ≤ completedMs ∧ completedMs ≤ persistedMs ∧ clock.Follows persistedMs then
      some (scheduler.release origin id completion write completedMs persistedMs clock)
    else none
  | .abortSignal signal => some { scheduler with aborted := signal :: scheduler.aborted }
  | .abortQueued origin queued => some (scheduler.abortQueued origin queued)
  | .timer origin clock =>
    if clock.Follows scheduler.clockMs then some (scheduler.wake origin clock) else none

/-- A scheduler as its process starts, with whatever an earlier one has left. -/
structure OriginSchedulerV1.Starts (scheduler : OriginSchedulerV1) : Prop where
  entries : scheduler.entries = []
  written : scheduler.written = none

/-- A scheduler under any callers. -/
def originScheduler : Machine OriginSchedulerV1 SchedulerEventV1 where
  starts scheduler := scheduler.Starts
  step before event after := schedulerStep before event = some after

/-- The scheduler of a process that starts for the first time. -/
def OriginSchedulerV1.fresh : OriginSchedulerV1 where
  entries := []
  recovered := []
  statePath := false
  written := none
  clockMs := 0
  aborted := []
  nextId := 0

/-- The scheduler after a list of events, where each of them can happen. -/
def schedulerRun (scheduler : OriginSchedulerV1) : List SchedulerEventV1 → Option OriginSchedulerV1
  | [] => some scheduler
  | event :: rest => (schedulerStep scheduler event).bind fun after => schedulerRun after rest

theorem schedulerRun_reaches {allowed : OriginSchedulerV1 → SchedulerEventV1 → Prop}
    {scheduler after : OriginSchedulerV1} {events : List SchedulerEventV1}
    (reached : originScheduler.Reaches allowed scheduler)
    (allows : ∀ scheduler, ∀ event ∈ events, allowed scheduler event)
    (ran : schedulerRun scheduler events = some after) : originScheduler.Reaches allowed after := by
  induction events generalizing scheduler with
  | nil =>
    simp only [schedulerRun, Option.some.injEq] at ran
    exact ran ▸ reached
  | cons event rest ih =>
    simp only [schedulerRun, Option.bind_eq_some_iff] at ran
    obtain ⟨between, stepped, later⟩ := ran
    have next := reached.next (allows _ event (by simp)) stepped
    exact ih next (fun at' other member => allows at' other (List.mem_cons_of_mem _ member)) later

theorem one_inRange : (1 : ℚ) ≤ 1 ∧ (1 : ℚ) ≤ 4 := by norm_num

/-- The default policy of local requests, with this many concurrent ones. -/
def localPolicy (maxConcurrency : ℚ) (range : 1 ≤ maxConcurrency ∧ maxConcurrency ≤ 4) :
    OriginSchedulerTrafficPolicyV1 where
  origin := "https://example.com"
  maxConcurrency := maxConcurrency
  requestsPerSecond := 5
  burst := 4
  minDelayMs := 0
  maxRedirectHops := 5
  circuitBreaker :=
    { transientFailureThreshold := 5
      transientWindowMs := 60000
      cooldownMs := 60000
      thresholdRange := by norm_num
      windowRange := by norm_num
      cooldownRange := by norm_num }
  concurrencyRange := range
  rateRange := by norm_num
  burstRange := by norm_num
  delayRange := by norm_num

end Klura
