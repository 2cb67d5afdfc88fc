import Klura.Library.OrderedMap
import Klura.Library.Rotation
import Klura.Scheduler.Policy

/-! The queue of one origin: who waits, who is admitted, and when. -/

namespace Klura

/-- How the holder of a permit says its request went. -/
inductive SchedulerCompletionV1 where
  | success
  | transientFailure
  | neutral
  deriving DecidableEq, Repr

/-- Why a queued request is turned away. -/
inductive SchedulerRejectionV1 where
  | cancelled
  | originCircuitOpen
  deriving DecidableEq, Repr

/-- A request that waits for its permit. -/
structure QueuedAdmissionV1 where
  id : Nat
  signal : Option Nat
  workloadId : String
  deriving DecidableEq, Repr

/-- A request that was given its permit. -/
structure AdmissionV1 where
  id : Nat
  workloadId : String
  atMs : ℚ
  /-- The policy in force. -/
  policy : OriginSchedulerTrafficPolicyV1
  /-- Permits that are out, with this one. -/
  unreleased : Nat
  circuitOpenUntil : ℚ
  /-- Whether its signal had been aborted. -/
  cancelled : Bool
  deriving DecidableEq

/-- What happens to the requests of one origin, and the workloads that wait afterwards. -/
inductive OriginMomentV1 where
  | queued (waiting : List String)
  | rejected (id : Nat) (reason : SchedulerRejectionV1) (waiting : List String)
  | admitted (admission : AdmissionV1) (waiting : List String)
  deriving DecidableEq

/-- What the scheduler keeps for one origin. -/
structure OriginEntryV1 where
  policy : OriginSchedulerTrafficPolicyV1
  queues : OrderedMap String (List QueuedAdmissionV1)
  workloadOrder : List String
  nextWorkloadIndex : Nat
  active : Nat
  tokens : ℚ
  lastRefillAt : ℚ
  nextAdmissionAt : ℚ
  transientFailures : List ℚ
  circuitOpenUntil : ℚ
  /-- Whether a timer is set that will drain the queue. -/
  timer : Bool
  /-- The permits that were given out and not released. -/
  permits : List Nat
  /-- Every moment so far, newest first. -/
  history : List OriginMomentV1

/-- The readings of the clock that one drain takes, in their order. -/
structure DrainClockV1 where
  nowMs : ℚ
  circuitMs : ℚ
  waitMs : ℚ
  deriving DecidableEq

/-- The clock does not run backwards, from its last reading on. -/
def DrainClockV1.Follows (clock : DrainClockV1) (lastMs : ℚ) : Prop :=
  lastMs ≤ clock.nowMs ∧ clock.nowMs ≤ clock.circuitMs ∧ clock.circuitMs ≤ clock.waitMs

instance (clock : DrainClockV1) (lastMs : ℚ) : Decidable (clock.Follows lastMs) :=
  inferInstanceAs (Decidable (_ ∧ _))

/-- Whether a request's caller has given it up. -/
def QueuedAdmissionV1.aborted (queued : QueuedAdmissionV1) (aborted : List Nat) : Bool :=
  match queued.signal with
  | some signal => decide (signal ∈ aborted)
  | none => false

namespace OriginEntryV1

/-- How many requests wait. -/
def queuedCount (entry : OriginEntryV1) : Nat :=
  (entry.queues.map fun queue => queue.2.length).sum

/-- The requests that wait. -/
def queuedAdmissions (entry : OriginEntryV1) : List QueuedAdmissionV1 :=
  entry.queues.flatMap fun queue => queue.2

/-- The workloads with a request that waits. -/
def waiting (entry : OriginEntryV1) : List String :=
  (entry.queues.filter fun queue => !queue.2.isEmpty).map Prod.fst

/-- The entry with one more moment remembered. -/
def note (entry : OriginEntryV1) (moment : List String → OriginMomentV1) : OriginEntryV1 :=
  { entry with history := moment entry.waiting :: entry.history }

/-- The entry with a request at the end of its workload's queue. -/
def enqueue (entry : OriginEntryV1) (queued : QueuedAdmissionV1) : OriginEntryV1 :=
  match entry.queues.get? queued.workloadId with
  | some queue =>
    { entry with queues := entry.queues.set queued.workloadId (queue ++ [queued]) }
  | none =>
    { entry with
      queues := entry.queues.set queued.workloadId [queued]
      workloadOrder := entry.workloadOrder ++ [queued.workloadId] }

/-- The entry without a workload, the next turn still the same one's. -/
def removeWorkload (entry : OriginEntryV1) (workloadId : String) : OriginEntryV1 :=
  let queues := entry.queues.delete workloadId
  if workloadId ∈ entry.workloadOrder then
    let index := entry.workloadOrder.idxOf workloadId
    let workloadOrder := entry.workloadOrder.erase workloadId
    if workloadOrder.length = 0 then
      { entry with queues := queues, workloadOrder := workloadOrder, nextWorkloadIndex := 0 }
    else
      let next :=
        if index < entry.nextWorkloadIndex then entry.nextWorkloadIndex - 1
        else entry.nextWorkloadIndex
      { entry with
        queues := queues
        workloadOrder := workloadOrder
        nextWorkloadIndex := if workloadOrder.length ≤ next then 0 else next }
  else { entry with queues := queues }

/-- The entry without a request that waits. -/
def removeQueued (entry : OriginEntryV1) (queued : QueuedAdmissionV1) : OriginEntryV1 :=
  match entry.queues.get? queued.workloadId with
  | none => entry
  | some queue =>
    if queued ∈ queue then
      let rest := queue.erase queued
      let shorter := { entry with queues := entry.queues.set queued.workloadId rest }
      if rest.length = 0 then shorter.removeWorkload queued.workloadId else shorter
    else entry

/-- The entry with a waiting request turned away. -/
def rejectQueued (entry : OriginEntryV1) (reason : SchedulerRejectionV1)
    (queued : QueuedAdmissionV1) : OriginEntryV1 :=
  (entry.removeQueued queued).note (.rejected queued.id reason)

/-- The entry without the requests whose callers have given them up. -/
def dropCancelled (entry : OriginEntryV1) (aborted : List Nat) : OriginEntryV1 :=
  (entry.queuedAdmissions.filter (·.aborted aborted)).foldl (rejectQueued · .cancelled) entry

/-- The entry with every waiting request turned away. -/
def rejectQueuedForOpenCircuit (entry : OriginEntryV1) : OriginEntryV1 :=
  entry.queuedAdmissions.foldl (rejectQueued · .originCircuitOpen) entry

/-- The request whose turn it is, and the entry without it. -/
def dequeueRoundRobin : Nat → OriginEntryV1 → Option QueuedAdmissionV1 × OriginEntryV1
  | 0, entry => (none, entry)
  | fuel + 1, entry =>
    let index := entry.nextWorkloadIndex % entry.workloadOrder.length
    match entry.workloadOrder[index]? with
    | none => (none, entry)
    | some workloadId =>
      if workloadId = "" then (none, entry)
      else
        let moved :=
          { entry with nextWorkloadIndex := (index + 1) % entry.workloadOrder.length }
        match entry.queues.get? workloadId with
        | some (queued :: rest) =>
          let shorter := { moved with queues := entry.queues.set workloadId rest }
          (some queued, if rest.length = 0 then shorter.removeWorkload workloadId else shorter)
        | _ => dequeueRoundRobin fuel (moved.removeWorkload workloadId)

/-- The entry with the tokens that have come in since the last time. -/
def refill (entry : OriginEntryV1) (nowMs : ℚ) : OriginEntryV1 :=
  let elapsed := max 0 (nowMs - entry.lastRefillAt)
  { entry with
    lastRefillAt := nowMs
    tokens := min entry.policy.burst (entry.tokens + elapsed * entry.policy.requestsPerSecond / 1000) }

/-- The entry with a permit given out. -/
def grantPermit (entry : OriginEntryV1) (queued : QueuedAdmissionV1) (nowMs : ℚ) (aborted : List Nat) :
    OriginEntryV1 :=
  { entry with
    active := entry.active + 1
    tokens := entry.tokens - 1
    nextAdmissionAt := nowMs + entry.policy.minDelayMs
    permits := queued.id :: entry.permits }.note
    (.admitted
      { id := queued.id
        workloadId := queued.workloadId
        atMs := nowMs
        policy := entry.policy
        unreleased := entry.permits.length + 1
        circuitOpenUntil := entry.circuitOpenUntil
        cancelled := queued.aborted aborted })

/-- Whether the next request may have its permit now. -/
def Admits (entry : OriginEntryV1) (nowMs : ℚ) : Prop :=
  0 < entry.queuedCount ∧ entry.active < entry.policy.maxConcurrency ∧ 1 ≤ entry.tokens ∧
    entry.nextAdmissionAt ≤ nowMs

instance (entry : OriginEntryV1) (nowMs : ℚ) : Decidable (entry.Admits nowMs) :=
  inferInstanceAs (Decidable (_ ∧ _))

/-- The entry once every request that may has had its permit. -/
def admitQueued (nowMs : ℚ) (aborted : List Nat) : Nat → OriginEntryV1 → OriginEntryV1
  | 0, entry => entry
  | fuel + 1, entry =>
    if entry.Admits nowMs then
      match dequeueRoundRobin (entry.workloadOrder.length + 1) entry with
      | (none, after) => after
      | (some queued, after) => admitQueued nowMs aborted fuel (after.grantPermit queued nowMs aborted)
    else entry

/-- The entry with the timer that wakes it for its next admission. -/
def scheduleNextAdmission (entry : OriginEntryV1) (clock : DrainClockV1) : OriginEntryV1 :=
  if entry.queuedCount = 0 ∨ clock.circuitMs < entry.circuitOpenUntil then entry
  else
    let tokenDelay : ℚ :=
      if 1 ≤ entry.tokens then 0
      else ⌈(1 - entry.tokens) * 1000 / entry.policy.requestsPerSecond⌉
    let wait := max 0 (max (entry.nextAdmissionAt - clock.waitMs) tokenDelay)
    if wait = 0 then entry else { entry with timer := true }

/-- The entry once its queue has been served as far as it may be. -/
def drain (entry : OriginEntryV1) (aborted : List Nat) (clock : DrainClockV1) : OriginEntryV1 :=
  let ready := (entry.refill clock.nowMs).dropCancelled aborted
  if ready.queuedCount = 0 then ready
  else if clock.nowMs < ready.circuitOpenUntil then ready.rejectQueuedForOpenCircuit
  else (admitQueued clock.nowMs aborted ready.queuedCount ready).scheduleNextAdmission clock

/-- The entry once a request's end has been counted for its circuit. -/
def recordCompletion (entry : OriginEntryV1) (completion : SchedulerCompletionV1) (nowMs : ℚ) :
    OriginEntryV1 :=
  let breaker := entry.policy.circuitBreaker
  let recent := entry.transientFailures.filter (nowMs - breaker.transientWindowMs ≤ ·)
  match completion with
  | .transientFailure =>
    let failures := recent ++ [nowMs]
    if breaker.transientFailureThreshold ≤ failures.length then
      { entry with transientFailures := [], circuitOpenUntil := nowMs + breaker.cooldownMs }
    else { entry with transientFailures := failures }
  | _ => { entry with transientFailures := recent }

end OriginEntryV1

end Klura
