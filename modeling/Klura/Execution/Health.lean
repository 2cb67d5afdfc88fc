import Klura.Execution.Classification

/-! The health record of a strategy, and how executions change it. -/

namespace Klura

/-- The protocols of a strategy. -/
inductive WireProtocolV1 where
  | http
  | websocket
  deriving DecidableEq

/-- The health of a strategy. -/
inductive HealthStateV1 where
  | healthy
  | degraded
  | broken
  deriving DecidableEq

/-- The health record of a strategy. -/
structure HealthStatusV1 where
  status : HealthStateV1
  lastSuccess : Option Int
  lastFailure : Option Int
  failureCount : Nat
  lastError : Option Units
  healCount : Option Nat
  lastHeal : Option Int
  recent : List Bool
  nodeTransportFailureCounts : OrderedMap WireProtocolV1 Nat
  lastNodeTransportSignals : OrderedMap WireProtocolV1 Units
  lastProbeAt : Option Int

/-- The failures in a row after which a strategy is broken. -/
def BROKEN_THRESHOLD : Nat := 5

/-- The outcomes that a record remembers. -/
def RECENT_WINDOW : Nat := 20

/-- The Node failures after which a strategy is demoted. -/
def NODE_TRANSPORT_FAIL_THRESHOLD : Nat := 3

/-- The record that counts as a strategy's when it has none. -/
def HealthStatusV1.initial : HealthStatusV1 :=
  { status := .healthy, lastSuccess := none, lastFailure := none, failureCount := 0,
    lastError := none, healCount := none, lastHeal := none, recent := [],
    nodeTransportFailureCounts := [], lastNodeTransportSignals := [], lastProbeAt := none }

/-- The last outcomes with another one. -/
def pushOutcome (recent : List Bool) (success : Bool) : List Bool :=
  let outcomes := recent ++ [success]
  outcomes.drop (outcomes.length - RECENT_WINDOW)

/-- The record after a success, which keeps the Node counters. -/
def markHealthy (now : Int) (record : Option HealthStatusV1) : HealthStatusV1 :=
  let prev := record.getD .initial
  { status := .healthy
    lastSuccess := some now
    lastFailure := none
    failureCount := 0
    lastError := none
    healCount := prev.healCount
    lastHeal := prev.lastHeal
    recent := pushOutcome prev.recent true
    nodeTransportFailureCounts := prev.nodeTransportFailureCounts
    lastNodeTransportSignals := prev.lastNodeTransportSignals
    lastProbeAt := none }

/-- The record after a failure, which keeps the Node counters. -/
def markFailed (now : Int) (error : Units) (record : Option HealthStatusV1) : HealthStatusV1 :=
  let prev := record.getD .initial
  let failureCount := prev.failureCount + 1
  { status := if BROKEN_THRESHOLD ≤ failureCount then .broken else .degraded
    lastSuccess := prev.lastSuccess
    lastFailure := some now
    failureCount
    lastError := some error
    healCount := prev.healCount
    lastHeal := prev.lastHeal
    recent := pushOutcome prev.recent false
    nodeTransportFailureCounts := prev.nodeTransportFailureCounts
    lastNodeTransportSignals := prev.lastNodeTransportSignals
    lastProbeAt := none }

/-- The Node failures of a protocol that a record counts. -/
def nodeFailures (record : Option HealthStatusV1) (protocol : WireProtocolV1) : Nat :=
  ((record.bind fun found => OrderedMap.get? found.nodeTransportFailureCounts protocol).getD 0)

/-- The record after a Node failure of a protocol, and its new count. -/
def recordNodeTransportFailure (protocol : WireProtocolV1) (signal : Units)
    (record : Option HealthStatusV1) : HealthStatusV1 × Nat :=
  let prev := record.getD .initial
  let count := nodeFailures record protocol + 1
  ({ prev with
    nodeTransportFailureCounts := OrderedMap.set prev.nodeTransportFailureCounts protocol count
    lastNodeTransportSignals := OrderedMap.set prev.lastNodeTransportSignals protocol signal },
    count)

/-- The record after a success of a protocol: its counter is dropped, when it counts anything. -/
def recordNodeTransportSuccess (protocol : WireProtocolV1) (record : Option HealthStatusV1) :
    Option HealthStatusV1 :=
  if nodeFailures record protocol = 0 then record
  else record.map fun prev =>
    { prev with
      nodeTransportFailureCounts :=
        prev.nodeTransportFailureCounts.filter fun entry => decide (entry.1 ≠ protocol)
      lastNodeTransportSignals :=
        prev.lastNodeTransportSignals.filter fun entry => decide (entry.1 ≠ protocol) }

theorem get?_filter_ne {ν : Type} (counts : OrderedMap WireProtocolV1 ν)
    (protocol other : WireProtocolV1) :
    OrderedMap.get? (counts.filter fun entry => decide (entry.1 ≠ protocol)) other
      = if other = protocol then none else OrderedMap.get? counts other := by
  induction counts with
  | nil => simp [OrderedMap.get?]
  | cons entry rest ih =>
    by_cases dropped : entry.1 = protocol
    · simp only [List.filter_cons, dropped, ne_eq, not_true_eq_false, decide_false,
        Bool.false_eq_true, if_false, ih, OrderedMap.get?]
      by_cases same : other = protocol
      · simp [same]
      · simp [same, Ne.symm same]
    · simp only [List.filter_cons, dropped, ne_eq, not_false_eq_true, decide_true, if_true,
        OrderedMap.get?, ih]
      by_cases same : other = protocol
      · simp [same, dropped]
      · simp [same]

variable (now : Int) (error signal : Units) (record : Option HealthStatusV1)
  (protocol other : WireProtocolV1)

@[simp] theorem nodeFailures_markHealthy :
    nodeFailures (some (markHealthy now record)) protocol = nodeFailures record protocol := by
  cases record <;> rfl

@[simp] theorem nodeFailures_markFailed :
    nodeFailures (some (markFailed now error record)) protocol = nodeFailures record protocol := by
  cases record <;> rfl

@[simp] theorem nodeFailures_recordNodeTransportFailure :
    nodeFailures (some (recordNodeTransportFailure protocol signal record).1) other
      = nodeFailures record other + if other = protocol then 1 else 0 := by
  by_cases same : other = protocol
  · subst same
    simp [nodeFailures, recordNodeTransportFailure]
  · have initial : nodeFailures (some (record.getD .initial)) other = nodeFailures record other := by
      cases record <;> rfl
    simp only [recordNodeTransportFailure, same, if_false, Nat.add_zero]
    rw [← initial]
    simp [nodeFailures, OrderedMap.get?_set_of_ne _ _ same]

@[simp] theorem nodeFailures_recordNodeTransportSuccess :
    nodeFailures (recordNodeTransportSuccess protocol record) other
      = if other = protocol then 0 else nodeFailures record other := by
  unfold recordNodeTransportSuccess
  split
  · next none =>
    by_cases same : other = protocol
    · rw [same, none, if_pos rfl]
    · rw [if_neg same]
  · cases record with
    | none => simp [nodeFailures]
    | some found =>
      simp only [Option.map_some, nodeFailures, Option.bind_some, get?_filter_ne]
      by_cases same : other = protocol
      · simp [same]
      · simp [same]

end Klura
