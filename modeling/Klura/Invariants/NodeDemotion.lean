import Klura.Execution.FetchTier
import Klura.Library.Machine

/-! Demotion counts the failures of Node's transport, where no other transport's success resets it. -/

namespace Klura

namespace NodeAttemptV1

/-- Whether an attempt fails in Node's transport. -/
def failsInTransport : NodeAttemptV1 → Bool
  | .transportFailure _ => true
  | _ => false

end NodeAttemptV1

/-- Whether an execution accepts a result: it is neither a blocker nor a failure. -/
def isAccepted (result : ExecuteResultV1) : Bool :=
  !isHealableBlocker result.body &&
    factoryExecutionWasAccepted (classifyFactoryExecutionResult result)

namespace FetchPassV1

/-- The result of the first attempt that has one. -/
def firstResult (pass : FetchPassV1) : Option ExecuteResultV1 :=
  match pass.node with
  | .result result => some result
  | .transportFailure _ =>
    match pass.hasPool, pass.browser with
    | true, .result result => some result
    | _, _ => none
  | _ => none

/-- The retry of a pass, when the first result calls for one. -/
def retried (pass : FetchPassV1) : Option FetchRetryV1 :=
  match pass.firstResult, pass.hasPool, pass.protocol with
  | some result, true, .http =>
    if !isHealableBlocker result.body &&
        classifyFactoryExecutionResult result == .transportFailure then pass.retry
    else none
  | _, _, _ => none

/-- The failures of Node's transport in a pass. -/
def transportFailures (pass : FetchPassV1) : Nat :=
  (if pass.node.failsInTransport then 1 else 0) +
    match pass.retried with
    | some retry => if retry.node.failsInTransport then 1 else 0
    | none => 0

/-- Whether stamping the proof of a result fails. -/
def stampFails (pass : FetchPassV1) (result : ExecuteResultV1) : Bool :=
  pass.stampError.isSome && classifyFactoryExecutionResult result == .explicitSuccess

/-- Whether the accepted result of a pass comes over Node. -/
def acceptsOverNode (pass : FetchPassV1) : Bool :=
  match pass.retried, pass.node with
  | some { node := .result result, browser := _ }, _ => isAccepted result
  | none, .result result => isAccepted result && !pass.stampFails result
  | _, _ => false

/-- Whether the result of a pass that failed over Node is accepted from the browser. -/
def acceptsFallback (pass : FetchPassV1) : Bool :=
  match pass.node, pass.browser with
  | .transportFailure _, .result result => isAccepted result && !pass.stampFails result
  | _, _ => false

/-- The Node failures of the pass's protocol since a result was last accepted over Node. -/
def failuresAfter (pass : FetchPassV1) (failures : WireProtocolV1 → Nat) : WireProtocolV1 → Nat :=
  Function.update failures pass.protocol
    (if pass.acceptsOverNode then 0 else failures pass.protocol + pass.transportFailures)

/-- Whether a pass brings the failures of its protocol to the threshold or beyond. -/
def reachesThreshold (pass : FetchPassV1) (failures : WireProtocolV1 → Nat) : Prop :=
  0 < pass.transportFailures ∧
    NODE_TRANSPORT_FAIL_THRESHOLD ≤ failures pass.protocol + pass.transportFailures

/-- Whether the counter can follow a pass: what fails over Node has a browser to fall back to, in
which it does not succeed, and a retry neither fails in Node's transport nor is accepted over Node
while failures are counted. -/
def KeepsCount (pass : FetchPassV1) (failures : WireProtocolV1 → Nat) : Prop :=
  (pass.node.failsInTransport = true → pass.hasPool = true) ∧ pass.acceptsFallback = false ∧
    ∀ retry, pass.retried = some retry → retry.node.failsInTransport = false ∧
      (pass.acceptsOverNode = true → failures pass.protocol + pass.transportFailures = 0)

end FetchPassV1

variable {pass : FetchPassV1} {record : Option HealthStatusV1}

/-- What the tier does with a result, as far as the counters go: a result that is accepted resets
the counter of its protocol. -/
theorem finishFetch_failures (result : ExecuteResultV1) (transport : ExecuteTransportV1)
    (protocol : WireProtocolV1) :
    nodeFailures (finishFetch pass result transport record).1 protocol
      = if protocol = pass.protocol ∧ (isAccepted result && !pass.stampFails result) = true then 0
        else nodeFailures record protocol := by
  unfold finishFetch isAccepted FetchPassV1.stampFails
  by_cases blocked : isHealableBlocker result.body = true
  · simp [blocked]
  · simp only [blocked, Bool.false_eq_true, if_false]
    cases classified : classifyFactoryExecutionResult result with
    | explicitFailure => simp [factoryExecutionWasAccepted]
    | notRun => simp [factoryExecutionWasAccepted]
    | deliveryUnknown => simp [factoryExecutionWasAccepted]
    | transportFailure =>
      cases tryRevisitPartialReplay pass <;> simp [factoryExecutionWasAccepted]
    | explicitSuccess =>
      cases pass.stampError <;> simp [factoryExecutionWasAccepted]
    | transportAccepted =>
      cases pass.stampError <;> simp [factoryExecutionWasAccepted]

namespace FetchPassV1

/-- Whether the tier takes its own result for a success, which resets the counter. -/
def resets (pass : FetchPassV1) : Bool :=
  match pass.firstResult with
  | some result => isAccepted result && !pass.stampFails result
  | none => false

/-- What the tier makes of the counters: a failure over Node counts when there is a browser, and an
accepted result of the tier resets, whichever way it came. -/
theorem executeFetchTier_failures (protocol : WireProtocolV1) :
    nodeFailures (executeFetchTier pass record).record protocol
      = if protocol = pass.protocol then
          if pass.resets then 0
          else nodeFailures record protocol + if pass.node.failsInTransport && pass.hasPool then 1 else 0
        else nodeFailures record protocol := by
  unfold executeFetchTier resets firstResult
  cases node : pass.node with
  | result result =>
    simp only [finishFetch_failures, NodeAttemptV1.failsInTransport]
    by_cases same : protocol = pass.protocol <;> simp [same]
  | transportFailure signal =>
    cases pool : pass.hasPool with
    | false => by_cases same : protocol = pass.protocol <;> simp [same]
    | true =>
      simp only [if_true, finishBrowser]
      cases browser : pass.browser with
      | result result =>
        simp only [finishFetch_failures, nodeFailures_recordNodeTransportFailure,
          NodeAttemptV1.failsInTransport]
        by_cases same : protocol = pass.protocol <;> simp [same]
      | stateError state =>
        simp only [nodeFailures_recordNodeTransportFailure, NodeAttemptV1.failsInTransport]
        by_cases same : protocol = pass.protocol <;> simp [same]
      | error message =>
        simp only [nodeFailures_markFailed, nodeFailures_recordNodeTransportFailure,
          NodeAttemptV1.failsInTransport]
        by_cases same : protocol = pass.protocol <;> simp [same]
  | stateError state => by_cases same : protocol = pass.protocol <;> simp [same, NodeAttemptV1.failsInTransport]
  | error message => by_cases same : protocol = pass.protocol <;> simp [same, NodeAttemptV1.failsInTransport]

theorem resets_of_retried {retry : FetchRetryV1} (retried : pass.retried = some retry) :
    pass.resets = false ∧ pass.hasPool = true := by
  unfold FetchPassV1.retried at retried
  unfold resets
  split at retried
  · next result first pool _ =>
    rw [first]
    refine ⟨?_, pool⟩
    split at retried
    · next failed =>
      simp only [Bool.and_eq_true, Bool.not_eq_true', beq_iff_eq] at failed
      simp [isAccepted, failed, factoryExecutionWasAccepted]
    · cases retried
  · cases retried

end FetchPassV1

variable {failures : WireProtocolV1 → Nat}

/-- The counter follows a pass exactly when the pass lets it. -/
theorem executeFetchTier_follows
    (counts : ∀ protocol, nodeFailures record protocol = failures protocol) :
    (∀ protocol, nodeFailures (executeFetchTier pass record).record protocol
      = pass.failuresAfter failures protocol) ↔ pass.KeepsCount failures := by
  -- Only the protocol of the pass is at stake.
  have own : (∀ protocol, nodeFailures (executeFetchTier pass record).record protocol
      = pass.failuresAfter failures protocol) ↔
      (if pass.resets then 0 else failures pass.protocol +
        if pass.node.failsInTransport && pass.hasPool then 1 else 0)
      = if pass.acceptsOverNode then 0 else failures pass.protocol + pass.transportFailures := by
    constructor
    · intro follows
      have here := follows pass.protocol
      rw [FetchPassV1.executeFetchTier_failures, if_pos rfl, counts, FetchPassV1.failuresAfter,
        Function.update_self] at here
      exact here
    · intro here protocol
      rw [FetchPassV1.executeFetchTier_failures, FetchPassV1.failuresAfter]
      by_cases same : protocol = pass.protocol
      · subst same
        rw [if_pos rfl, counts, Function.update_self, here]
      · rw [if_neg same, counts, Function.update_of_ne same]
  rw [own]
  cases retry : pass.retried with
  | some retry' =>
    obtain ⟨noReset, pool⟩ := FetchPassV1.resets_of_retried retry
    have noFallback : pass.acceptsFallback = false := by
      unfold FetchPassV1.resets FetchPassV1.firstResult at noReset
      unfold FetchPassV1.acceptsFallback
      cases node : pass.node with
      | transportFailure signal =>
        cases browser : pass.browser <;> simp_all
      | _ => rfl
    simp only [FetchPassV1.KeepsCount, noReset, pool, noFallback, retry, Option.some.injEq,
      forall_eq', implies_true, true_and, FetchPassV1.transportFailures, Bool.and_true,
      Bool.false_eq_true, if_false]
    cases accepts : pass.acceptsOverNode with
    | false =>
      cases fails : retry'.node.failsInTransport <;> simp
    | true =>
      -- A retry that is accepted over Node did not fail there.
      have succeeded : retry'.node.failsInTransport = false := by
        unfold FetchPassV1.acceptsOverNode at accepts
        rw [retry] at accepts
        obtain ⟨attempt, browser⟩ := retry'
        cases attempt with
        | result result => rfl
        | _ => cases accepts
      simp only [succeeded, Bool.false_eq_true, if_false, if_true, Nat.add_zero, true_and,
        forall_const]
  | none =>
    simp only [FetchPassV1.KeepsCount, retry, reduceCtorEq, false_implies, implies_true, and_true,
      FetchPassV1.transportFailures]
    unfold FetchPassV1.acceptsOverNode FetchPassV1.acceptsFallback FetchPassV1.resets
      FetchPassV1.firstResult
    rw [retry]
    cases node : pass.node with
    | transportFailure signal =>
      cases pool : pass.hasPool with
      | false => simp [NodeAttemptV1.failsInTransport]
      | true =>
        cases browser : pass.browser with
        | result result =>
          cases accepted : isAccepted result && !pass.stampFails result <;>
            simp [NodeAttemptV1.failsInTransport, accepted]
        | _ => simp [NodeAttemptV1.failsInTransport]
    | _ => simp [NodeAttemptV1.failsInTransport]

/-- The health record of a strategy, and the Node failures of each protocol since a result was last
accepted over Node. -/
structure NodeHistoryV1 where
  record : Option HealthStatusV1
  failures : WireProtocolV1 → Nat

/-- The machine of a strategy's executions. -/
def fetchMachine : Machine NodeHistoryV1 FetchPassV1 where
  starts state := state = { record := none, failures := fun _ => 0 }
  step before pass after := after =
    { record := (executeFetchTier pass before.record).record
      failures := pass.failuresAfter before.failures }

theorem executeFetchTier_demotes
    (counts : ∀ protocol, nodeFailures record protocol = failures protocol)
    (keeps : pass.KeepsCount failures) :
    (executeFetchTier pass record).demotes = true ↔ pass.reachesThreshold failures := by
  obtain ⟨pool, -, retries⟩ := keeps
  have retry : pass.transportFailures = if pass.node.failsInTransport then 1 else 0 := by
    unfold FetchPassV1.transportFailures
    cases given : pass.retried with
    | none => rfl
    | some retry => simp [(retries retry given).1]
  unfold FetchPassV1.reachesThreshold executeFetchTier
  rw [retry]
  cases node : pass.node with
  | transportFailure signal =>
    rw [node] at pool
    simp [pool rfl, NodeAttemptV1.failsInTransport, recordNodeTransportFailure, counts]
  | _ => simp [NodeAttemptV1.failsInTransport]

/-- In a run that the counter can follow, it equals the Node failures of every protocol since a
result was last accepted over Node, and the strategy is demoted by exactly the passes that bring
them to the threshold or beyond. -/
theorem nodeDemotion_counts (state : NodeHistoryV1)
    (reached : fetchMachine.Reaches (fun state pass => pass.KeepsCount state.failures) state) :
    (∀ protocol, nodeFailures state.record protocol = state.failures protocol) ∧
      ∀ pass : FetchPassV1, pass.KeepsCount state.failures →
        ((executeFetchTier pass state.record).demotes = true ↔
          pass.reachesThreshold state.failures) := by
  have counts : ∀ protocol, nodeFailures state.record protocol = state.failures protocol := by
    -- The induction follows the run; a pass that the counter can follow leaves it right.
    induction reached with
    | start first =>
      intro protocol
      rw [show _ = _ from first]
      rfl
    | next _ keeps step ih =>
      rw [show _ = _ from step]
      exact (executeFetchTier_follows ih).mpr keeps
  exact ⟨counts, fun pass keeps => executeFetchTier_demotes counts keeps⟩

/-- A pass whose Node attempt is reset, and whose browser attempt ends as given. -/
def resetPass (browser : BrowserAttemptV1) : FetchPassV1 where
  now := 0
  protocol := .http
  node := .transportFailure (ascii "connection_reset")
  hasPool := true
  browser := browser
  retry := none
  stampError := none

/-- The history of a strategy that had one pass. -/
def historyAfter (pass : FetchPassV1) : NodeHistoryV1 where
  record := (executeFetchTier pass none).record
  failures := pass.failuresAfter fun _ => 0

/-- A success in the browser resets the count of the Node failure that led to it. -/
theorem nodeDemotion_forgets : ¬ ∀ state : NodeHistoryV1,
    fetchMachine.Reaches (fun _ _ => True) state →
    ∀ protocol, nodeFailures state.record protocol = state.failures protocol := by
  intro counts
  have reached : fetchMachine.Reaches (fun _ _ => True) (historyAfter (resetPass
      (.result { status := some 200, body := .null, bodyOk := none, executionState := none }))) :=
    .next (.start rfl) trivial rfl
  exact absurd (counts _ reached .http) (by decide)

/-- A Node failure whose fallback fails is counted. -/
theorem nodeDemotion_counts_reset :
    (∀ protocol, nodeFailures (historyAfter (resetPass (.error []))).record protocol
      = (historyAfter (resetPass (.error []))).failures protocol) ∧
      ∀ pass : FetchPassV1, pass.KeepsCount (historyAfter (resetPass (.error []))).failures →
        ((executeFetchTier pass (historyAfter (resetPass (.error []))).record).demotes = true ↔
          pass.reachesThreshold (historyAfter (resetPass (.error []))).failures) :=
  nodeDemotion_counts _ (.next (.start rfl) (by
    refine ⟨fun _ => rfl, rfl, ?_⟩
    intro retry retried
    cases retried) rfl)

end Klura
