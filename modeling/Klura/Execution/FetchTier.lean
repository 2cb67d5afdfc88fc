import Klura.Contracts.StrictJson
import Klura.Execution.Health

/-! The fetch tier of an execution: Node first, then the browser, then a retry after a replay. -/

namespace Klura

/-- How an attempt over Node ends. -/
inductive NodeAttemptV1 where
  | result (result : ExecuteResultV1)
  /-- Node's transport fails with a signal. -/
  | transportFailure (signal : Units)
  /-- An error that carries an execution state. -/
  | stateError (state : FactoryExecutionState)
  | error (message : Units)

/-- How an attempt in the browser ends. -/
inductive BrowserAttemptV1 where
  | result (result : ExecuteResultV1)
  | stateError (state : FactoryExecutionState)
  | error (message : Units)

/-- The retry of the fetch after the recorded path was replayed up to the step it was found at. -/
structure FetchRetryV1 where
  node : NodeAttemptV1
  browser : BrowserAttemptV1

/-- One pass of an execution through its fetch tier: what happens to each attempt. -/
structure FetchPassV1 where
  now : Int
  protocol : WireProtocolV1
  node : NodeAttemptV1
  /-- Whether there is a browser pool. -/
  hasPool : Bool
  browser : BrowserAttemptV1
  /-- The retry, where the recorded path replays; it is tried for HTTP only. -/
  retry : Option FetchRetryV1
  /-- Whether stamping the proof of a verified strategy fails, and with what. -/
  stampError : Option Units

/-- What a pass leaves the execution with. -/
inductive FetchAnswerV1 where
  | returns (result : ExecuteResultV1) (transport : ExecuteTransportV1)
  | returnsState (state : FactoryExecutionState)
  /-- The next tier is tried. -/
  | continues

/-- The end of a pass: the health record, whether the strategy was demoted, and the answer. -/
structure FetchEndV1 where
  record : Option HealthStatusV1
  demotes : Bool
  answer : FetchAnswerV1

/-- The description of a failed result. -/
def describeFailure (result : ExecuteResultV1) : Units :=
  match result.status with
  | some 0 => ascii "a runtime error"
  | some (status + 1) => ascii "HTTP " ++ StrictJson.natText (status + 1)
  | none => ascii "HTTP undefined"

/-- The retry of the fetch: its result is returned unless it fails as the first one did. Neither
its Node failures nor its successes reach the health record. -/
def tryRevisitPartialReplay (pass : FetchPassV1) : Option (ExecuteResultV1 × ExecuteTransportV1) :=
  let judged (result : ExecuteResultV1) (transport : ExecuteTransportV1) :
      Option (ExecuteResultV1 × ExecuteTransportV1) :=
    if classifyFactoryExecutionResult result = .transportFailure then none
    else some (result, transport)
  match pass.hasPool, pass.protocol, pass.retry with
  | true, .http, some retry =>
    match retry.node with
    | .result result => judged result .node
    | .transportFailure _ =>
      match retry.browser with
      | .result result => judged result .browser
      | .stateError _ | .error _ => none
    | .stateError _ | .error _ => none
  | _, _, _ => none

/-- What follows on a result of the fetch tier. -/
def finishFetch (pass : FetchPassV1) (result : ExecuteResultV1) (transport : ExecuteTransportV1)
    (record : Option HealthStatusV1) : Option HealthStatusV1 × FetchAnswerV1 :=
  if isHealableBlocker result.body then (record, .returns result transport)
  else
    match classifyFactoryExecutionResult result with
    | .explicitFailure | .notRun | .deliveryUnknown => (record, .returns result transport)
    | .transportFailure =>
      let failed := some (markFailed pass.now (describeFailure result) record)
      match tryRevisitPartialReplay pass with
      | some (retried, channel) => (failed, .returns retried channel)
      | none => (failed, .continues)
    | .explicitSuccess | .transportAccepted =>
      let healthy := markHealthy pass.now record
      match pass.stampError with
      | some message =>
        if classifyFactoryExecutionResult result = .explicitSuccess then
          (some (markFailed pass.now message (some healthy)), .continues)
        else (recordNodeTransportSuccess pass.protocol (some healthy), .returns result transport)
      | none =>
        (recordNodeTransportSuccess pass.protocol (some healthy), .returns result transport)

/-- What follows on the end of the browser's attempt. -/
def finishBrowser (pass : FetchPassV1) (record : Option HealthStatusV1) :
    Option HealthStatusV1 × FetchAnswerV1 :=
  match pass.browser with
  | .result result => finishFetch pass result .browser record
  | .stateError state => (record, .returnsState state)
  | .error message => (some (markFailed pass.now message record), .continues)

/-- A pass of an execution through its fetch tier. -/
def executeFetchTier (pass : FetchPassV1) (record : Option HealthStatusV1) : FetchEndV1 :=
  match pass.node with
  | .result result =>
    let ended := finishFetch pass result .node record
    { record := ended.1, demotes := false, answer := ended.2 }
  | .transportFailure signal =>
    if pass.hasPool then
      let failed := recordNodeTransportFailure pass.protocol signal record
      let ended := finishBrowser pass (some failed.1)
      { record := ended.1
        demotes := decide (NODE_TRANSPORT_FAIL_THRESHOLD ≤ failed.2)
        answer := ended.2 }
    else { record, demotes := false, answer := .continues }
  | .stateError state => { record, demotes := false, answer := .returnsState state }
  | .error message =>
    { record := some (markFailed pass.now message record), demotes := false, answer := .continues }

end Klura
