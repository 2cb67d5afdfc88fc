import Mathlib.Data.Rat.Floor
import Klura.Browser.Paused
import Klura.Run.TaskChain

/-! One call of a capability: its strategies in turn, each attempted until its retries are spent. -/

namespace Klura

/-- What kind of answer an outcome is. -/
inductive OutcomeClassV1 where
  | success
  | domainError
  | callerError
  | authenticationRequired
  | rateLimited
  | upstreamUnavailable
  deriving DecidableEq

/-- What a call may be retried after. -/
inductive RetryClassV1 where
  | transportFailure
  | rateLimited
  | upstreamUnavailable
  deriving DecidableEq

/-- The retry class of an outcome class, when its outcomes may be retried at all. -/
def OutcomeClassV1.retryClass : OutcomeClassV1 → Option RetryClassV1
  | .rateLimited => some .rateLimited
  | .upstreamUnavailable => some .upstreamUnavailable
  | _ => none

/-- How a call may be retried, as its parser accepts it. -/
structure CallRetryPolicyV1 where
  maxRetries : Nat
  on : List RetryClassV1
  baseDelayMs : Nat
  maxDelayMs : Nat
  jitterRatio : Rat
  honorStructuralRetryAfter : Bool
  few : maxRetries ≤ 2
  once : on.Nodup
  unretried : maxRetries = 0 ↔ on = []
  base : 100 ≤ baseDelayMs ∧ baseDelayMs ≤ 30000
  maximum : baseDelayMs ≤ maxDelayMs ∧ maxDelayMs ≤ 60000
  jitter : 0 ≤ jitterRatio ∧ jitterRatio ≤ 1 / 4

/-- What a call reads of its capability. -/
structure CalledCapabilityV1 where
  requiresSession : Bool
  totalTimeoutMs : Nat
  maxTargetRequestsPerCall : Nat
  callRetryPolicy : CallRetryPolicyV1
  strategies : List StableContractIdV1
  /-- The parser asks for room for the first request and every retry of it. -/
  covers : 1 + callRetryPolicy.maxRetries ≤ maxTargetRequestsPerCall

/-- What a caller may choose for one call. -/
structure PublicCallOptionsV1 where
  timeoutMs : Option JsonNumber
  hasBrowserStorageState : Bool

/-- An answer of the target that the outcome contracts recognise. -/
structure OutcomeV1 where
  outcomeId : StableContractIdV1
  outcomeClass : OutcomeClassV1
  caseId : StableContractIdV1
  data : Option JsonValueV1
  retryAfterMs : Option Nat

/-- What the outcome contracts make of a response. -/
inductive OutcomeEvaluationResultV1 where
  | outcome (outcome : OutcomeV1)
  | unclassifiedResponse (reason : String)
  | ambiguousResponse (reason : String)
  | verificationFailed (reason : String)
  | projectionFailed (reason : String)

/-- The outcome an evaluation found, when it found one. -/
def OutcomeEvaluationResultV1.found : OutcomeEvaluationResultV1 → Option OutcomeV1
  | .outcome answer => some answer
  | _ => none

/-- An error of an attempt, by the class its handler tells it apart with. -/
inductive ExecutionErrorV1 where
  | publicHttp (code : PublicHttpErrorCodeV1) (message : String) (targetRequests : Int)
      (interactionFailure diagnostic : Option JsonValueV1)
  | publicContract (field message : String)
  | other (message : String)

/-- The message an error carries, which contract errors begin with the field they check. -/
def ExecutionErrorV1.message : ExecutionErrorV1 → String
  | .publicHttp _ text _ _ _ => "public_http: " ++ text
  | .publicContract field text => field ++ ": " ++ text
  | .other text => text

/-- How a call can fail. -/
inductive CallFailureCodeV1 where
  | invalidTimeout
  | sessionRequired
  | requestBlocked
  | requestBudgetExhausted
  | requestTimeout
  | responseTooLarge
  | responseInvalidJson
  | responseContractMismatch
  | transportFailure
  | cancelled
  | invalidInput
  | browserUnavailable
  | browserInteractionFailed
  deriving DecidableEq

/-- A failure with what its executor said about it. -/
structure CallFailureV1 where
  code : CallFailureCodeV1
  attempts : Nat
  reason : Option String
  diagnostic : Option JsonValueV1
  cause : Option JsonValueV1

/-- A failure that no executor explains. -/
def CallFailureV1.plain (code : CallFailureCodeV1) (attempts : Nat) : CallFailureV1 :=
  { code, attempts, reason := none, diagnostic := none, cause := none }

/-- What a call resolves to. -/
inductive CallResultV1 where
  | evaluated (result : OutcomeEvaluationResultV1) (attempts : Nat)
  | failure (failure : CallFailureV1)

/-- The target requests a result reports. -/
def CallResultV1.attempts : CallResultV1 → Nat
  | .evaluated _ attempts => attempts
  | .failure failed => failed.attempts

/-- What one attempt meets outside the caller: the clock as it begins and as a retry is weighed,
what the executor and the outcome contracts make of it, and how the wait before a retry ends. -/
structure AttemptV1 where
  startedAt : Int
  /-- The target requests a response reports, when they are a safe integer. -/
  answer : Except ExecutionErrorV1 (Option Int)
  evaluation : Except ExecutionErrorV1 OutcomeEvaluationResultV1
  /-- The random number, when it is a finite one. -/
  random : Option Rat
  weighedAt : Int
  waitCompletes : Bool

/-- The requests a response counts, which may be no more than the call has left. -/
def parseConsumedTargetRequests (value : Option Int) (remaining : Nat) :
    Except ExecutionErrorV1 Nat :=
  match value with
  | some value =>
    if value < 1 ∨ (remaining : Int) < value then
      .error (.publicHttp .transportFailure
        "HTTP executor returned an invalid target request count" 0 none none)
    else .ok value.toNat
  | none =>
    .error (.publicHttp .transportFailure
      "HTTP executor returned an invalid target request count" 0 none none)

/-- The requests an error counts. -/
def consumedTargetRequestsOnFailure (error : ExecutionErrorV1) (remaining : Nat) : Nat :=
  if remaining < 1 then 0
  else
    match error with
    | .publicHttp code _ targetRequests _ _ =>
      if (remaining : Int) < targetRequests then remaining
      else if 0 < targetRequests then targetRequests.toNat
      else if code = .transportFailure ∨ code = .requestTimeout then 1
      else 0
    | _ => 1

/-- The failure an executor's code stands for, apart from the two codes that need a look at more
than the code. -/
def PublicHttpErrorCodeV1.failureCode : PublicHttpErrorCodeV1 → CallFailureCodeV1
  | .cancelled => .cancelled
  | .invalidRequest => .invalidInput
  | .requestBlocked => .requestBlocked
  | .requestBudgetExhausted => .requestBudgetExhausted
  | .requestTimeout => .requestTimeout
  | .responseTooLarge => .responseTooLarge
  | .responseInvalidJson => .responseInvalidJson
  | .responseContractMismatch => .responseContractMismatch
  | .transportFailure => .transportFailure
  | .browserUnavailable => .browserUnavailable
  | .browserInteractionFailed => .browserInteractionFailed

/-- The failure an error stands for. -/
def mapExecutionError (error : ExecutionErrorV1) (attempts : Nat) : CallFailureV1 :=
  match error with
  | .publicHttp .invalidRequest _ _ _ _ =>
    { CallFailureV1.plain .invalidInput attempts with reason := some error.message }
  | .publicHttp .browserInteractionFailed _ _ (some cause) _ =>
    { CallFailureV1.plain .browserInteractionFailed attempts with cause := some cause }
  | .publicHttp .browserInteractionFailed _ _ none _ =>
    { CallFailureV1.plain .transportFailure attempts with reason := some error.message }
  | .publicHttp code _ _ _ diagnostic =>
    { CallFailureV1.plain code.failureCode attempts with reason := some error.message, diagnostic }
  | .publicContract _ _ =>
    { CallFailureV1.plain .invalidInput attempts with reason := some error.message }
  | .other _ =>
    { CallFailureV1.plain .transportFailure attempts with reason := some error.message }

/-- A random number inside the unit interval. -/
def boundedRandom (random : Option Rat) : Rat :=
  match random with
  | none => 0
  | some value => min 1 (max 0 value)

/-- How long to wait before a retry. -/
def retryDelay (policy : CallRetryPolicyV1) (retry : Nat) (structuralRetryAfterMs : Option Nat)
    (random : Option Rat) : Int :=
  let exponential := min policy.maxDelayMs (policy.baseDelayMs * 2 ^ (retry - 1))
  let jitter := (exponential * policy.jitterRatio * boundedRandom random).floor
  let structural :=
    if policy.honorStructuralRetryAfter then structuralRetryAfterMs.getD 0 else 0
  max (exponential + jitter) structural

/-- Waits before a retry, which a cancellation ends with an error. -/
def waitForRetry (attempt : AttemptV1) : Except ExecutionErrorV1 Unit :=
  if attempt.waitCompletes then .ok ()
  else .error (.publicHttp .cancelled "caller cancelled retry wait" 0 none none)

/-- Where a call stands between two turns of its loops. -/
structure CallStateV1 where
  deadline : Int
  /-- The strategies left, of which the first is the one being attempted. -/
  strategies : List StableContractIdV1
  retries : Nat
  targetRequests : Nat
  lastResult : Option CallResultV1
  /-- How many attempts the call has made. -/
  made : Nat

/-- How the guarded part of an attempt ends when nothing is thrown. -/
inductive AttemptBodyV1 where
  | returned (result : CallResultV1)
  | retried
  | left (result : CallResultV1)

/-- The requests a call may still make. -/
def CallStateV1.remaining (state : CallStateV1) (capability : CalledCapabilityV1) : Nat :=
  capability.maxTargetRequestsPerCall - state.targetRequests

/-- Whether an outcome that has been observed is retried. -/
def retriesOutcome (capability : CalledCapabilityV1) (state : CallStateV1) (outcome : OutcomeV1) :
    Bool :=
  (outcome.outcomeClass.retryClass.map fun retryClass =>
    decide (retryClass ∈ capability.callRetryPolicy.on)).getD false &&
      decide (state.retries < capability.callRetryPolicy.maxRetries)

/-- What a call makes of an evaluated response. -/
def settleEvaluation (capability : CalledCapabilityV1) (state : CallStateV1)
    (attempt : AttemptV1) (evaluation : OutcomeEvaluationResultV1) :
    CallStateV1 × Except ExecutionErrorV1 AttemptBodyV1 :=
  match evaluation with
  | .outcome outcome =>
    if retriesOutcome capability state outcome then
      let state := { state with retries := state.retries + 1 }
      if state.deadline - attempt.weighedAt < retryDelay capability.callRetryPolicy state.retries
          outcome.retryAfterMs attempt.random then
        (state, .ok (.returned (.evaluated evaluation state.targetRequests)))
      else (state, (waitForRetry attempt).map fun _ => .retried)
    else (state, .ok (.returned (.evaluated evaluation state.targetRequests)))
  | evaluation => (state, .ok (.left (.evaluated evaluation state.targetRequests)))

/-- The guarded part of an attempt: its call, the count of its requests and its evaluation. -/
def attemptBody (capability : CalledCapabilityV1) (state : CallStateV1)
    (attempt : AttemptV1) : CallStateV1 × Except ExecutionErrorV1 AttemptBodyV1 :=
  match attempt.answer with
  | .error error => (state, .error error)
  | .ok reported =>
    match parseConsumedTargetRequests reported (state.remaining capability) with
    | .error error => (state, .error error)
    | .ok consumed =>
      let state := { state with targetRequests := state.targetRequests + consumed }
      match attempt.evaluation with
      | .error error => (state, .error error)
      | .ok evaluation => settleEvaluation capability state attempt evaluation

/-- How an attempt leaves its call. -/
inductive AttemptFlowV1 where
  | resolved (result : CallResultV1)
  | rejected (error : ExecutionErrorV1)
  | retried (state : CallStateV1)
  | left (state : CallStateV1)

/-- Whether a failure is retried. -/
def retriesFailure (capability : CalledCapabilityV1) (state : CallStateV1)
    (failure : CallFailureV1) : Bool :=
  decide (failure.code = .transportFailure ∧
    .transportFailure ∈ capability.callRetryPolicy.on ∧
      state.retries < capability.callRetryPolicy.maxRetries)

/-- What a call makes of an error that its attempt has thrown. -/
def handleExecutionError (capability : CalledCapabilityV1) (state : CallStateV1)
    (attempt : AttemptV1) (error : ExecutionErrorV1) : AttemptFlowV1 :=
  let state := { state with targetRequests :=
    state.targetRequests + consumedTargetRequestsOnFailure error (state.remaining capability) }
  let failure := mapExecutionError error state.targetRequests
  if retriesFailure capability state failure then
    let state := { state with retries := state.retries + 1 }
    if state.deadline - attempt.weighedAt <
        retryDelay capability.callRetryPolicy state.retries none attempt.random then
      .resolved (.failure failure)
    else
      -- The wait stands outside every handler, so that its own error rejects the call.
      match waitForRetry attempt with
      | .error error => .rejected error
      | .ok _ => .retried state
  else if failure.code = .transportFailure ∨ failure.code = .requestTimeout then
    .left { state with lastResult := some (.failure failure) }
  else .resolved (.failure failure)

/-- One attempt of a call. -/
def attemptOnce (capability : CalledCapabilityV1) (state : CallStateV1)
    (attempt : AttemptV1) : AttemptFlowV1 :=
  match attemptBody capability state attempt with
  | (state, .error error) => handleExecutionError capability state attempt error
  | (_, .ok (.returned result)) => .resolved result
  | (state, .ok .retried) => .retried state
  | (state, .ok (.left result)) => .left { state with lastResult := some result }

/-- One attempt with the state the call was in before it. -/
structure CallStepV1 where
  state : CallStateV1
  attempt : AttemptV1

/-- The attempts a call made and how it was settled in the end. -/
structure CallRunV1 where
  steps : List CallStepV1
  settlement : Except ExecutionErrorV1 CallResultV1

/-- A run of a call that ends before another attempt. -/
def CallRunV1.settled (result : CallResultV1) : CallRunV1 :=
  { steps := [], settlement := .ok result }

/-- A run of a call that began with one more attempt. -/
def CallRunV1.after (step : CallStepV1) (run : CallRunV1) : CallRunV1 :=
  { run with steps := step :: run.steps }

/-- The state of a call that turns to its next strategy. -/
def CallStateV1.nextStrategy (state : CallStateV1) : CallStateV1 :=
  { state with strategies := state.strategies.tail, retries := 0 }

/-- The state of a call that has made one more attempt. -/
def CallStateV1.counted (state : CallStateV1) : CallStateV1 :=
  { state with made := state.made + 1 }

/-- The loops of a call, for at most as many turns as there is fuel. -/
def callLoop (capability : CalledCapabilityV1) (attempts : Nat → AttemptV1) :
    Nat → CallStateV1 → Option CallRunV1
  | 0, _ => none
  | fuel + 1, state =>
    if state.strategies.isEmpty then
      some (.settled (state.lastResult.getD
        (.failure (.plain .transportFailure state.targetRequests))))
    else if capability.maxTargetRequestsPerCall ≤ state.targetRequests then
      callLoop capability attempts fuel state.nextStrategy
    else
      let attempt := attempts state.made
      if state.deadline - attempt.startedAt ≤ 0 then
        some (.settled (.failure (.plain .requestTimeout state.targetRequests)))
      else
        let step : CallStepV1 := { state, attempt }
        match attemptOnce capability state attempt with
        | .resolved result => some { steps := [step], settlement := .ok result }
        | .rejected error => some { steps := [step], settlement := .error error }
        | .retried next =>
          (callLoop capability attempts fuel next.counted).map (CallRunV1.after step)
        | .left next =>
          (callLoop capability attempts fuel next.counted.nextStrategy).map
            (CallRunV1.after step)

/-- More turns than the loops of a call can take. -/
def CalledCapabilityV1.turns (capability : CalledCapabilityV1) : Nat :=
  (capability.strategies.length + 1) * (capability.callRetryPolicy.maxRetries + 1)

/-- The state of a call before its first turn. -/
def CalledCapabilityV1.begin (capability : CalledCapabilityV1) (deadline : Int) : CallStateV1 :=
  { deadline, strategies := capability.strategies, retries := 0, targetRequests := 0,
    lastResult := none, made := 0 }

/-- Calls a capability, with the attempts the call will make as the outside world answers them. -/
def call (capability : CalledCapabilityV1) (options : PublicCallOptionsV1) (startedAt : Int)
    (attempts : Nat → AttemptV1) : Option CallRunV1 :=
  let refused (code : CallFailureCodeV1) : CallRunV1 := .settled (.failure (.plain code 0))
  if capability.requiresSession ∧ !options.hasBrowserStorageState then some (refused .sessionRequired)
  else
    match (options.timeoutMs.getD (.ofInt capability.totalTimeoutMs)).safeInteger with
    | none => some (refused .invalidTimeout)
    | some totalTimeout =>
      if totalTimeout < 1 ∨ (capability.totalTimeoutMs : Int) < totalTimeout then
        some (refused .invalidTimeout)
      else
        callLoop capability attempts capability.turns (capability.begin (startedAt + totalTimeout))

end Klura
