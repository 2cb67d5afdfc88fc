import Klura.Run.AttemptOrder
import Klura.Run.Frontier

/-! One chain of pages, cut at the points where it waits for a call or for its commit turn. -/

namespace Klura

/-- What one call to a capability returned. -/
inductive PublicCallResultV1 where
  | outcome (outcomeId : StableContractIdV1) (outcomeClass : String) (data : Option JsonValueV1)
      (attempts : Nat)
  | unclassifiedResponse (attempts : Nat)
  | ambiguousResponse (attempts : Nat)
  | verificationFailed (attempts : Nat)
  | projectionFailed (attempts : Nat)
  | failure (code : String) (attempts : Nat)

namespace PublicCallResultV1

/-- The kind of a result. -/
def kind : PublicCallResultV1 → ResultKindV1
  | .outcome .. => .outcome
  | .unclassifiedResponse _ => .unclassifiedResponse
  | .ambiguousResponse _ => .ambiguousResponse
  | .verificationFailed _ => .verificationFailed
  | .projectionFailed _ => .projectionFailed
  | .failure .. => .failure

/-- The target requests the call reports to have made. -/
def attempts : PublicCallResultV1 → Nat
  | .outcome _ _ _ attempts | .unclassifiedResponse attempts | .ambiguousResponse attempts
  | .verificationFailed attempts | .projectionFailed attempts | .failure _ attempts => attempts

/-- A result in the words of a stop reason. -/
def describe : PublicCallResultV1 → String
  | .outcome outcomeId outcomeClass _ _ => "outcome " ++ outcomeId.text ++ " (" ++ outcomeClass ++ ")"
  | .failure code _ => "failure " ++ code
  | result => result.kind.text

/-- The outcome of a result that its task accepts as a page or as the end of its chain. -/
def acceptedPage (result : PublicCallResultV1) (task : ScrapeTaskKindV1) : Option PageContextV1 :=
  match result with
  | .outcome outcomeId outcomeClass taskData _ =>
    if outcomeId ∈ task.pageOutcomeIds ∨ outcomeId ∈ task.terminalOutcomeIds then
      some { taskData, outcomeId, outcomeClass }
    else none
  | _ => none

end PublicCallResultV1

/-- How one chain ended. -/
inductive TaskChainExecutionResultV1 where
  | ok (items : List JsonValueV1) (retainedFanoutItemBytes : Int)
  | completed (stop : RunCompletionStopV1)
  | failed (stop : RunStopV1)

/-- One dispatched node with the task and capability that execute it. -/
structure BatchEntryV1 where
  node : ScrapeNodeV1
  task : ScrapeTaskKindV1
  capability : PublicReadCapabilityV1

/-- The local variables of one executing chain. -/
structure TaskChainV1 where
  node : ScrapeNodeV1
  task : ScrapeTaskKindV1
  capability : PublicReadCapabilityV1
  maximumPagesInChain : Option Nat
  taskInput : JsonValueV1
  seenInputs : List Sha256DigestV1
  emittedItems : List JsonValueV1
  retainedFanoutItemBytes : Int
  pagesStartedInChain : Nat
  chainOrdinal : Option Nat
  ownsCommitTurn : Bool
  /-- Target requests reserved for a call that has not reported any. -/
  heldTargetRequests : Int
  /-- Reorder bytes reserved for a chain that has not got its turn. -/
  heldReorderBytes : Int

/-- What a chain goes on to do once it has its commit turn. -/
inductive ClaimContinuationV1 where
  | rejected (result : PublicCallResultV1)
  | page (context : PageContextV1) (items : List BufferedRunItemV1)
  | failed (stop : RunStopV1) (error : RunError)

/-- Where a chain stands between two of its synchronous stretches. -/
inductive ChainPhaseV1 where
  | calling (chain : TaskChainV1)
  | claiming (chain : TaskChainV1) (continuation : ClaimContinuationV1)
  | returned (result : TaskChainExecutionResultV1)
  | thrown (error : RunError)

/-- How one synchronous stretch of a chain ended. -/
inductive ChainFlowV1 where
  | await (phase : ChainPhaseV1)
  | done (chain : TaskChainV1) (result : TaskChainExecutionResultV1)
  | raised (chain : TaskChainV1) (error : RunError)

/-- The stop a task-chain error classifies as, or none when it must propagate. -/
def chainStopForError : RunError → Option RunStopV1
  | .runBudgetExceeded _ => some .runBudgetExhausted
  | .dataSpool code _ => if code = .durableBudgetExhausted then some .runBudgetExhausted else none
  | .runOutputSink .. => some .outputSinkFailure
  | .runJournal code _ => if code = .durableBudgetExhausted then some .runBudgetExhausted else none
  | .itemValidation _ | .semanticStopItem _ => some .itemInvalid
  | error => if error.isPublicContractError then some .itemInvalid else none

/-- The execution control's stop, which a look at the clock may latch. -/
def controlStop : RunProgram (Option RunStopV1) := do
  let world ← get
  match world.controlStop, world.clock with
  | some stop, _ => return some stop
  | none, [] => return none
  | none, late :: clock =>
    if late then do
      set { world with controlStop := some .deadlineExhausted, clock }
      return some .deadlineExhausted
    else do
      set { world with clock }
      return none

/-- The stop a chain has to obey: one its batch reported, or the execution control's. -/
def chainStop : RunProgram (Option RunStopV1) := do
  let world ← get
  match world.batchStop with
  | some stop => return some stop
  | none => controlStop

/-- Whether a failed chain stops the chains beside it. -/
def stopsBatch (task : ScrapeTaskKindV1) (stop : RunStopV1) : Bool :=
  decide (task.onFailure = .stopRun ∨ stop = .cancelled ∨ stop = .deadlineExhausted)

/-- Reports a stop to the batch, where the first one reported stays. -/
def reportStop (stop : RunStopV1) : RunProgram PUnit :=
  modify fun world => { world with batchStop := world.batchStop.orElse fun _ => some stop }

/-- Fails a chain with a stop, recording the cause when there is one. -/
def failTaskChain (env : RunEnvironment) (chain : TaskChainV1) (stop : RunStopV1)
    (cause : Option StopCauseV1) : RunProgram TaskChainExecutionResultV1 := do
  match cause with
  | some cause => recordStopReason env chain.node.nodeId chain.task.id stop cause
  | none => pure ()
  if stopsBatch chain.task stop then reportStop stop
  return .failed stop

/-- Gives back what an attempt still holds, as its innermost cleanup does. -/
def leaveAttempt (chain : TaskChainV1) : RunProgram TaskChainV1 := do
  modifyState fun state =>
    { state with
      reservedTargetRequests := state.reservedTargetRequests - chain.heldTargetRequests
      reservedReorderBufferBytes := state.reservedReorderBufferBytes - chain.heldReorderBytes }
  return { chain with heldTargetRequests := 0, heldReorderBytes := 0 }

/-- Fails a chain in the middle of an attempt. -/
def failAttempt (env : RunEnvironment) (chain : TaskChainV1) (stop : RunStopV1)
    (cause : Option StopCauseV1) : RunProgram ChainFlowV1 := do
  let result ← failTaskChain env chain stop cause
  let chain ← leaveAttempt chain
  return .done chain result

/-- Waits for the chain's commit turn, unless it has it already. -/
def claimCommitTurn (chain : TaskChainV1) (continuation : ClaimContinuationV1) :
    RunProgram ChainFlowV1 := do
  if chain.ownsCommitTurn then return .await (.claiming chain continuation)
  else
    match chain.chainOrdinal with
    | none => throw (.publicContract "run.attempt_order" "chain ordinal is unavailable")
    | some ordinal => do
      waitForTurn ordinal
      return .await (.claiming chain continuation)

/-- Handles an error of an attempt: a classified one waits for the turn, any other aborts. -/
def handleAttemptError (chain : TaskChainV1) (error : RunError) :
    RunProgram ChainFlowV1 :=
  match chainStopForError error with
  | none => do
    abortAttempts error
    let chain ← leaveAttempt chain
    return .raised chain error
  | some stop =>
    -- Nothing catches an error raised while the turn is being claimed here.
    tryCatch (claimCommitTurn chain (.failed stop error)) fun error => do
      let chain ← leaveAttempt chain
      return .raised chain error

/-- Whether one of the run's ceilings forbids the chain another attempt. -/
def attemptForbidden (env : RunEnvironment) (state : ExecutionStateV1) (chain : TaskChainV1) :
    Bool :=
  decide (env.policy.maxTasks ≤ state.tasksStarted) ||
    decide (chain.task.taskRole = .page ∧ env.policy.maxPages ≤ state.pagesStarted) ||
    (chain.maximumPagesInChain.map fun maximum =>
      decide (maximum ≤ chain.pagesStartedInChain)).getD false ||
    decide ((env.policy.maxRequests : Int) < state.summary.targetRequests +
      state.reservedTargetRequests + chain.capability.maxTargetRequestsPerCall)

/-- The bytes a chain that starts out of turn reserves for its result. -/
def TaskChainV1.reorderBytes (env : RunEnvironment) (world : World) (chain : TaskChainV1) : Int :=
  if chain.chainOrdinal.isNone ∧ 0 < world.attemptOrder.nextAllocated then
    maximumBufferedPageBytes env.policy chain.capability
  else 0

/-- The pages a chain has started, once it has started the next one. -/
def TaskChainV1.nextPage (chain : TaskChainV1) : Nat :=
  chain.pagesStartedInChain + (if chain.task.taskRole = .page then 1 else 0)

/-- Sends the call of an attempt whose intent is recorded. -/
def placeAttempt (env : RunEnvironment) (chain : TaskChainV1) : RunProgram ChainFlowV1 := do
  let world ← get
  let reorderBytes := chain.reorderBytes env world
  if (env.policy.durable.maxReorderBufferBytes : Int) <
      world.state.reservedReorderBufferBytes + reorderBytes then
    failAttempt env chain .runBudgetExhausted none
  else do
    let ordinal ← match chain.chainOrdinal with
      | some ordinal => pure ordinal
      | none => allocateAttempt
    modifyState fun state =>
      { state with
        reservedReorderBufferBytes := state.reservedReorderBufferBytes + reorderBytes
        tasksStarted := state.tasksStarted + 1
        pagesStarted := state.pagesStarted + (if chain.task.taskRole = .page then 1 else 0)
        reservedTargetRequests :=
          state.reservedTargetRequests + chain.capability.maxTargetRequestsPerCall }
    return .await (.calling { chain with
      chainOrdinal := some ordinal
      pagesStartedInChain := chain.nextPage
      node := if chain.task.taskRole = .page then
        { chain.node with pagesStartedInChain := chain.nextPage } else chain.node
      heldTargetRequests := chain.capability.maxTargetRequestsPerCall
      heldReorderBytes := reorderBytes })

/-- Starts the chain's next attempt, or ends the chain when a stop or a ceiling forbids one. -/
def beginAttempt (env : RunEnvironment) (chain : TaskChainV1) : RunProgram ChainFlowV1 := do
  let stop ← chainStop
  match stop with
  | some stop => failAttempt env chain stop none
  | none => do
    let world ← get
    if attemptForbidden env world.state chain then failAttempt env chain .runBudgetExhausted none
    else do
      let recorded ← append env (.attemptIntent chain.node.nodeId chain.task.id)
      if !recorded then failAttempt env chain .runBudgetExhausted none
      else placeAttempt env chain

/-- Starts an attempt, where an error ends the chain without being classified. -/
def nextAttempt (env : RunEnvironment) (chain : TaskChainV1) : RunProgram ChainFlowV1 :=
  tryCatch (beginAttempt env chain) fun error => return .raised chain error

/-- Buffers the items of an accepted page, of which the end of a chain has none. -/
def bufferPage (env : RunEnvironment) (chain : TaskChainV1) (context : PageContextV1) :
    RunProgram (List BufferedRunItemV1) :=
  if context.outcomeId ∈ chain.task.terminalOutcomeIds then pure []
  else
    bufferRunItems env chain.task chain.node.nodeId chain.node.outputOrdinal
      ((chain.pagesStartedInChain : Int) - 1) context.taskData

/-- Records what a call returned and buffers its items. -/
def observeResult (env : RunEnvironment) (chain : TaskChainV1) (result : PublicCallResultV1) :
    RunProgram ChainFlowV1 := do
  let recorded ← append env
    (.attemptObserved chain.node.nodeId chain.task.id result.kind result.attempts)
  if !recorded then failAttempt env chain .runBudgetExhausted none
  else do
    let stop ← chainStop
    match stop with
    | some stop => failAttempt env chain stop none
    | none =>
      match result.acceptedPage chain.task with
      | none => claimCommitTurn chain (.rejected result)
      | some context => do
        let items ← bufferPage env chain context
        claimCommitTurn chain (.page context items)

/-- The stretch of a chain that follows its call. -/
def afterCall (env : RunEnvironment) (chain : TaskChainV1)
    (answer : Except RunError PublicCallResultV1) : RunProgram ChainFlowV1 :=
  match answer with
  | .error error => handleAttemptError chain error
  | .ok result => do
    let held := chain.heldTargetRequests
    let chain := { chain with heldTargetRequests := 0 }
    modifyState fun state =>
      { state with
        reservedTargetRequests := state.reservedTargetRequests - held
        summary := { state.summary with
          targetRequests := state.summary.targetRequests + result.attempts } }
    tryCatch (observeResult env chain result) (handleAttemptError chain)

/-- How one half of a page's commit went on. -/
inductive PageFlowV1 where
  | leave (flow : ChainFlowV1)
  | exhausted
  | emitted (emission : ItemEmissionV1)
  | next (chain : TaskChainV1)

/-- Completes the page's task and commits its items. -/
def commitPage (env : RunEnvironment) (chain : TaskChainV1) (context : PageContextV1)
    (items : List BufferedRunItemV1) : RunProgram PageFlowV1 := do
  let stop ← chainStop
  match stop with
  | some stop => return .leave (← failAttempt env chain stop none)
  | none => do
    let recorded ← append env (.taskCompleted chain.node.nodeId chain.task.id)
    if !recorded then return .leave (← failAttempt env chain .runBudgetExhausted none)
    else do
      modifyState fun state =>
        { state with summary :=
            { state.summary with tasksCompleted := state.summary.tasksCompleted + 1 } }
      if context.outcomeId ∈ chain.task.terminalOutcomeIds then return .exhausted
      else do
        let emission ← commitBufferedRunItems env (!chain.task.fanout.isEmpty) items
        return .emitted emission

/-- The budget stop a committed page has just made unavoidable, if any. -/
def ceilingReachedAfterPage (env : RunEnvironment) (state : ExecutionStateV1)
    (chain : TaskChainV1) : Option RunStopV1 :=
  if env.policy.maxItems ≤ state.summary.itemsEmitted then some .runBudgetExhausted
  else if chain.task.taskRole = .page ∧ env.policy.maxPages ≤ state.pagesStarted then
    some .runBudgetExhausted
  else if (chain.maximumPagesInChain.map fun maximum =>
      decide (maximum ≤ chain.pagesStartedInChain)).getD false then
    some .runBudgetExhausted
  else none

/-- Makes the chain's progress to its next page durable. -/
def continueChain (env : RunEnvironment) (chain : TaskChainV1) (continuation : JsonValueV1) :
    RunProgram PageFlowV1 := do
  match canonicalIssue continuation "$" 0 with
  | some field => throw (.publicContract field "exceeds the canonical JSON depth limit")
  | none => do
    let digest := env.digestOf continuation
    if digest ∈ chain.seenInputs then
      return .leave (← failAttempt env chain .taskFailed
        (some (.text "pagination produced an input this chain already used")))
    else
      match chain.capability.inputSchema continuation "run.pagination.input" with
      | some issue =>
        return .leave (← failAttempt env chain .taskFailed (some (.raised issue.raised)))
      | none => do
        let seenInputs := chain.seenInputs ++ [digest]
        let node := { chain.node with input := continuation, seenInputDigests := seenInputs }
        let chain := { chain with node, seenInputs, taskInput := continuation }
        let recorded ← persistDurableNodeProgress env node
        if !recorded then return .leave (← failAttempt env chain .runBudgetExhausted none)
        else return .next chain

/-- Decides whether the chain has a next page. -/
def continuePage (env : RunEnvironment) (chain : TaskChainV1) (context : PageContextV1) :
    RunProgram PageFlowV1 := do
  let continuation ← orThrow (nextPaginationInput chain.task chain.taskInput context)
  match continuation with
  | none => return .exhausted
  | some continuation => do
    let stop ← chainStop
    let world ← get
    match stop.orElse fun _ => ceilingReachedAfterPage env world.state chain with
    | some stop => return .leave (← failAttempt env chain stop none)
    | none => continueChain env chain continuation

/-- Ends a chain that has no next page. -/
def exhaustChain (chain : TaskChainV1) : ChainFlowV1 :=
  .done chain (.ok chain.emittedItems chain.retainedFanoutItemBytes)

/-- Commits a page in the chain's turn and goes on to the next one. -/
def commitChainPage (env : RunEnvironment) (chain : TaskChainV1) (context : PageContextV1)
    (items : List BufferedRunItemV1) : RunProgram ChainFlowV1 := do
  let committed ← tryCatch (commitPage env chain context items) fun error => do
    return .leave (← handleAttemptError chain error)
  match committed with
  | .leave flow => return flow
  | .exhausted => return exhaustChain chain
  | .next chain => nextAttempt env chain
  | .emitted emission => do
    let chain := { chain with
      emittedItems := chain.emittedItems ++ emission.items
      retainedFanoutItemBytes := chain.retainedFanoutItemBytes + emission.retainedItemBytes }
    match emission.semanticStopId with
    | some stopId => return .done chain (.completed (.dateCutoffReached stopId))
    | none => do
      let continued ← tryCatch (continuePage env chain context) fun error => do
        return .leave (← handleAttemptError chain error)
      match continued with
      | .leave flow => return flow
      | .next chain => nextAttempt env chain
      | .exhausted | .emitted _ => return exhaustChain chain

/-- The stretch of a chain that follows the settlement of its commit turn. -/
def afterTurn (env : RunEnvironment) (chain : TaskChainV1) (continuation : ClaimContinuationV1)
    (settlement : TurnSettlement) : RunProgram ChainFlowV1 := do
  match settlement with
  | .rejected reason =>
    match continuation with
    | .failed _ _ => do
      let chain ← leaveAttempt chain
      return .raised chain reason
    | _ => handleAttemptError chain reason
  | .resolved => do
    modifyState fun state =>
      { state with
        reservedReorderBufferBytes := state.reservedReorderBufferBytes - chain.heldReorderBytes }
    let chain := { chain with ownsCommitTurn := true, heldReorderBytes := 0 }
    match continuation with
    | .rejected result =>
      tryCatch
        (match result with
          | .failure "cancelled" _ => failAttempt env chain .cancelled none
          | result => failAttempt env chain .taskFailed
              (some (.text ("page attempt returned " ++ result.describe))))
        (handleAttemptError chain)
    | .page context items => commitChainPage env chain context items
    | .failed stop error =>
      tryCatch (failAttempt env chain stop (some (.raised error))) fun error => do
        let chain ← leaveAttempt chain
        return .raised chain error

/-- Gives back what a chain retained and releases its turn, as its outermost cleanup does. -/
def leaveChain (chain : TaskChainV1) (transferred : Bool) : RunProgram PUnit := do
  if !transferred ∧ 0 < chain.retainedFanoutItemBytes then
    modifyState fun state =>
      { state with
        retainedFanoutItemBytes := state.retainedFanoutItemBytes - chain.retainedFanoutItemBytes }
  releaseOwnedAttemptTurn chain.chainOrdinal chain.ownsCommitTurn

/-- Whether a chain's result hands its retained items on to the fan-out. -/
def TaskChainExecutionResultV1.transfersRetention : TaskChainExecutionResultV1 → Bool
  | .ok .. => true
  | _ => false

/-- Where a stretch of a chain leaves it, once its outermost cleanup has run. -/
def settleFlow : ChainFlowV1 → RunProgram ChainPhaseV1
  | .await phase => return phase
  | .done chain result => do
    leaveChain chain result.transfersRetention
    return .returned result
  | .raised chain error => do
    leaveChain chain false
    return .thrown error

end Klura
