import Klura.Run.TaskChain
import Klura.Run.ResultReader

/-! Executing a run's frontier batch by batch, as steps between the points where it waits. -/

namespace Klura

/-- A chain's local variables before its first attempt. -/
def initialChain (entry : BatchEntryV1) (maximumPagesInChain : Option Nat)
    (emittedItems : List JsonValueV1) : TaskChainV1 :=
  { node := entry.node, task := entry.task, capability := entry.capability, maximumPagesInChain,
    taskInput := entry.node.input, seenInputs := entry.node.seenInputDigests, emittedItems,
    retainedFanoutItemBytes := 0, pagesStartedInChain := entry.node.pagesStartedInChain,
    chainOrdinal := none, ownsCommitTurn := false, heldTargetRequests := 0, heldReorderBytes := 0 }

/-- Opens a chain whose page limit is known, up to its first call. -/
def openChain (env : RunEnvironment) (entry : BatchEntryV1) (maximumPagesInChain : Option Nat) :
    RunProgram ChainPhaseV1 := do
  let world ← get
  if entry.task.fanout.isEmpty then do
    let flow ← nextAttempt env (initialChain entry maximumPagesInChain [])
    settleFlow flow
  else
    match readCommittedNodeItems world.disk entry.node.nodeId with
    | .error error => return .thrown error
    | .ok emittedItems => do
      let chain := initialChain entry maximumPagesInChain emittedItems
      let retained ← reserveRetainedFanoutItems env emittedItems
      match retained with
      | none => do
        let flow ← tryCatch (failAttempt env chain .runBudgetExhausted none) fun error =>
          return .raised chain error
        settleFlow flow
      | some bytes => do
        let flow ← nextAttempt env { chain with retainedFanoutItemBytes := bytes }
        settleFlow flow

/-- Starts one chain of a batch and runs it up to its first call. -/
def enterChain (env : RunEnvironment) (entry : BatchEntryV1) : RunProgram ChainPhaseV1 :=
  match entry.task.pagination with
  | none => openChain env entry none
  | some pagination =>
    match env.namedLimit pagination.maxPagesPerChain with
    | some maximum => openChain env entry (some maximum)
    | none =>
      tryCatch
        (do
          let result ← failTaskChain env (initialChain entry none []) .taskFailed
            (some (.text "the pagination page limit is not among the run limits"))
          return .returned result)
        fun error => return .thrown error

/-- One chain of the current batch. -/
structure ActiveChainV1 where
  entry : BatchEntryV1
  phase : ChainPhaseV1

/-- Starts the chains of a batch in order. -/
def startChains (env : RunEnvironment) : List BatchEntryV1 → RunProgram (List ActiveChainV1)
  | [] => return []
  | entry :: rest => do
    let phase ← enterChain env entry
    let chains ← startChains env rest
    return { entry, phase } :: chains

/-- Why a dequeued node cannot run: its task kind or its capability is gone. -/
def missingTaskCause (node : ScrapeNodeV1) (task : Option ScrapeTaskKindV1) : String :=
  if task.isNone then "task kind " ++ node.taskKindId.text ++ " is not declared by the collection"
  else "capability " ++ node.capability.text ++ " is absent from the package"

/-- What one turn of the run's loop came to: a result, or the chains it now waits for. -/
inductive FrontierFlowV1 where
  | result (result : LocalScrapeRunResultV1)
  | batch (chains : List ActiveChainV1)

/-- The nodes of the next batch, or the result of a run that cannot execute one of them. -/
inductive BatchPlanV1 where
  | result (result : LocalScrapeRunResultV1)
  | entries (entries : List BatchEntryV1)

/-- Takes up to a number of nodes from the frontier. -/
def takeBatch (env : RunEnvironment) : Nat → RunProgram BatchPlanV1
  | 0 => return .entries []
  | workers + 1 => do
    let world ← get
    match world.frontier.dequeue with
    | none => return .entries []
    | some (node, frontier) => do
      set { world with frontier }
      match env.taskKind node.taskKindId, env.capability node.capability with
      | some task, some capability => do
        let plan ← takeBatch env workers
        match plan with
        | .result result => return .result result
        | .entries entries => return .entries ({ node, task, capability } :: entries)
      | task, _ => do
        recordStopReason env node.nodeId node.taskKindId .taskFailed
          (.text (missingTaskCause node task))
        let result ← finish env .taskFailed
        return .result result

/-- Ends a run whose frontier is exhausted. -/
def finishExhausted (env : RunEnvironment) : RunProgram LocalScrapeRunResultV1 := do
  let world ← get
  if world.state.hadIndependentFailure then finish env .taskFailed
  else finalizeSuccessfulRun env .sourceExhausted

/-- Dispatches the next batch, or ends the run when there is none. -/
def dispatchBatch (env : RunEnvironment) : RunProgram FrontierFlowV1 := do
  let world ← get
  if world.frontier.nodes.isEmpty then return .result (← finishExhausted env)
  else do
    let stop ← controlStop
    match stop with
    | some stop => return .result (← finish env stop)
    | none => do
      let plan ← takeBatch env (resolveBoundedAttemptConcurrency env)
      match plan with
      | .result result => return .result result
      | .entries entries => do
        modify fun world =>
          { world with attemptOrder := AttemptOrderV1.initial, batchStop := none }
        return .batch (← startChains env entries)

/-- Skips a failed task, or ends the run when the skip cannot be recorded. -/
def skipTask (env : RunEnvironment) (entry : BatchEntryV1) (stop : RunStopV1) :
    RunProgram (Option LocalScrapeRunResultV1) := do
  modifyState fun state =>
    { state with
      hadIndependentFailure := true
      summary := { state.summary with tasksFailed := state.summary.tasksFailed + 1 } }
  let recorded ← append env (.taskSkipped entry.node.nodeId entry.task.id stop)
  if !recorded then return some (← finish env .runBudgetExhausted) else return none

/-- Enqueues a node's children, up to the first one that a stop or a budget forbids. -/
def enqueueChildren (env : RunEnvironment) :
    List ScrapeNodeV1 → RunProgram (Option LocalScrapeRunResultV1)
  | [] => return none
  | child :: rest => do
    let stop ← controlStop
    match stop with
    | some stop => return some (← finish env stop)
    | none => do
      let enqueued ← enqueueNode env child
      if !enqueued then return some (← finish env .runBudgetExhausted)
      else enqueueChildren env rest

/-- The children a node's items fan out to, or the contract issue that forbids them. -/
def expandChildren (env : RunEnvironment) (entry : BatchEntryV1) (items : List JsonValueV1) :
    RunProgram (Except RunError (List ScrapeNodeV1)) :=
  tryCatch
    (do
      let children ← expandScrapeFanout env entry.task entry.node items
      return .ok children)
    fun error => if error.isPublicContractError then return .error error else throw error

/-- Fans a node's items out and completes the node. -/
def completeNode (env : RunEnvironment) (entry : BatchEntryV1) (items : List JsonValueV1) :
    RunProgram (Option LocalScrapeRunResultV1) := do
  let expanded ← expandChildren env entry items
  match expanded with
  | .error error =>
    if entry.task.onFailure = .stopRun then do
      recordStopReason env entry.node.nodeId entry.task.id .taskFailed (.raised error)
      return some (← finish env .taskFailed)
    else skipTask env entry .taskFailed
  | .ok children => do
    let result ← enqueueChildren env children
    match result with
    | some result => return some result
    | none => do
      let recorded ← append env (.nodeCompleted entry.node.nodeId)
      if !recorded then return some (← finish env .runBudgetExhausted) else return none

/-- Gives back the bytes retained for a node's fan-out. -/
def releaseRetention (bytes : Int) : RunProgram PUnit :=
  modifyState fun state =>
    { state with retainedFanoutItemBytes := state.retainedFanoutItemBytes - bytes }

/-- Carries one chain's result over into the run: its result, if the run ends with it. -/
def processResult (env : RunEnvironment) (entry : BatchEntryV1)
    (result : TaskChainExecutionResultV1) : RunProgram (Option LocalScrapeRunResultV1) :=
  match result with
  | .completed stop => do
    let result ← finalizeSuccessfulRun env stop
    return some result
  | .failed stop =>
    if stop = .cancelled ∨ stop = .deadlineExhausted ∨ entry.task.onFailure = .stopRun then do
      let result ← finish env stop
      return some result
    else skipTask env entry stop
  | .ok items retained => do
    let outcome ← tryCatch (completeNode env entry items) fun error => do
      releaseRetention retained
      throw error
    releaseRetention retained
    return outcome

/-- Carries the results of a batch over in dispatch order, up to one that ends the run. -/
def processResults (env : RunEnvironment) :
    List (BatchEntryV1 × TaskChainExecutionResultV1) → RunProgram (Option LocalScrapeRunResultV1)
  | [] => return none
  | (entry, result) :: rest => do
    let outcome ← processResult env entry result
    match outcome with
    | some result => return some result
    | none => processResults env rest

/-- Carries a batch's results over and dispatches the next batch. -/
def settleBatch (env : RunEnvironment)
    (results : List (BatchEntryV1 × TaskChainExecutionResultV1)) : RunProgram FrontierFlowV1 := do
  let outcome ← processResults env results
  match outcome with
  | some result => return .result result
  | none => dispatchBatch env

/-- Starts executing a frontier. -/
def executeFrontier (env : RunEnvironment) : RunProgram FrontierFlowV1 := do
  let world ← get
  let priorItems ← orThrow (readCommittedRunItems world.disk)
  let semanticStops ← orThrow (SemanticStopTrackerV1.start env priorItems)
  set { world with semanticStops }
  dispatchBatch env

/-- An executing run: its world, the chains it waits for and how it ended, if it did. -/
structure ExecutionV1 where
  world : World
  batch : List ActiveChainV1
  outcome : Option (Except RunError LocalScrapeRunResultV1)

/-- What a call came back with: a result, or an error after some requests were made. -/
inductive CallAnswerV1 where
  | returned (result : PublicCallResultV1)
  | threw (error : RunError) (performed : Nat)

/-- A call's answer as its chain sees it. -/
def CallAnswerV1.result : CallAnswerV1 → Except RunError PublicCallResultV1
  | .returned result => .ok result
  | .threw error _ => .error error

/-- What happens next to an executing run. -/
inductive RunEventV1 where
  | callReturned (index : Nat) (answer : CallAnswerV1) (clock : List Bool)
  | turnSettled (index : Nat) (clock : List Bool)
  | batchSettled (clock : List Bool) (linkSucceeds : Bool)
  | batchRejected (index : Nat)
  | cancel (source : RunCancellationSourceV1)
  | deadline

/-- The world a program leaves behind, with its outcome. -/
def runProgram {α : Type} (program : RunProgram α) (world : World) : Except RunError α × World :=
  match program world with
  | .ok value world => (.ok value, world)
  | .error error world => (.error error, world)

namespace ExecutionV1

/-- The execution after one turn of its loop. -/
def afterFrontier (flow : Except RunError FrontierFlowV1 × World) : ExecutionV1 :=
  match flow with
  | (.error error, world) => { world, batch := [], outcome := some (.error error) }
  | (.ok (.result result), world) => { world, batch := [], outcome := some (.ok result) }
  | (.ok (.batch chains), world) => { world, batch := chains, outcome := none }

/-- The execution after a stretch of one of its chains. -/
def afterChain (execution : ExecutionV1) (index : Nat) (entry : BatchEntryV1)
    (stretch : RunProgram ChainFlowV1) (clock : List Bool) : ExecutionV1 :=
  let outcome := runProgram (do settleFlow (← stretch)) { execution.world with clock }
  let phase := match outcome.1 with
    | .ok phase => phase
    | .error error => .thrown error
  { execution with world := outcome.2, batch := execution.batch.set index { entry, phase } }

/-- How the turn a chain waits for was settled, once it has been. -/
def turnOf (execution : ExecutionV1) (chain : TaskChainV1) : Option TurnSettlement :=
  if chain.ownsCommitTurn then some .resolved
  else chain.chainOrdinal.bind fun ordinal => execution.world.attemptOrder.settled.lookup ordinal

/-- The results of a batch all of whose chains have returned. -/
def batchResults : List ActiveChainV1 → Option (List (BatchEntryV1 × TaskChainExecutionResultV1))
  | [] => some []
  | active :: rest =>
    match active.phase with
    | .returned result => (batchResults rest).map fun results => (active.entry, result) :: results
    | _ => none

/-- Records a cancellation and passes it on to the execution control. -/
def cancel (env : RunEnvironment) (execution : ExecutionV1) (source : RunCancellationSourceV1) :
    ExecutionV1 :=
  let world := execution.world
  if world.cancellationRequested ∨ world.state.terminal then execution
  else
    match runProgram (appendEmergency env (.cancelRequested source)) world with
    | (.error _, world) => { execution with world }
    | (.ok _, world) =>
      -- An execution that has ended has stopped listening.
      let controlStop := if execution.outcome.isSome then world.controlStop
        else world.controlStop.orElse fun _ => some .cancelled
      { execution with world := { world with cancellationRequested := true, controlStop } }

/-- One step of an executing run, when it can take it. -/
def step (env : RunEnvironment) (execution : ExecutionV1) : RunEventV1 → Option ExecutionV1
  | .callReturned index answer clock =>
    match execution.batch[index]? with
    | some { entry, phase := .calling chain } =>
      some (execution.afterChain index entry (afterCall env chain answer.result) clock)
    | _ => none
  | .turnSettled index clock =>
    match execution.batch[index]? with
    | some { entry, phase := .claiming chain continuation } =>
      (execution.turnOf chain).map fun settlement =>
        execution.afterChain index entry (afterTurn env chain continuation settlement) clock
    | _ => none
  | .batchSettled clock linkSucceeds =>
    if execution.outcome.isSome then none
    else
      (batchResults execution.batch).map fun results =>
        afterFrontier (runProgram (settleBatch env results)
          { execution.world with clock, linkSucceeds })
  | .batchRejected index =>
    if execution.outcome.isSome then none
    else
      match execution.batch[index]? with
      | some { entry := _, phase := .thrown error } =>
        some { execution with outcome := some (.error error) }
      | _ => none
  | .cancel source => some (execution.cancel env source)
  | .deadline =>
    if execution.outcome.isSome then none
    else some { execution with world := { execution.world with
      controlStop := execution.world.controlStop.orElse fun _ => some .deadlineExhausted } }

/-- An execution after a sequence of steps, when it can take them all. -/
def run (env : RunEnvironment) (execution : ExecutionV1) : List RunEventV1 → Option ExecutionV1
  | [] => some execution
  | event :: rest => (execution.step env event).bind fun next => next.run env rest

end ExecutionV1

end Klura
