import Klura.Run.Recovery
import Klura.Run.Service

/-! The whole life of a run: its start, its crashes, its startup recovery and its resumptions. -/

namespace Klura

/-- One root of a run's plan. -/
structure PlannedScrapeRootV1 where
  taskKindId : StableContractIdV1
  capability : CapabilityIdV1
  input : JsonValueV1
  rootOrdinal : Nat
  seedOrdinal : Option Nat

/-- The nodes of planned roots, whose output ordinals count from a first one. -/
def initialNodesFrom (env : RunEnvironment) : Nat → List PlannedScrapeRootV1 → List ScrapeNodeV1
  | _, [] => []
  | ordinal, root :: rest =>
    createScrapeNode env (.root root.rootOrdinal root.seedOrdinal) ordinal root.taskKindId
      root.capability root.input root.rootOrdinal root.seedOrdinal 0 ::
        initialNodesFrom env (ordinal + 1) rest

/-- Counters that have counted nothing. -/
def emptySummary : ScrapeRunSummaryV1 :=
  { itemsEmitted := 0, itemsDuplicate := 0, tasksCompleted := 0, tasksFailed := 0,
    targetRequests := 0 }

/-- The execution state of a run with this many initial nodes. -/
def initialState (env : RunEnvironment) (initialNodes : Nat) : ExecutionStateV1 :=
  { sequence := 0, previousDigest := none, executionEpoch := 0, summary := emptySummary
    identityDigests := [], maximumJournalBytes := env.policy.durable.maxJournalBytes
    maximumJournalFrames := env.policy.durable.maxJournalFrames, localStateBytes := 0
    retainedFanoutItemBytes := 0, outputBytes := 0, tasksStarted := 0, pagesStarted := 0
    nextNodeOrdinal := initialNodes, nextItemSequence := 1, knownNodeIds := []
    bufferedItems := [], reservedItemCount := 0, reservedOutputBytes := 0
    reservedIdentityStateBytes := 0, reservedTargetRequests := 0
    reservedReorderBufferBytes := 0, hadIndependentFailure := false, terminal := false }

/-- A world around a disk and a state, before any helper has been opened. -/
def openWorld (env : RunEnvironment) (disk : Disk) (state : ExecutionStateV1)
    (clock : List Bool) (linkSucceeds : Bool) : World :=
  { disk, state, sink := none, semanticStops := { previous := [], active := [] }
    frontier := FrontierV1.empty env.policy.durable.maxFrontierBytes, controlStop := none
    cancellationRequested := false, attemptOrder := AttemptOrderV1.initial, batchStop := none
    clock, linkSucceeds }

/-- Makes the initial nodes durable. -/
def appendInitialNodes (env : RunEnvironment) : List ScrapeNodeV1 → RunProgram (List BlobRefV1)
  | [] => return []
  | node :: rest => do
    let reference ← appendDataBlob env (.node node) env.policy.durable.maxDataSpoolBytes
    let references ← appendInitialNodes env rest
    return reference :: references

/-- Makes a new run durable, which it is not unless its creation is recorded. -/
def createRun (env : RunEnvironment) (nodes : List ScrapeNodeV1) : RunProgram PUnit := do
  let references ← appendInitialNodes env nodes
  let recorded ← append env (.runCreated env.metaDigest (some references))
  if !recorded then throw (.runBudgetExceeded "journal budget cannot record run creation")
  else return ()

/-- Opens the run's sink and charges what it already holds. -/
def openSink (env : RunEnvironment) (committedItems : List JsonValueV1) : RunProgram PUnit := do
  let sink ← orThrow (openFileRunOutputSink env committedItems)
  modify fun world => { world with
    sink
    state := { world.state with
      outputBytes := (sink.map fun sink => (sink.bytesWritten : Int)).getD
        world.state.outputBytes } }

/-- Records the cancellation of a run whose signal was aborted before it began. -/
def cancelOnStart (env : RunEnvironment) (aborted : Option RunCancellationSourceV1) :
    RunProgram PUnit := do
  let world ← get
  match aborted with
  | none => return ()
  | some source =>
    if world.cancellationRequested ∨ world.state.terminal then return ()
    else do
      appendEmergency env (.cancelRequested source)
      modify fun world => { world with cancellationRequested := true }

/-- Puts the initial nodes into the frontier, or ends the run at one that does not fit. -/
def enqueueInitialNodes (env : RunEnvironment) :
    List ScrapeNodeV1 → RunProgram (Option LocalScrapeRunResultV1)
  | [] => return none
  | node :: rest => do
    modifyState fun state => { state with knownNodeIds := node.nodeId :: state.knownNodeIds }
    let enqueued ← enqueueFrontier node
    if !enqueued then return some (← finish env .runBudgetExhausted)
    else enqueueInitialNodes env rest

/-- The result of a run whose sink could not be opened, or none when it could. -/
def tryOpenSink (env : RunEnvironment) (committedItems : List JsonValueV1) :
    RunProgram (Option LocalScrapeRunResultV1) :=
  tryCatch (do openSink env committedItems; return none) fun error =>
    if !error.isRunOutputSinkError then throw error
    else return some (← finish env .outputSinkFailure)

/-- Executes a created run up to its first calls. -/
def launchRun (env : RunEnvironment) (nodes : List ScrapeNodeV1)
    (aborted : Option RunCancellationSourceV1) : RunProgram FrontierFlowV1 := do
  let finished ← tryOpenSink env []
  cancelOnStart env aborted
  match finished with
  | some result => return .result result
  | none => do
    let world ← get
    if world.cancellationRequested then return .result (← finish env .cancelled)
    else do
      let finished ← enqueueInitialNodes env nodes
      match finished with
      | some result => return .result result
      | none => executeFrontier env

/-- Starts a run, which exists only once its creation is recorded. -/
def startDetached (env : RunEnvironment) (roots : List PlannedScrapeRootV1)
    (aborted : Option RunCancellationSourceV1) (clock : List Bool) (linkSucceeds : Bool) :
    Except RunError ExecutionV1 :=
  let nodes := initialNodesFrom env 0 roots
  match runProgram (createRun env nodes)
      (openWorld env [] (initialState env nodes.length) clock linkSucceeds) with
  | (.error error, _) => .error error
  | (.ok _, world) => .ok (.afterFrontier (runProgram (launchRun env nodes aborted) world))

/-! Resuming an interrupted run. -/

/-- What a walk over the journal counts back into the execution state. -/
structure RehydrationV1 where
  summary : ScrapeRunSummaryV1
  identityDigests : List Sha256DigestV1
  tasksStarted : Nat
  pagesStarted : Nat
  nextNodeOrdinal : Nat

/-- The counts after one more event. -/
def rehydrateEvent (env : RunEnvironment) (counts : RehydrationV1) (event : JournalEventV1) :
    Except RunError RehydrationV1 :=
  let summary := counts.summary
  match event with
  | .nodeEnqueued _ _ _ _ _ _ _ outputOrdinal =>
    .ok { counts with nextNodeOrdinal := max counts.nextNodeOrdinal (outputOrdinal + 1) }
  | .attemptIntent _ taskKindId =>
    match env.taskKind taskKindId with
    | none => .error (.scrapeResume "journal refers to an unavailable task kind")
    | some task => .ok { counts with
        tasksStarted := counts.tasksStarted + 1
        pagesStarted := counts.pagesStarted + (if task.taskRole = .page then 1 else 0) }
  | .attemptObserved _ _ _ attempts => .ok { counts with
      summary := { summary with targetRequests := summary.targetRequests + attempts } }
  | .taskCompleted .. => .ok { counts with
      summary := { summary with tasksCompleted := summary.tasksCompleted + 1 } }
  | .taskSkipped .. => .ok { counts with
      summary := { summary with tasksFailed := summary.tasksFailed + 1 } }
  | .itemCommitted _ identityDigest _ _ =>
    if identityDigest ∈ counts.identityDigests then
      .error (.scrapeResume "journal commits one item identity more than once")
    else .ok { counts with
      identityDigests := identityDigest :: counts.identityDigests
      summary := { summary with itemsEmitted := summary.itemsEmitted + 1 } }
  | .itemDuplicate .. => .ok { counts with
      summary := { summary with itemsDuplicate := summary.itemsDuplicate + 1 } }
  | _ => .ok counts

/-- The counts over a journal's frames, which are given newest first. -/
def rehydrateFrames (env : RunEnvironment) : List JournalFrameV1 → Except RunError RehydrationV1
  | [] => .ok { summary := emptySummary, identityDigests := [], tasksStarted := 0,
                pagesStarted := 0, nextNodeOrdinal := 0 }
  | frame :: older => do
    let counts ← rehydrateFrames env older
    rehydrateEvent env counts frame.body.event

/-- The bytes a list of committed items is charged for when a run resumes. -/
def rehydratedOutputBytes (items : List JsonValueV1) : Int :=
  (items.map fun item => (canonicalBytes item : Int) + 1).sum

/-- Rebuilds the execution state of a run from its journal and spool. -/
def rehydrateExecutionState (env : RunEnvironment) (disk : Disk) :
    Except RunError ExecutionStateV1 := do
  let counts ← rehydrateFrames env disk.frames
  let committedItems ← readCommittedRunItems disk
  if committedItems.length ≠ counts.summary.itemsEmitted then
    throw (.scrapeResume "journal item count does not match committed spool items")
  let bufferedItems ← readPendingBufferedRunItems disk
  match disk.frames with
  | [] => throw (.scrapeResume "journal is missing its run creation event")
  | last :: _ => return {
      sequence := last.body.sequence
      previousDigest := some last.digest
      executionEpoch := last.body.executionEpoch
      summary := counts.summary
      identityDigests := counts.identityDigests
      maximumJournalBytes := env.policy.durable.maxJournalBytes
      maximumJournalFrames := env.policy.durable.maxJournalFrames
      localStateBytes := counts.identityDigests.length * identityStateBytes
      retainedFanoutItemBytes := 0
      outputBytes := rehydratedOutputBytes committedItems
      tasksStarted := counts.tasksStarted
      pagesStarted := counts.pagesStarted
      nextNodeOrdinal := counts.nextNodeOrdinal
      nextItemSequence := counts.summary.itemsEmitted + 1
      knownNodeIds := []
      bufferedItems
      reservedItemCount := bufferedItems.length
      reservedOutputBytes := (bufferedItems.map fun item => (item.reservedOutputBytes : Int)).sum
      reservedIdentityStateBytes := bufferedItems.length * identityStateBytes
      reservedTargetRequests := 0
      reservedReorderBufferBytes := 0
      hadIndependentFailure := decide (0 < counts.summary.tasksFailed)
      terminal := false }

/-- Whether an unresolved attempt may be sent again. -/
def safeReadReplay (env : RunEnvironment) (recovered : RecoveryNodeV1) : Except RunError Unit :=
  match env.taskKind recovered.node.taskKindId, env.capability recovered.node.capability with
  | some task, some capability =>
    if task.capability ≠ recovered.node.capability then
      .error (.scrapeResume "unresolved attempt no longer matches the immutable collection")
    else if capability.strategyReplays.any fun replay => replay ≠ .safeRead then
      .error (.scrapeResume "unresolved attempt does not declare safe_read replay")
    else .ok ()
  | _, _ => .error (.scrapeResume "unresolved attempt no longer matches the immutable collection")

/-- The unresolved nodes of a recovered run, all of which may be sent again. -/
def resolveSafeReadReplayNodes (env : RunEnvironment) (recovered : RecoveredRunStateV1) :
    Except RunError (List RecoveryNodeV1) := do
  let replayNodes := recovered.nodes.filter RecoveryNodeV1.unresolved
  for replayNode in replayNodes do safeReadReplay env replayNode
  return replayNodes

/-- Whether a recovered run may go on with these nodes to replay. -/
def resumeAllowed (recovered : RecoveredRunStateV1) (replayNodes : List RecoveryNodeV1) : Bool :=
  match recovered.resume with
  | none => true
  | some .unknownAttempt => !replayNodes.isEmpty
  | some _ => false

/-- The state of a resumed run, which knows every node its journal holds. -/
def ExecutionStateV1.withRecoveredNodes (state : ExecutionStateV1) (nodes : List RecoveryNodeV1) :
    ExecutionStateV1 :=
  { state with
    knownNodeIds := nodes.map fun recovered => recovered.node.nodeId
    nextNodeOrdinal := (nodes.map fun recovered => recovered.node.outputOrdinal + 1).foldl max
      state.nextNodeOrdinal }

/-- Authorizes the replay of each node, or ends the run at one that has no frame left. -/
def authorizeReplays (env : RunEnvironment) :
    List RecoveryNodeV1 → RunProgram (Option LocalScrapeRunResultV1)
  | [] => return none
  | replayNode :: rest => do
    let recorded ← append env
      (.nodeReplayAuthorized replayNode.node.nodeId replayNode.node.taskKindId)
    if !recorded then return some (← finish env .runBudgetExhausted)
    else authorizeReplays env rest

/-- Puts the unfinished nodes back into the frontier, or ends the run at one that does not fit. -/
def enqueueRecoveredNodes (env : RunEnvironment) :
    List RecoveryNodeV1 → RunProgram (Option LocalScrapeRunResultV1)
  | [] => return none
  | recovered :: rest =>
    if recovered.state ≠ .pending ∧ !recovered.unresolved then enqueueRecoveredNodes env rest
    else do
      let enqueued ← enqueueFrontier recovered.node
      if !enqueued then return some (← finish env .runBudgetExhausted)
      else enqueueRecoveredNodes env rest

/-- Announces the next execution epoch and what it replays. -/
def announceEpoch (env : RunEnvironment) (replayNodes : List RecoveryNodeV1) :
    RunProgram (Option LocalScrapeRunResultV1) := do
  let world ← get
  let recorded ← append env (.stateChanged (.running world.state.executionEpoch))
  if !recorded then return some (← finish env .runBudgetExhausted)
  else authorizeReplays env replayNodes

/-- Puts the unfinished nodes back into the frontier and executes it. -/
def requeueRun (env : RunEnvironment) (recovered : RecoveredRunStateV1) :
    RunProgram FrontierFlowV1 := do
  let finished ← enqueueRecoveredNodes env recovered.nodes
  match finished with
  | some result => return .result result
  | none => executeFrontier env

/-- Executes a resumed run up to its first calls. -/
def relaunchRun (env : RunEnvironment) (recovered : RecoveredRunStateV1)
    (replayNodes : List RecoveryNodeV1) (aborted : Option RunCancellationSourceV1)
    (committedItems : List JsonValueV1) : RunProgram FrontierFlowV1 := do
  let finished ← tryOpenSink env committedItems
  match finished with
  | some result => return .result result
  | none => do
    -- The epoch is taken in memory before any frame announces it.
    modifyState fun state => { state with executionEpoch := recovered.lastExecutionEpoch + 1 }
    cancelOnStart env aborted
    let world ← get
    if world.cancellationRequested then return .result (← finish env .cancelled)
    else do
      let finished ← announceEpoch env replayNodes
      match finished with
      | some result => return .result result
      | none => requeueRun env recovered

/-- What a resume has read of its run before it writes anything. -/
structure ResumePlanV1 where
  disk : Disk
  recovered : RecoveredRunStateV1
  replayNodes : List RecoveryNodeV1
  state : ExecutionStateV1
  committedItems : List JsonValueV1

/-- Reads everything a resume needs, or says why the run cannot resume. -/
def planResume (env : RunEnvironment) (disk : Disk) : Except RunError ResumePlanV1 := do
  let recovered ← recoverRunState env disk
  let replayNodes ← resolveSafeReadReplayNodes env recovered
  if !resumeAllowed recovered replayNodes then
    throw (.scrapeResume "run cannot resume")
  else do
    let disk := truncateSpool disk recovered.spoolPrefix
    let state ← rehydrateExecutionState env disk
    let committedItems ← readCommittedRunItems disk
    return { disk, recovered, replayNodes, state := state.withRecoveredNodes recovered.nodes,
             committedItems }

/-- Resumes an interrupted run, or says why it cannot. -/
def resume (env : RunEnvironment) (disk : Disk) (aborted : Option RunCancellationSourceV1)
    (clock : List Bool) (linkSucceeds : Bool) : Except RunError ExecutionV1 := do
  let plan ← planResume env disk
  return .afterFrontier (runProgram
    (relaunchRun env plan.recovered plan.replayNodes aborted plan.committedItems)
    (openWorld env plan.disk plan.state clock linkSucceeds))

/-! Startup recovery of a run whose process has died. -/

/-- The execution state an emergency appender goes on from. -/
def recoveryState (env : RunEnvironment) (recovered : RecoveredRunStateV1) : ExecutionStateV1 :=
  { initialState env 0 with
    sequence := recovered.lastSequence
    previousDigest := recovered.lastFrameDigest
    executionEpoch := recovered.lastExecutionEpoch
    summary := recovered.summary }

/-- Ends a cancelled run whose process died before it could. -/
def completeCancelledRun (env : RunEnvironment) (committedItems : List JsonValueV1) :
    RunProgram PUnit := do
  let world ← get
  let summary := world.state.summary
  if summary.itemsEmitted = 0 ∨ env.output = .inline then
    appendTerminal env (createTerminalDescriptor env summary
      (if 0 < summary.itemsEmitted then .scrapePartial else .scrapeFailure)
      (.stopped .cancelled) none)
  else
    tryCatch
      (do
        openSink env committedItems
        let world ← get
        let descriptor := createTerminalDescriptor env summary .scrapePartial
          (.stopped .cancelled) world.sink
        publishFileOutput env descriptor
        appendTerminal env descriptor)
      fun error =>
        if !error.isRunOutputSinkError then throw error
        else do
          discardSink
          appendTerminal env (createTerminalDescriptor env summary .scrapePartial
            (.stopped .outputSinkFailure) none)

/-- Ends a run whose output was prepared, once its file has been put in place. -/
def completePreparedOutput (env : RunEnvironment) (finalization : OutputFinalizationV1) :
    RunProgram PUnit := do
  if !finalization.committed then
    appendEmergency env (.outputCommitted finalization.contentDigest finalization.byteLength
      finalization.terminalDescriptorDigest)
  appendEmergency env
    (.terminal finalization.terminalDescriptor finalization.terminalDescriptorDigest)

/-- Marks one valid unfinished run as interrupted, or completes the end it had begun. -/
def interruptUnfinishedRun (env : RunEnvironment) (recovered : RecoveredRunStateV1)
    (committedItems : List JsonValueV1) : RunProgram PUnit :=
  if recovered.terminal then return ()
  else
    match recovered.outputFinalization with
    | some finalization => completePreparedOutput env finalization
    | none =>
      if recovered.cancellationRequested then completeCancelledRun env committedItems
      else if recovered.interrupted then return ()
      else appendEmergency env (.interrupted .daemonStopped)

/-- The disk after startup recovery of one run, which a run it cannot read keeps. -/
def startupRecovery (env : RunEnvironment) (disk : Disk) (linkSucceeds : Bool) : Disk :=
  match recoverRunState env disk with
  | .error _ => disk
  | .ok recovered =>
    let disk := truncateSpool disk recovered.spoolPrefix
    match readCommittedRunItems disk with
    | .error _ => disk
    | .ok committedItems =>
      (runProgram (interruptUnfinishedRun env recovered committedItems)
        (openWorld env disk (recoveryState env recovered) [] linkSucceeds)).2.disk

end Klura
