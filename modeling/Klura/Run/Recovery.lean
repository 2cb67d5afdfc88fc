import Klura.Run.ResultReader

/-! Reconstructing a run's durable state from its journal and spool. -/

namespace Klura

/-- How far a node's current attempt has durably come. -/
inductive RecoveredNodeStateV1 where
  | pending
  | attempting
  | observed
  | completed
  | skipped
  deriving DecidableEq

/-- A node as the journal leaves it. -/
structure RecoveryNodeV1 where
  node : ScrapeNodeV1
  state : RecoveredNodeStateV1
  taskCompletedForAttempt : Bool

/-- The last progress a sink's file is known to have made. -/
structure SinkCommitV1 where
  throughItemSequence : Nat
  byteOffset : Nat
  prefixDigest : Sha256DigestV1

/-- The output preparation a journal holds. -/
structure OutputFinalizationV1 where
  contentDigest : Sha256DigestV1
  byteLength : Nat
  terminalDescriptor : TerminalResultDescriptorV1
  terminalDescriptorDigest : Sha256DigestV1
  committed : Bool

/-- What the reader has accepted of a journal so far. -/
structure RecoveryStateV1 where
  nodes : List RecoveryNodeV1
  /-- The blob references met so far, newest first. -/
  references : List BlobRefV1
  bufferedItems : List BufferedEntryV1
  committedItemDigests : List Sha256DigestV1
  summary : ScrapeRunSummaryV1
  committedItemSequence : Nat
  lastCommittedItemOrder : Option ItemLogicalOrderV1
  outputOrdinals : List Nat
  lastSinkCommit : Option SinkCommitV1
  outputFinalization : Option OutputFinalizationV1
  terminal : Bool
  cancellationRequested : Bool
  executionEpoch : Nat

/-- A refusal of the reader. -/
def recoveryError {α : Type} (message : String) : Except RunError α :=
  .error (.runRecovery message)

namespace RecoveryStateV1

/-- The reader before its first frame. -/
def initial : RecoveryStateV1 :=
  { nodes := [], references := [], bufferedItems := [], committedItemDigests := []
    summary := { itemsEmitted := 0, itemsDuplicate := 0, tasksCompleted := 0, tasksFailed := 0,
                 targetRequests := 0 }
    committedItemSequence := 0, lastCommittedItemOrder := none, outputOrdinals := []
    lastSinkCommit := none, outputFinalization := none, terminal := false
    cancellationRequested := false, executionEpoch := 0 }

/-- The node of an identifier. -/
def find (recovery : RecoveryStateV1) (nodeId : RunNodeIdV1) : Option RecoveryNodeV1 :=
  recovery.nodes.find? fun recovered => recovered.node.nodeId = nodeId

/-- The reader with the node of an identifier replaced. -/
def setNode (recovery : RecoveryStateV1) (nodeId : RunNodeIdV1) (node : RecoveryNodeV1) :
    RecoveryStateV1 :=
  { recovery with nodes := recovery.nodes.map fun recovered =>
      if recovered.node.nodeId = nodeId then node else recovered }

end RecoveryStateV1

/-- The epoch after one more frame. -/
def advanceExecutionEpoch (body : JournalFrameBodyV1) (current : Nat) : Except RunError Nat :=
  match body.event with
  | .stateChanged (.running epoch) =>
    if epoch ≠ body.executionEpoch ∨ body.executionEpoch ≠ current + 1 then
      recoveryError "running state does not begin the next execution epoch"
    else .ok body.executionEpoch
  | _ =>
    if body.executionEpoch ≠ current then
      recoveryError "journal frame has an invalid execution epoch"
    else .ok current

/-- The output preparation after one more event. -/
def advanceOutputFinalization (env : RunEnvironment) (current : Option OutputFinalizationV1)
    (event : JournalEventV1) : Except RunError (Option OutputFinalizationV1) :=
  match event with
  | .outputPrepared pathDigest contentDigest byteLength terminalDescriptor digest =>
    if current.isSome then recoveryError "journal contains more than one output preparation"
    else
      match terminalDescriptor.output with
      | .file path _ _ =>
        if pathDigest ≠ env.sha256Digest (utf8 path) then
          recoveryError "output preparation does not bind its declared file output"
        else .ok (some { contentDigest, byteLength, terminalDescriptor,
                         terminalDescriptorDigest := digest, committed := false })
      | _ => recoveryError "output preparation does not bind its declared file output"
  | .outputCommitted contentDigest byteLength digest =>
    match current with
    | none => recoveryError "output commit has no unmatched output preparation"
    | some prepared =>
      if prepared.committed then
        recoveryError "output commit has no unmatched output preparation"
      else if contentDigest ≠ prepared.contentDigest ∨ byteLength ≠ prepared.byteLength ∨
          digest ≠ prepared.terminalDescriptorDigest then
        recoveryError "output commit does not match its preparation"
      else .ok (some { prepared with committed := true })
  | .terminal descriptor descriptorDigest =>
    match current with
    | none =>
      match descriptor.output with
      | .file .. => recoveryError "file terminal result has no output preparation"
      | _ => .ok none
    | some prepared =>
      if !prepared.committed ∨ descriptorDigest ≠ prepared.terminalDescriptorDigest then
        recoveryError "terminal result does not complete its prepared output"
      else .ok current
  | _ => .ok current

/-- Checks the digests of the inputs a chain has used. -/
def parseInputDigests (digests : List Sha256DigestV1) (field : String) : Except RunError Unit :=
  if digests.length = 0 ∨ 1000 < digests.length then
    .error (.publicContract field "must contain one to 1,000 input digests")
  else if ¬ digests.Nodup then
    .error (.publicContract field "must not contain duplicate input digests")
  else .ok ()

/-- Checks a node read back from the spool. -/
def parseDurableNode (env : RunEnvironment) (content : BlobContentV1) (field : String) :
    Except RunError ScrapeNodeV1 :=
  match content with
  | .item _ => .error (.publicContract field "must contain exactly its declared keys")
  | .node node => do
    if createRunNodeId env node.logicalKey ≠ node.nodeId then
      throw (.runRecovery "node id does not match its logical key")
    if BLOB_DEPTH_LIMIT < jsonDepth node.input then
      throw (.publicContract (field ++ ".input") "exceeds maximum depth 12")
    parseInteger node.rootOrdinal (field ++ ".root_ordinal") 0 JsonNumber.maxSafeInteger
    parseInteger (node.seedOrdinal.getD 0) (field ++ ".seed_ordinal") 0 JsonNumber.maxSafeInteger
    parseInteger node.depth (field ++ ".depth") 0 3
    parseInteger node.outputOrdinal (field ++ ".output_ordinal") 0 JsonNumber.maxSafeInteger
    parseInputDigests node.seenInputDigests (field ++ ".seen_input_digests")
    parseInteger node.pagesStartedInChain (field ++ ".pages_started_in_chain") 0 1000
    return node

/-- Reads a node back from the spool. -/
def readDurableNode (env : RunEnvironment) (disk : Disk) (reference : BlobRefV1)
    (field : String) : Except RunError ScrapeNodeV1 := do
  let content ← readDataBlob disk reference
  parseDurableNode env content field

/-- The reader with one more node and the reference its state was read from. -/
def RecoveryStateV1.enqueued (recovery : RecoveryStateV1) (reference : BlobRefV1)
    (node : ScrapeNodeV1) : RecoveryStateV1 :=
  { recovery with
    references := reference :: recovery.references
    outputOrdinals := node.outputOrdinal :: recovery.outputOrdinals
    nodes := recovery.nodes ++
      [{ node, state := .pending, taskCompletedForAttempt := false }] }

/-- The reader after one initial node. -/
def recoverInitialNode (env : RunEnvironment) (disk : Disk) (recovery : RecoveryStateV1)
    (index : Nat) (reference : BlobRefV1) : Except RunError RecoveryStateV1 := do
  let node ← readDurableNode env disk reference s!"run.initial_nodes[{index}]"
  if node.depth ≠ 0 ∨ node.outputOrdinal ≠ index then
    recoveryError "initial node has an invalid position"
  else if node.logicalKey ≠ .root node.rootOrdinal node.seedOrdinal then
    recoveryError "initial node does not match its root logical key"
  else if (recovery.find node.nodeId).isSome ∨ node.outputOrdinal ∈ recovery.outputOrdinals then
    recoveryError "initial node repeats a durable identity"
  else return recovery.enqueued reference node

/-- The reader after the initial nodes from an index on. -/
def recoverInitialNodes (env : RunEnvironment) (disk : Disk) :
    RecoveryStateV1 → Nat → List BlobRefV1 → Except RunError RecoveryStateV1
  | recovery, _, [] => .ok recovery
  | recovery, index, reference :: rest => do
    let recovery ← recoverInitialNode env disk recovery index reference
    recoverInitialNodes env disk recovery (index + 1) rest

/-- The reader after a node was enqueued. -/
def recoverEnqueuedNode (env : RunEnvironment) (disk : Disk) (recovery : RecoveryStateV1)
    (nodeId : RunNodeIdV1) (keyDigest : Sha256DigestV1) (nodeState : BlobRefV1)
    (taskKindId : StableContractIdV1) (rootOrdinal : Nat) (seedOrdinal : Option Nat)
    (depth outputOrdinal : Nat) : Except RunError RecoveryStateV1 := do
  if (recovery.find nodeId).isSome then recoveryError "node is enqueued more than once"
  else if outputOrdinal ∈ recovery.outputOrdinals then
    recoveryError "node output ordinal is enqueued more than once"
  else
    let node ← readDurableNode env disk nodeState "run.node_state"
    if node.nodeId ≠ nodeId ∨ env.digestOf node.logicalKey.value ≠ keyDigest ∨
        node.taskKindId ≠ taskKindId ∨ node.rootOrdinal ≠ rootOrdinal ∨
        node.seedOrdinal ≠ seedOrdinal ∨ node.depth ≠ depth ∨
        node.outputOrdinal ≠ outputOrdinal then
      recoveryError "node event does not match its durable node state"
    else return recovery.enqueued nodeState node

/-- The node of an event, when its attempt has been observed. -/
def observedAttempt (recovery : RecoveryStateV1) (nodeId : RunNodeIdV1) (event : String) :
    Except RunError RecoveryNodeV1 :=
  match recovery.find nodeId with
  | none => recoveryError (event ++ " has no observed attempt")
  | some recovered =>
    if recovered.state ≠ .observed then recoveryError (event ++ " has no observed attempt")
    else .ok recovered

/-- The node of an event, when its observed attempt has completed its task. -/
def accountableAttempt (recovery : RecoveryStateV1) (nodeId : RunNodeIdV1) (event : String) :
    Except RunError RecoveryNodeV1 :=
  match recovery.find nodeId with
  | none => recoveryError (event ++ " has no completed observed attempt")
  | some recovered =>
    if recovered.state ≠ .observed ∨ !recovered.taskCompletedForAttempt then
      recoveryError (event ++ " has no completed observed attempt")
    else .ok recovered

/-- The reader after an item was buffered. -/
def recoverBufferedItem (recovery : RecoveryStateV1) (nodeId : RunNodeIdV1)
    (identityDigest : Sha256DigestV1) (data : BlobRefV1) (logicalOrder : ItemLogicalOrderV1) :
    Except RunError RecoveryStateV1 := do
  let recovered ← observedAttempt recovery nodeId "item buffer"
  if (findBuffered recovery.bufferedItems logicalOrder).isSome then
    recoveryError "item buffer repeats a logical item position"
  else if logicalOrder.nodeOrdinal ≠ recovered.node.outputOrdinal then
    recoveryError "item buffer does not match its node output ordinal"
  else return { recovery with
    bufferedItems := { data, nodeId, identityDigest, logicalOrder } :: recovery.bufferedItems
    references := data :: recovery.references }

/-- The reader after an item was committed. -/
def recoverCommittedItem (recovery : RecoveryStateV1) (nodeId : RunNodeIdV1)
    (identityDigest : Sha256DigestV1) (logicalOrder : ItemLogicalOrderV1) (itemSequence : Nat) :
    Except RunError RecoveryStateV1 := do
  let _ ← accountableAttempt recovery nodeId "item commit"
  if (matchBuffered recovery.bufferedItems nodeId identityDigest logicalOrder).isNone then
    recoveryError "item commit has no matching node buffer"
  else if identityDigest ∈ recovery.committedItemDigests then
    recoveryError "item identity is committed more than once"
  else if itemSequence ≠ recovery.committedItemSequence + 1 then
    recoveryError "item sequence is not contiguous"
  else if breaksLogicalOrder recovery.lastCommittedItemOrder logicalOrder then
    recoveryError "item commits are not in logical order"
  else return { recovery with
    committedItemDigests := identityDigest :: recovery.committedItemDigests
    bufferedItems := dropBuffered recovery.bufferedItems logicalOrder
    summary := { recovery.summary with itemsEmitted := recovery.summary.itemsEmitted + 1 }
    lastCommittedItemOrder := some logicalOrder
    committedItemSequence := itemSequence }

/-- The reader after an item turned out to be a duplicate. -/
def recoverDuplicateItem (recovery : RecoveryStateV1) (nodeId : RunNodeIdV1)
    (identityDigest : Sha256DigestV1) (logicalOrder : ItemLogicalOrderV1) :
    Except RunError RecoveryStateV1 := do
  let _ ← accountableAttempt recovery nodeId "item duplicate"
  if (matchBuffered recovery.bufferedItems nodeId identityDigest logicalOrder).isNone then
    recoveryError "item duplicate has no matching node buffer"
  else if identityDigest ∉ recovery.committedItemDigests then
    recoveryError "item duplicate has no prior committed identity"
  else return { recovery with
    bufferedItems := dropBuffered recovery.bufferedItems logicalOrder
    summary := { recovery.summary with itemsDuplicate := recovery.summary.itemsDuplicate + 1 } }

/-- The reader after a sink's progress was recorded. -/
def advanceSinkCommit (recovery : RecoveryStateV1) (throughItemSequence byteOffset : Nat)
    (prefixDigest : Sha256DigestV1) : Except RunError RecoveryStateV1 :=
  if recovery.committedItemSequence < throughItemSequence then
    recoveryError "sink commit does not reference a committed item"
  else if (recovery.lastSinkCommit.map fun last =>
      decide (throughItemSequence ≤ last.throughItemSequence ∨ byteOffset ≤ last.byteOffset)).getD
      false then
    recoveryError "sink commits are not strictly advancing"
  else .ok { recovery with
    lastSinkCommit := some { throughItemSequence, byteOffset, prefixDigest } }

/-- The reader after a node's chain went on to its next page. -/
def recoverProgressedNode (env : RunEnvironment) (disk : Disk) (recovery : RecoveryStateV1)
    (nodeId : RunNodeIdV1) (nodeState : BlobRefV1) : Except RunError RecoveryStateV1 := do
  let recovered ← accountableAttempt recovery nodeId "node progress"
  let node ← readDurableNode env disk nodeState "run.node_progress"
  if node.nodeId ≠ nodeId ∨ node.logicalKey ≠ recovered.node.logicalKey ∨
      node.outputOrdinal ≠ recovered.node.outputOrdinal then
    recoveryError "node progress does not match its durable node"
  else
    return { recovery.setNode nodeId
        { node, state := .pending, taskCompletedForAttempt := false } with
      references := nodeState :: recovery.references }

/-- The reader after a replay was authorized. -/
def recoverReplayAuthorization (recovery : RecoveryStateV1) (executionEpoch : Nat)
    (nodeId : RunNodeIdV1) (taskKindId : StableContractIdV1) : Except RunError RecoveryStateV1 :=
  if executionEpoch < 1 then
    recoveryError "node replay authorization must occur in a resumed epoch"
  else
    match recovery.find nodeId with
    | none => recoveryError "node replay authorization precedes its enqueue"
    | some recovered =>
      if taskKindId ≠ recovered.node.taskKindId then
        recoveryError "node replay authorization has a mismatched task kind"
      else if recovered.state ≠ .attempting ∧ recovered.state ≠ .observed then
        recoveryError "node replay authorization has no unresolved attempt"
      else .ok (recovery.setNode nodeId
        { recovered with state := .pending, taskCompletedForAttempt := false })

/-- The node of a lifecycle event. -/
def lifecycleNode (recovery : RecoveryStateV1) (nodeId : RunNodeIdV1) :
    Except RunError RecoveryNodeV1 :=
  match recovery.find nodeId with
  | none => recoveryError "node lifecycle event precedes its enqueue"
  | some recovered => .ok recovered

/-- The reader after an event of a node's lifecycle. -/
def recoverLifecycleEvent (recovery : RecoveryStateV1) (event : JournalEventV1) :
    Except RunError RecoveryStateV1 :=
  match event with
  | .attemptIntent nodeId taskKindId => do
    let recovered ← lifecycleNode recovery nodeId
    if taskKindId ≠ recovered.node.taskKindId then
      recoveryError "node attempt intent has a mismatched task kind"
    else if recovered.state ≠ .pending then
      recoveryError "node attempt intent has an invalid prior state"
    else
      return recovery.setNode nodeId
        { recovered with state := .attempting, taskCompletedForAttempt := false }
  | .attemptObserved nodeId taskKindId _ attempts => do
    let recovered ← lifecycleNode recovery nodeId
    if taskKindId ≠ recovered.node.taskKindId then
      recoveryError "node observation has a mismatched task kind"
    else if recovered.state ≠ .attempting then
      recoveryError "node observation has no preceding attempt intent"
    else
      return { recovery.setNode nodeId
          { recovered with state := .observed, taskCompletedForAttempt := false } with
        summary := { recovery.summary with
          targetRequests := recovery.summary.targetRequests + attempts } }
  | .taskCompleted nodeId taskKindId => do
    let recovered ← lifecycleNode recovery nodeId
    if taskKindId ≠ recovered.node.taskKindId then
      recoveryError "node task completion has a mismatched task kind"
    else if recovered.state ≠ .observed ∨ recovered.taskCompletedForAttempt then
      recoveryError "node task completion has an invalid observed attempt"
    else
      return { recovery.setNode nodeId { recovered with taskCompletedForAttempt := true } with
        summary := { recovery.summary with
          tasksCompleted := recovery.summary.tasksCompleted + 1 } }
  | .nodeCompleted nodeId => do
    let _ ← lifecycleNode recovery nodeId
    let recovered ← accountableAttempt recovery nodeId "node completion"
    return recovery.setNode nodeId { recovered with state := .completed }
  | .taskSkipped nodeId taskKindId _ => do
    let recovered ← lifecycleNode recovery nodeId
    if taskKindId ≠ recovered.node.taskKindId then
      recoveryError "node skip has a mismatched task kind"
    else if recovered.state = .completed ∨ recovered.state = .skipped then
      recoveryError "node skip has an invalid prior state"
    else
      return { recovery.setNode nodeId { recovered with state := .skipped } with
        summary := { recovery.summary with tasksFailed := recovery.summary.tasksFailed + 1 } }
  | _ => .ok recovery

/-- The reader after an event, once its epoch and its place among the last frames are accepted. -/
def recoverEvent (env : RunEnvironment) (disk : Disk) (recovery : RecoveryStateV1) (isFirst : Bool)
    (executionEpoch : Nat) (event : JournalEventV1) : Except RunError RecoveryStateV1 :=
  match event with
  | .terminal .. => .ok { recovery with terminal := true }
  | .cancelRequested _ =>
    if recovery.cancellationRequested then
      recoveryError "journal contains more than one cancellation request"
    else .ok { recovery with cancellationRequested := true }
  | .runCreated .. =>
    if isFirst then .ok recovery else recoveryError "journal contains more than one run creation"
  | .nodeEnqueued nodeId keyDigest nodeState taskKindId rootOrdinal seedOrdinal depth ordinal =>
    recoverEnqueuedNode env disk recovery nodeId keyDigest nodeState taskKindId rootOrdinal
      seedOrdinal depth ordinal
  | .itemBuffered nodeId identityDigest data logicalOrder =>
    recoverBufferedItem recovery nodeId identityDigest data logicalOrder
  | .itemCommitted nodeId identityDigest logicalOrder itemSequence =>
    recoverCommittedItem recovery nodeId identityDigest logicalOrder itemSequence
  | .itemDuplicate nodeId identityDigest logicalOrder =>
    recoverDuplicateItem recovery nodeId identityDigest logicalOrder
  | .sinkCommitted throughItemSequence byteOffset prefixDigest =>
    advanceSinkCommit recovery throughItemSequence byteOffset prefixDigest
  | .nodeProgressed nodeId nodeState => recoverProgressedNode env disk recovery nodeId nodeState
  | .nodeReplayAuthorized nodeId taskKindId =>
    recoverReplayAuthorization recovery executionEpoch nodeId taskKindId
  | event => recoverLifecycleEvent recovery event

/-- The reader after one more frame. -/
def recoverFrame (env : RunEnvironment) (disk : Disk) (recovery : RecoveryStateV1)
    (isFirst : Bool) (body : JournalFrameBodyV1) : Except RunError RecoveryStateV1 := do
  let executionEpoch ← advanceExecutionEpoch body recovery.executionEpoch
  let outputFinalization ←
    advanceOutputFinalization env recovery.outputFinalization body.event
  if recovery.terminal then recoveryError "journal contains work after its terminal event"
  else
    recoverEvent env disk { recovery with executionEpoch, outputFinalization } isFirst
      body.executionEpoch body.event

/-- The reader before its loop, which has read the initial nodes of the first frame. -/
def recoverFirstFrame (env : RunEnvironment) (disk : Disk) (body : JournalFrameBodyV1) :
    Except RunError RecoveryStateV1 :=
  match body.event with
  | .runCreated _ initialNodes =>
    if body.executionEpoch ≠ 0 then
      recoveryError "journal is missing its epoch-zero run creation event"
    else recoverInitialNodes env disk .initial 0 (initialNodes.getD [])
  | _ => recoveryError "journal is missing its epoch-zero run creation event"

/-- The reader after a journal's frames, which are given newest first. -/
def recoverFrames (env : RunEnvironment) (disk : Disk) :
    List JournalFrameV1 → Except RunError RecoveryStateV1
  | [] => recoveryError "journal is missing its epoch-zero run creation event"
  | [first] => do
    let recovery ← recoverFirstFrame env disk first.body
    recoverFrame env disk recovery true first.body
  | frame :: older => do
    let recovery ← recoverFrames env disk older
    recoverFrame env disk recovery false frame.body

/-- The end of the spool prefix that references, given newest first, form from its start. -/
def validateSpoolPrefix (disk : Disk) : List BlobRefV1 → Except RunError Nat
  | [] => .ok 0
  | reference :: older => do
    let expectedOffset ← validateSpoolPrefix disk older
    if reference.offset ≠ expectedOffset then
      recoveryError "journal blob references do not form a contiguous spool prefix"
    else
      let _ ← readDataBlob disk reference
      return expectedOffset + reference.length

/-- Whether the last frame that says so leaves the run interrupted. -/
def journalEndsInterrupted : List JournalFrameV1 → Bool
  | [] => false
  | frame :: older =>
    match frame.body.event with
    | .interrupted _ => true
    | .stateChanged _ => false
    | _ => journalEndsInterrupted older

/-- Why a recovered run may not resume. -/
inductive ResumeRefusalV1 where
  | alreadyTerminal
  | cancelled
  | notInterrupted
  | unknownAttempt
  deriving DecidableEq

/-- Everything the reader reports of a run. -/
structure RecoveredRunStateV1 where
  lastSequence : Nat
  lastFrameDigest : Option Sha256DigestV1
  lastExecutionEpoch : Nat
  nodes : List RecoveryNodeV1
  terminal : Bool
  interrupted : Bool
  cancellationRequested : Bool
  committedItemCount : Nat
  summary : ScrapeRunSummaryV1
  lastSinkCommit : Option SinkCommitV1
  outputFinalization : Option OutputFinalizationV1
  /-- The end of the spool prefix the journal refers to, behind which the spool is cut off. -/
  spoolPrefix : Nat
  resume : Option ResumeRefusalV1

/-- Whether a node's last attempt has an unknown effect. -/
def RecoveryNodeV1.unresolved (recovered : RecoveryNodeV1) : Bool :=
  decide (recovered.state = .attempting ∨ recovered.state = .observed)

/-- Why a run may not resume, if it may not. -/
def deriveResumeEligibility (terminal cancellationRequested interrupted unknownAttempt : Bool) :
    Option ResumeRefusalV1 :=
  if terminal then some .alreadyTerminal
  else if cancellationRequested then some .cancelled
  else if !interrupted then some .notInterrupted
  else if unknownAttempt then some .unknownAttempt
  else none

/-- An error of the reader under its own class. -/
def asRecoveryError (error : RunError) : RunError :=
  match error with
  | .runRecovery message => .runRecovery message
  | error => if error.isPublicContractError then .runRecovery error.message else error

/-- Reconstructs durable node state without sending traffic or inferring a node outcome. -/
def recoverRunState (env : RunEnvironment) (disk : Disk) : Except RunError RecoveredRunStateV1 :=
  Except.mapError asRecoveryError do
    let frames := disk.frames
    let recovery ← recoverFrames env disk frames
    let spoolPrefix ← validateSpoolPrefix disk recovery.references
    let interrupted := !recovery.terminal && journalEndsInterrupted frames
    return {
      lastSequence := (frames.head?.map fun frame => frame.body.sequence).getD 0
      lastFrameDigest := frames.head?.map JournalFrameV1.digest
      lastExecutionEpoch := recovery.executionEpoch
      nodes := recovery.nodes
      terminal := recovery.terminal
      interrupted
      cancellationRequested := recovery.cancellationRequested
      committedItemCount := recovery.committedItemDigests.length
      summary := recovery.summary
      lastSinkCommit := recovery.lastSinkCommit
      outputFinalization := recovery.outputFinalization
      spoolPrefix
      resume := deriveResumeEligibility recovery.terminal recovery.cancellationRequested
        interrupted (recovery.nodes.any RecoveryNodeV1.unresolved) }

/-- The disk once the spool has been cut off behind the prefix its journal refers to. -/
def truncateSpool (disk : Disk) (spoolPrefix : Nat) : Disk :=
  disk.filter fun
    | .frame _ => true
    | .blob _ reference => decide (reference.offset < spoolPrefix)

end Klura
