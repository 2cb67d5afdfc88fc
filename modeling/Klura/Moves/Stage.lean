import Klura.Run.Service

/-! What one elementary move of a chain can do, between two of its appends or decisions. -/

namespace Klura

/-- A frame of ordinary work leads from one world to the next. -/
def Recorded (env : RunEnvironment) (event : JournalEventV1) (world next : World) : Prop :=
  hasOrdinaryJournalCapacity world.state 1 = true ∧ ∃ frame,
    appendJournalFrame env world.disk (world.state.nextBody env event)
      env.policy.durable.maxJournalBytes world.state.maximumJournalFrames
      JOURNAL_EMERGENCY_BYTE_RESERVE_V1 = .ok frame ∧ next = world.appended frame

/-- A frame of the emergency path leads from one world to the next. -/
def RecordedEmergency (env : RunEnvironment) (event : JournalEventV1) (world next : World) : Prop :=
  ∃ frame, appendEmergencyJournalFrame env world.disk world.state.maximumJournalBytes
    (world.state.nextBody env event) world.state.maximumJournalFrames = .ok frame ∧
      next = world.appendedEmergency frame

/-- The reference a value appended to the spool gets. -/
def Disk.nextReference (env : RunEnvironment) (disk : Disk) (content : BlobContentV1) :
    BlobRefV1 :=
  { offset := disk.spoolBytes, length := canonicalBytes content.value,
    sha256 := env.digestOf content.value }

/-- The world once a value has been appended to the spool. -/
def World.spooled (env : RunEnvironment) (world : World) (content : BlobContentV1) : World :=
  { world with disk := .blob content (world.disk.nextReference env content) :: world.disk }

/-- Only what the chains, the clock and the destination say changed. -/
def Quiet (world next : World) : Prop :=
  ∃ semanticStops controlStop batchStop clock linkSucceeds,
    next = { world with semanticStops, controlStop, batchStop, clock, linkSucceeds }

/-- Whether a look at the stops of a chain finds one. -/
def World.stopped (world : World) : Bool :=
  world.batchStop.isSome || world.controlStop.isSome || world.clock.headD false

/-- A returned call ends its chain before the chain has asked for its turn: its observation is
refused, or it is recorded and a stop stands. -/
def EndsUnasked (env : RunEnvironment) (world : World) (chain : TaskChainV1)
    (result : PublicCallResultV1) : Prop :=
  hasOrdinaryJournalCapacity world.state 1 = false ∨
    (world.stopped = true ∧ ∃ next, Recorded env
      (.attemptObserved chain.node.nodeId chain.task.id result.kind result.attempts) world next)

/-- A chain that holds no reservation any more. -/
def TaskChainV1.gaveBack (chain : TaskChainV1) : TaskChainV1 :=
  { chain with heldTargetRequests := 0, heldReorderBytes := 0 }

/-- The world once a chain has given back what its attempt holds. -/
def World.gaveBack (world : World) (chain : TaskChainV1) : World :=
  { world with state := { world.state with
      reservedTargetRequests := world.state.reservedTargetRequests - chain.heldTargetRequests
      reservedReorderBufferBytes :=
        world.state.reservedReorderBufferBytes - chain.heldReorderBytes } }

/-- The world once bytes have been retained for a chain's fan-out. -/
def World.retained (world : World) (bytes : Int) : World :=
  { world with state := { world.state with
      retainedFanoutItemBytes := world.state.retainedFanoutItemBytes + bytes } }

/-- A chain once its next call is on its way. -/
def TaskChainV1.placed (env : RunEnvironment) (world : World) (chain : TaskChainV1) :
    TaskChainV1 :=
  { chain with
    chainOrdinal := some (chain.chainOrdinal.getD world.attemptOrder.nextAllocated)
    pagesStartedInChain := chain.nextPage
    node := if chain.task.taskRole = .page then
      { chain.node with pagesStartedInChain := chain.nextPage } else chain.node
    heldTargetRequests := chain.capability.maxTargetRequestsPerCall
    heldReorderBytes := chain.reorderBytes env world }

/-- The world once a chain's next call is on its way. -/
def World.placed (env : RunEnvironment) (world : World) (chain : TaskChainV1) : World :=
  { world with
    attemptOrder := if chain.chainOrdinal.isNone then world.attemptOrder.allocate
      else world.attemptOrder
    state := { world.state with
      reservedReorderBufferBytes :=
        world.state.reservedReorderBufferBytes + chain.reorderBytes env world
      tasksStarted := world.state.tasksStarted + 1
      pagesStarted := world.state.pagesStarted + (if chain.task.taskRole = .page then 1 else 0)
      reservedTargetRequests :=
        world.state.reservedTargetRequests + chain.capability.maxTargetRequestsPerCall } }

/-- The world once the requests of a returned call have been counted. -/
def World.answered (world : World) (chain : TaskChainV1) (result : PublicCallResultV1) : World :=
  { world with state := { world.state with
      reservedTargetRequests := world.state.reservedTargetRequests - chain.heldTargetRequests
      summary := { world.state.summary with
        targetRequests := world.state.summary.targetRequests + result.attempts } } }

/-- The page whose items a chain is buffering. -/
def TaskChainV1.page (chain : TaskChainV1) (emit : ScrapeEmitV1) (taskData : JsonValueV1) :
    ItemBufferInputV1 :=
  { emit, nodeId := chain.node.nodeId, nodeOrdinal := chain.node.outputOrdinal
    pageOrdinal := (chain.pagesStartedInChain : Int) - 1, taskData }

/-- The position of a page's item. -/
def ItemBufferInputV1.position (input : ItemBufferInputV1) (itemOrdinal : Nat) :
    ItemLogicalOrderV1 :=
  { nodeOrdinal := input.nodeOrdinal, pageOrdinal := input.pageOrdinal, itemOrdinal }

/-- An item passed every check on its content. -/
def Projected (env : RunEnvironment) (input : ItemBufferInputV1) (world : World)
    (item : JsonValueV1) (identityDigest : Sha256DigestV1) : Prop :=
  ∃ rawItem, projectItem env input rawItem world = .ok (item, identityDigest) world

/-- An item passed every check before it is made durable. -/
structure Bufferable (env : RunEnvironment) (input : ItemBufferInputV1) (world : World)
    (itemOrdinal : Nat) (item : BufferedRunItemV1) : Prop where
  node : item.nodeId = input.nodeId
  position : item.logicalOrder = input.position itemOrdinal
  projected : Projected env input world item.item item.identityDigest
  fresh : ∀ entry ∈ world.state.bufferedItems, entry.logicalOrder ≠ item.logicalOrder
  items : (world.state.summary.itemsEmitted : Int) + world.state.reservedItemCount <
    env.policy.maxItems
  bytes : item.itemBytes = canonicalBytes item.item
  preview : ∃ reserved, conservativeOutputBytes world.sink item.item item.itemBytes = .ok reserved ∧
    item.reservedOutputBytes = reserved
  output : world.state.outputBytes + world.state.reservedOutputBytes + item.reservedOutputBytes ≤
    (env.policy.maxOutputBytes : Int)
  identityState : world.state.localStateBytes + world.state.retainedFanoutItemBytes +
    world.state.reservedIdentityStateBytes + identityStateBytes ≤
      (env.policy.durable.maxLocalStateBytes : Int)
  capacity : hasOrdinaryJournalCapacity world.state 1 = true
  spool : world.disk.spoolBytes + canonicalBytes item.item ≤ env.policy.durable.maxDataSpoolBytes

/-- The turn a chain waits for, as its order has settled it. -/
def AttemptOrderV1.turnOf (order : AttemptOrderV1) (chain : TaskChainV1) :
    Option TurnSettlement :=
  if chain.ownsCommitTurn then some .resolved
  else chain.chainOrdinal.bind fun ordinal => order.settled.lookup ordinal

/-- Why a chain without a turn cannot ask for it. -/
def AttemptOrderV1.refusal (order : AttemptOrderV1) (chain : TaskChainV1) : Option RunError :=
  if chain.ownsCommitTurn then none
  else
    match chain.chainOrdinal with
    | none => some (.publicContract "run.attempt_order" "chain ordinal is unavailable")
    | some ordinal =>
      match order.waitForTurn ordinal with
      | .error error => some error
      | .ok _ => none

/-- The order once a chain has asked for its turn. -/
def AttemptOrderV1.asked (order : AttemptOrderV1) (chain : TaskChainV1) : AttemptOrderV1 :=
  if chain.ownsCommitTurn then order
  else
    match chain.chainOrdinal with
    | none => order
    | some ordinal =>
      match order.waitForTurn ordinal with
      | .error _ => order
      | .ok next => next

/-- Whether a page's outcome is one that ends its chain. -/
def TaskChainV1.isTerminal (chain : TaskChainV1) (context : PageContextV1) : Bool :=
  decide (context.outcomeId ∈ chain.task.terminalOutcomeIds)

/-- Whether a chain's task fans out. -/
def TaskChainV1.hasFanout (chain : TaskChainV1) : Bool := !chain.task.fanout.isEmpty

/-- What committing has produced once one more item is visible. -/
def ItemEmissionV1.extended (emission : ItemEmissionV1) (hasFanout : Bool)
    (item : BufferedRunItemV1) : ItemEmissionV1 :=
  if hasFanout then
    { emission with
      items := emission.items ++ [item.item]
      retainedItemBytes := emission.retainedItemBytes + item.itemBytes }
  else emission

/-- A chain once the emission of its page belongs to it. -/
def TaskChainV1.emitted (chain : TaskChainV1) (emission : ItemEmissionV1) : TaskChainV1 :=
  { chain with
    emittedItems := chain.emittedItems ++ emission.items
    retainedFanoutItemBytes := chain.retainedFanoutItemBytes + emission.retainedItemBytes }

/-- A chain once its next page's input is known. -/
def TaskChainV1.advanced (env : RunEnvironment) (chain : TaskChainV1) (continuation : JsonValueV1) :
    TaskChainV1 :=
  let seenInputs := chain.seenInputs ++ [env.digestOf continuation]
  { chain with
    node := { chain.node with input := continuation, seenInputDigests := seenInputs }
    seenInputs, taskInput := continuation }

/-- The error-free end of a chain. -/
def TaskChainV1.succeeded (chain : TaskChainV1) : TaskChainExecutionResultV1 :=
  .ok chain.emittedItems chain.retainedFanoutItemBytes

/-- How a chain came to its end. -/
abbrev ChainOutcomeV1 : Type := Except RunError TaskChainExecutionResultV1

/-- Whether a chain's end hands its retained items on to the fan-out. -/
def transfersRetention : ChainOutcomeV1 → Bool
  | .ok result => result.transfersRetention
  | .error _ => false

/-- The world once a chain has given back what it retained. -/
def World.left (world : World) (chain : TaskChainV1) (outcome : ChainOutcomeV1) : World :=
  if !transfersRetention outcome ∧ 0 < chain.retainedFanoutItemBytes then
    { world with state := { world.state with
        retainedFanoutItemBytes :=
          world.state.retainedFanoutItemBytes - chain.retainedFanoutItemBytes } }
  else world

/-- The order once a chain has released its turn, and the error of one that cannot. -/
def AttemptOrderV1.released (order : AttemptOrderV1) (chain : TaskChainV1) :
    Except RunError AttemptOrderV1 :=
  match chain.chainOrdinal, chain.ownsCommitTurn with
  | some ordinal, true => order.releaseTurn ordinal
  | _, _ => .ok order

/-- Where a chain stands between two of its elementary moves. -/
inductive StageV1 where
  | opening
  | attempting (chain : TaskChainV1)
  | intended (chain : TaskChainV1)
  | calling (chain : TaskChainV1)
  | received (chain : TaskChainV1) (result : PublicCallResultV1)
  | observed (chain : TaskChainV1) (result : PublicCallResultV1)
  | buffering (chain : TaskChainV1) (context : PageContextV1) (items : List BufferedRunItemV1)
  | spooled (chain : TaskChainV1) (context : PageContextV1) (items : List BufferedRunItemV1)
      (item : BufferedRunItemV1) (data : BlobRefV1)
  | asking (chain : TaskChainV1) (continuation : ClaimContinuationV1)
  | erring (chain : TaskChainV1) (error : RunError)
  | claiming (chain : TaskChainV1) (continuation : ClaimContinuationV1)
  | turned (chain : TaskChainV1) (continuation : ClaimContinuationV1)
  | committing (chain : TaskChainV1) (context : PageContextV1) (items : List BufferedRunItemV1)
      (emission : ItemEmissionV1)
  | outputting (chain : TaskChainV1) (context : PageContextV1) (item : BufferedRunItemV1)
      (itemSequence : Nat) (items : List BufferedRunItemV1) (emission : ItemEmissionV1)
  | sinking (chain : TaskChainV1) (context : PageContextV1) (item : BufferedRunItemV1)
      (itemSequence : Nat) (items : List BufferedRunItemV1) (emission : ItemEmissionV1)
  | releasing (chain : TaskChainV1) (context : PageContextV1) (item : BufferedRunItemV1)
      (isNew : Bool) (items : List BufferedRunItemV1) (emission : ItemEmissionV1)
  | advancing (chain : TaskChainV1) (context : PageContextV1)
  | progressing (chain next : TaskChainV1) (nodeState : BlobRefV1)
  | leaving (chain : TaskChainV1) (outcome : ChainOutcomeV1)
  | ended (outcome : ChainOutcomeV1)

namespace StageV1

/-- The chain an error of this stage is handled for, as part of its attempt. -/
def inAttempt : StageV1 → Option TaskChainV1
  | .calling chain | .received chain _ | .observed chain _ | .buffering chain _ _
  | .spooled chain _ _ _ _ | .committing chain _ _ _ | .outputting chain _ _ _ _ _
  | .sinking chain _ _ _ _ _ | .releasing chain _ _ _ _ _ | .advancing chain _
  | .progressing chain _ _ => some chain
  | .asking chain (.rejected _) | .asking chain (.page _ _) | .turned chain (.rejected _)
  | .turned chain (.page _ _) => some chain
  | _ => none

/-- The chain an error of this stage ends, because it was already handling one. -/
def afterError : StageV1 → Option TaskChainV1
  | .asking chain (.failed ..) | .claiming chain (.failed ..) | .turned chain (.failed ..) =>
    some chain
  | _ => none

/-- The chain that a stop or a budget may end at this stage, when it has not to answer for a turn. -/
def mayGiveUp : StageV1 → Option TaskChainV1
  | .attempting chain | .intended chain | .turned chain _ | .advancing chain _
  | .progressing _ chain _ => some chain
  | .received chain _ | .observed chain _ => if chain.ownsCommitTurn then some chain else none
  | _ => none

/-- The chain that a stop or a budget ends before it has asked for its turn. -/
def leavesEarly : StageV1 → Option TaskChainV1
  | .received chain _ | .observed chain _ => if chain.ownsCommitTurn then none else some chain
  | _ => none

/-- The chain whose end is explained at this stage by a recorded reason. -/
def mayExplain : StageV1 → Option TaskChainV1
  | .turned chain (.rejected _) | .turned chain (.failed ..) | .advancing chain _ => some chain
  | _ => none

end StageV1

/-- A chain's part of a run: the world it runs in and the stage it has come to. -/
abbrev ChainPoint : Type := World × StageV1

/-- What a chain may do with its turn in one step: end before it has asked for it, ask for it out of
turn, or take it at one of the points where it was settled. -/
structure TurnPermissionV1 where
  early : Prop
  asks : Prop
  turns : ChainPoint → Prop

/-- One elementary move of the chain of a dispatched node. A chain out of turn ends early, or asks
for its turn, only where it may, and it takes its turn only where it may. -/
inductive ChainMove (env : RunEnvironment) (entry : BatchEntryV1) (permits : TurnPermissionV1) :
    ChainPoint → ChainPoint → Prop where
  | quiet {world next stage} (quiet : Quiet world next) :
      ChainMove env entry permits (world, stage) (next, stage)
  | opened {world maximum} (plain : entry.task.fanout.isEmpty = true) :
      ChainMove env entry permits (world, .opening)
        (world, .attempting (initialChain entry maximum []))
  | reopened {world maximum items} (fans : entry.task.fanout.isEmpty = false)
      (read : readCommittedNodeItems world.disk entry.node.nodeId = .ok items)
      (room : world.state.localStateBytes + world.state.retainedFanoutItemBytes +
        world.state.reservedIdentityStateBytes + itemsBytes items ≤
          (env.policy.durable.maxLocalStateBytes : Int)) :
      ChainMove env entry permits (world, .opening)
        (world.retained (itemsBytes items), .attempting
          { initialChain entry maximum items with retainedFanoutItemBytes := itemsBytes items })
  | unopened {world maximum items outcome} (unsuccessful : ∀ result, outcome = .ok result →
        ∃ stop, result = .failed stop) :
      ChainMove env entry permits (world, .opening)
        (world, .leaving (initialChain entry maximum items) outcome)
  | limitless {world next message} (recorded : RecordedEmergency env
        (.stopReason (some entry.node.nodeId) (some entry.task.id) .taskFailed message) world next) :
      ChainMove env entry permits (world, .opening)
        (next, .leaving (initialChain entry none []) (.ok (.failed .taskFailed)))
  | intended {world next chain} (may : attemptForbidden env world.state chain = false)
      (recorded : Recorded env (.attemptIntent chain.node.nodeId chain.task.id) world next) :
      ChainMove env entry permits (world, .attempting chain) (next, .intended chain)
  | unintended {world chain error} :
      ChainMove env entry permits (world, .attempting chain) (world, .leaving chain (.error error))
  | placed {world chain} (room : world.state.reservedReorderBufferBytes +
        chain.reorderBytes env world ≤ (env.policy.durable.maxReorderBufferBytes : Int)) :
      ChainMove env entry permits (world, .intended chain)
        (world.placed env chain, .calling (chain.placed env world))
  | answered {world chain result} :
      ChainMove env entry permits (world, .calling chain)
        (world.answered chain result, .received { chain with heldTargetRequests := 0 } result)
  | observed {world next chain result} (recorded : Recorded env
        (.attemptObserved chain.node.nodeId chain.task.id result.kind result.attempts) world next) :
      ChainMove env entry permits (world, .received chain result) (next, .observed chain result)
  | refused {world chain} {result : PublicCallResultV1} (unaccepted :
        result.acceptedPage chain.task = none) :
      ChainMove env entry permits (world, .observed chain result)
        (world, .asking chain (.rejected result))
  | accepted {world chain context} {result : PublicCallResultV1} (page :
        result.acceptedPage chain.task = some context) :
      ChainMove env entry permits (world, .observed chain result)
        (world, .buffering chain context [])
  | repeated {world chain context items emit taskData item} (live : chain.isTerminal context = false)
      (emits : chain.task.emit = some emit) (data : context.taskData = some taskData)
      (member : item ∈ world.state.bufferedItems)
      (node : item.nodeId = chain.node.nodeId)
      (position : item.logicalOrder = (chain.page emit taskData).position items.length) :
      ChainMove env entry permits (world, .buffering chain context items)
        (world, .buffering chain context (items ++ [item]))
  | spooled {world chain context items emit taskData item} (live : chain.isTerminal context = false)
      (emits : chain.task.emit = some emit) (data : context.taskData = some taskData)
      (may : Bufferable env (chain.page emit taskData) world items.length item) :
      ChainMove env entry permits (world, .buffering chain context items)
        (world.spooled env (.item item.item), .spooled chain context items item
          (world.disk.nextReference env (.item item.item)))
  | buffered {world next chain context items item data} (recorded : Recorded env
        (.itemBuffered item.nodeId item.identityDigest data item.logicalOrder) world next) :
      ChainMove env entry permits (world, .spooled chain context items item data)
        ({ next with state := next.state.buffered item }, .buffering chain context (items ++ [item]))
  | filled {world chain context items} :
      ChainMove env entry permits (world, .buffering chain context items)
        (world, .asking chain (.page context items))
  | erred {world stage chain error} (inside : stage.inAttempt = some chain) :
      ChainMove env entry permits (world, stage) (world, .erring chain error)
  | rejected {world chain continuation error}
      (live : ∀ stop cause, continuation ≠ .failed stop cause)
      (rejection : world.attemptOrder.turnOf chain = some (.rejected error)) :
      ChainMove env entry permits (world, .claiming chain continuation) (world, .erring chain error)
  | classified {world chain error stop} (stops : chainStopForError error = some stop) :
      ChainMove env entry permits (world, .erring chain error)
        (world, .asking chain (.failed stop error))
  | aborted {world chain error} (unclassified : chainStopForError error = none) :
      ChainMove env entry permits (world, .erring chain error)
        ({ world with attemptOrder := world.attemptOrder.abort error }.gaveBack chain,
          .leaving chain.gaveBack (.error error))
  | raised {world stage chain error} (inside : stage.afterError = some chain)
      (refusal : ∀ continuation, stage = .asking chain continuation →
        world.attemptOrder.refusal chain = some error)
      (rejection : ∀ continuation, stage = .claiming chain continuation →
        world.attemptOrder.turnOf chain = some (.rejected error)) :
      ChainMove env entry permits (world, stage)
        (world.gaveBack chain, .leaving chain.gaveBack (.error error))
  | asked {world chain continuation} (allowed : chain.ownsCommitTurn = false → permits.asks)
      (grants : world.attemptOrder.refusal chain = none) :
      ChainMove env entry permits (world, .asking chain continuation)
        ({ world with attemptOrder := world.attemptOrder.asked chain }, .claiming chain continuation)
  | granted {world chain continuation}
      (allowed : permits.turns (world, .claiming chain continuation))
      (resolved : world.attemptOrder.turnOf chain = some .resolved) :
      ChainMove env entry permits (world, .claiming chain continuation)
        ({ world with state := { world.state with
            reservedReorderBufferBytes :=
              world.state.reservedReorderBufferBytes - chain.heldReorderBytes } },
          .turned { chain with ownsCommitTurn := true, heldReorderBytes := 0 } continuation)
  | completed {world next chain context items} (recorded : Recorded env
        (.taskCompleted chain.node.nodeId chain.task.id) world next) :
      ChainMove env entry permits (world, .turned chain (.page context items))
        ({ next with state := { next.state with summary := { next.state.summary with
            tasksCompleted := next.state.summary.tasksCompleted + 1 } } },
          .committing chain context items
            { items := [], retainedItemBytes := 0, semanticStopId := none })
  | duplicated {world next chain context item items emission}
      (known : item.identityDigest ∈ world.state.identityDigests)
      (recorded : Recorded env
        (.itemDuplicate item.nodeId item.identityDigest item.logicalOrder) world next) :
      ChainMove env entry permits (world, .committing chain context (item :: items) emission)
        ({ next with state := { next.state with summary := { next.state.summary with
            itemsDuplicate := next.state.summary.itemsDuplicate + 1 } } },
          .releasing chain context item false items emission)
  | committed {world next chain context item items emission}
      (fresh : item.identityDigest ∉ world.state.identityDigests)
      (room : chain.hasFanout = true → world.state.localStateBytes +
        world.state.retainedFanoutItemBytes + world.state.reservedIdentityStateBytes +
          item.itemBytes ≤ (env.policy.durable.maxLocalStateBytes : Int))
      (capacity : hasOrdinaryJournalCapacity world.state
        (if world.sink.isNone then 1 else 2) = true)
      (recorded : Recorded env (.itemCommitted item.nodeId item.identityDigest item.logicalOrder
        world.state.nextItemSequence) world next) :
      ChainMove env entry permits (world, .committing chain context (item :: items) emission)
        ({ next with state := next.state.committed item chain.hasFanout },
          .outputting chain context item world.state.nextItemSequence items emission)
  | charged {world chain context item itemSequence items emission} (inline : world.sink = none) :
      ChainMove env entry permits (world, .outputting chain context item itemSequence items emission)
        ({ world with state := { world.state with
            outputBytes := world.state.outputBytes + item.reservedOutputBytes } },
          .releasing chain context item true items emission)
  | written {world chain context item itemSequence items emission} {sink next : FileRunOutputSinkV1}
      (holds : world.sink = some sink) (writes : sink.write item.item = .ok next) :
      ChainMove env entry permits (world, .outputting chain context item itemSequence items emission)
        ({ world with sink := some next },
          .sinking chain context item itemSequence items emission)
  | sunk {world next chain context item itemSequence items emission} {sink : FileRunOutputSinkV1}
      (holds : world.sink = some sink) (recorded : Recorded env (.sinkCommitted itemSequence
        (sink.progress env).byteOffset (sink.progress env).prefixDigest) world next) :
      ChainMove env entry permits (world, .sinking chain context item itemSequence items emission)
        ({ next with state := { next.state with outputBytes := sink.bytesWritten } },
          .releasing chain context item true items emission)
  | released {world chain context item isNew items emission}
      (pending : (world.state.bufferedItems.any fun entry =>
        entry.logicalOrder = item.logicalOrder) = true) :
      ChainMove env entry permits (world, .releasing chain context item isNew items emission)
        ({ world with state := world.state.released item !isNew },
          .committing chain context items
            (if isNew then emission.extended chain.hasFanout item else emission))
  | cut {world chain context items stopId} {emission : ItemEmissionV1} :
      ChainMove env entry permits (world, .committing chain context items emission)
        (world, .leaving (chain.emitted emission) (.ok (.completed (.dateCutoffReached stopId))))
  | emitted {world chain context emission} (live : chain.isTerminal context = false) :
      ChainMove env entry permits (world, .committing chain context [] emission)
        (world, .advancing (chain.emitted emission) context)
  | finished {world chain context items emission} (last : chain.isTerminal context = true) :
      ChainMove env entry permits (world, .committing chain context items emission)
        (world, .leaving chain (.ok chain.succeeded))
  | exhausted {world chain context}
      (last : nextPaginationInput chain.task chain.taskInput context = .ok none) :
      ChainMove env entry permits (world, .advancing chain context)
        (world, .leaving chain (.ok chain.succeeded))
  | continued {world chain context continuation}
      (fresh : env.digestOf continuation ∉ chain.seenInputs)
      (canonical : canonicalIssue continuation "$" 0 = none)
      (next : nextPaginationInput chain.task chain.taskInput context = .ok (some continuation))
      (room : world.disk.spoolBytes + canonicalBytes (BlobContentV1.node
        (chain.advanced env continuation).node).value ≤ env.policy.durable.maxDataSpoolBytes) :
      ChainMove env entry permits (world, .advancing chain context)
        (world.spooled env (.node (chain.advanced env continuation).node),
          .progressing chain (chain.advanced env continuation)
            (world.disk.nextReference env (.node (chain.advanced env continuation).node)))
  | progressed {world next chain advanced nodeState} (recorded : Recorded env
        (.nodeProgressed advanced.node.nodeId nodeState) world next) :
      ChainMove env entry permits (world, .progressing chain advanced nodeState)
        (next, .attempting advanced)
  | gaveUp {world stage chain stop} (may : stage.mayGiveUp = some chain) :
      ChainMove env entry permits (world, stage)
        (world.gaveBack chain, .leaving chain.gaveBack (.ok (.failed stop)))
  | unspooled {world chain context continuation stop} :
      ChainMove env entry permits (world, .advancing chain context)
        (world.gaveBack chain,
          .leaving (chain.advanced env continuation).gaveBack (.ok (.failed stop)))
  | leftEarly {world stage chain stop} (allowed : permits.early)
      (leaves : stage.leavesEarly = some chain) :
      ChainMove env entry permits (world, stage)
        (world.gaveBack chain, .leaving chain.gaveBack (.ok (.failed stop)))
  | explained {world next stage chain stop message} (may : stage.mayExplain = some chain)
      (recorded : RecordedEmergency env (.stopReason (some chain.node.nodeId)
        (some chain.task.id) stop message) world next) :
      ChainMove env entry permits (world, stage)
        (next.gaveBack chain, .leaving chain.gaveBack (.ok (.failed stop)))
  | left {world chain outcome order} (releases : world.attemptOrder.released chain = .ok order) :
      ChainMove env entry permits (world, .leaving chain outcome)
        ({ world.left chain outcome with attemptOrder := order }, .ended outcome)
  | stranded {world chain outcome error} (holds : world.attemptOrder.released chain = .error error) :
      ChainMove env entry permits (world, .leaving chain outcome)
        (world.left chain outcome, .ended (.error error))

/-- Any number of elementary moves of one chain. -/
abbrev ChainMoves (env : RunEnvironment) (entry : BatchEntryV1) (permits : TurnPermissionV1) :
    ChainPoint → ChainPoint → Prop :=
  Relation.ReflTransGen (ChainMove env entry permits)

end Klura
