import Klura.Run.Output

/-! Buffering a page's items durably, and committing them in their fixed logical order. -/

namespace Klura

/-- Compares two pre-assigned item positions without inspecting item content. -/
def compareItemLogicalOrder (left right : ItemLogicalOrderV1) : Int :=
  if left.nodeOrdinal ≠ right.nodeOrdinal then left.nodeOrdinal - right.nodeOrdinal
  else if left.pageOrdinal ≠ right.pageOrdinal then left.pageOrdinal - right.pageOrdinal
  else left.itemOrdinal - right.itemOrdinal

namespace SemanticStopTrackerV1

/-- Whether a value compared to its bound is still inside the asked-for range. -/
def isInSemanticScope (current bound : Int) (order : SemanticOrderV1) (inclusive : Bool) : Bool :=
  match order with
  | .ascending => if inclusive then current ≤ bound else current < bound
  | .descending => if inclusive then bound ≤ current else bound < current

/-- Whether a value breaks the declared direction after the one before it. -/
def breaksOrder (order : SemanticOrderV1) (current previous : Int) : Bool :=
  match order with
  | .ascending => current < previous
  | .descending => previous < current

/-- The comparable value a stop reads from an item. -/
def itemValue (stop : SemanticStopV1) (item : JsonValueV1) : Except RunError Int := do
  let raw ← (resolveJsonPointer item stop.itemValuePointer "run.semantic_stop.item").mapError
    fun issue => .semanticStopItem issue.raised.message
  (stop.comparator raw).mapError fun issue => .semanticStopItem issue.raised.message

/-- The last values once one of them has been replaced. -/
def setPrevious (previous : List (StableContractIdV1 × Int)) (id : StableContractIdV1)
    (value : Int) : List (StableContractIdV1 × Int) :=
  (id, value) :: previous.filter fun entry => entry.1 ≠ id

/-- Looks at one item with each active stop in turn, up to the first one it reaches. -/
def observeWith (item : JsonValueV1) :
    List (SemanticStopV1 × Int) → List (StableContractIdV1 × Int) →
      Except RunError (Option StableContractIdV1) × List (StableContractIdV1 × Int)
  | [], previous => (.ok none, previous)
  | (stop, bound) :: rest, previous =>
    match itemValue stop item with
    | .error error => (.error error, previous)
    | .ok current =>
      if ((previous.lookup stop.id).map (breaksOrder stop.order current)).getD false then
        (.error (.semanticStopItem "semantic stop ordering is not monotonic"), previous)
      else
        let seen := setPrevious previous stop.id current
        if !isInSemanticScope current bound stop.order stop.inclusive then (.ok (some stop.id), seen)
        else observeWith item rest seen

/-- Looks at one item: the stop it reaches or the error it raises, and the tracker afterwards. -/
def observe (tracker : SemanticStopTrackerV1) (item : JsonValueV1) :
    Except RunError (Option StableContractIdV1) × SemanticStopTrackerV1 :=
  let outcome := observeWith item tracker.active tracker.previous
  (outcome.1, { tracker with previous := outcome.2 })

/-- The stops a caller gave a bound for. -/
def resolveSemanticStops (args : JsonValueV1) :
    List SemanticStopV1 → Except RunError (List (SemanticStopV1 × Int))
  | [] => .ok []
  | stop :: rest => do
    let bound ← (stop.boundArgument args).mapError ContractIssueV1.raised
    let active ← resolveSemanticStops args rest
    return match bound with
      | none => active
      | some bound => (stop, bound) :: active

/-- The tracker once it has looked at every item committed before. -/
def observeAll (tracker : SemanticStopTrackerV1) :
    List JsonValueV1 → Except RunError SemanticStopTrackerV1
  | [] => .ok tracker
  | item :: rest =>
    let outcome := tracker.observe item
    match outcome.1 with
    | .error error => .error error
    | .ok none => outcome.2.observeAll rest
    | .ok (some _) =>
      .error (.semanticStopItem "committed item is outside its active semantic cutoff")

/-- The tracker of an execution that follows the given committed items. -/
def start (env : RunEnvironment) (priorItems : List JsonValueV1) :
    Except RunError SemanticStopTrackerV1 := do
  let active ← resolveSemanticStops env.args env.collection.semanticStops
  observeAll { previous := [], active } priorItems

end SemanticStopTrackerV1

/-- Looks at an item about to be committed. -/
def observeItem (item : JsonValueV1) : RunProgram (Option StableContractIdV1) := do
  let world ← get
  let outcome := world.semanticStops.observe item
  set { world with semanticStops := outcome.2 }
  orThrow outcome.1

/-- The bytes one identity digest is charged for: its text and a separator. -/
def identityStateBytes : Int := 65

/-- The bytes of a list of items. -/
def itemsBytes (items : List JsonValueV1) : Nat := (items.map canonicalBytes).sum

/-- Reserves parent items held while their declared fan-out is materialized. -/
def reserveRetainedFanoutItems (env : RunEnvironment) (items : List JsonValueV1) :
    RunProgram (Option Int) := do
  let world ← get
  let bytes : Int := itemsBytes items
  if (env.policy.durable.maxLocalStateBytes : Int) < world.state.localStateBytes +
      world.state.retainedFanoutItemBytes + world.state.reservedIdentityStateBytes + bytes then
    return none
  else
    modifyState fun state =>
      { state with retainedFanoutItemBytes := state.retainedFanoutItemBytes + bytes }
    return some bytes

/-- The page whose items are being buffered. -/
structure ItemBufferInputV1 where
  emit : ScrapeEmitV1
  nodeId : RunNodeIdV1
  nodeOrdinal : Nat
  pageOrdinal : Int
  taskData : JsonValueV1

/-- The raw items an emit pointer selected. -/
def toRawItems (cardinality : CardinalityV1) (raw : JsonValueV1) :
    Except RunError (List JsonValueV1) :=
  match cardinality, raw with
  | .one, raw => .ok [raw]
  | .array, .array items => .ok items
  | .array, _ => .error (.itemValidation "array emit pointer did not resolve to an array")

/-- The values that identify an item. -/
def itemIdentityValues (item : JsonValueV1) :
    List JsonPointerV1 → Except ContractIssueV1 (List JsonValueV1)
  | [] => .ok []
  | pointer :: rest => do
    let value ← resolveJsonPointer item pointer "run.item_identity"
    let values ← itemIdentityValues item rest
    return value :: values

/-- The digest that identifies an item. -/
def itemIdentityDigest (env : RunEnvironment) (item : JsonValueV1) :
    Except ContractIssueV1 Sha256DigestV1 :=
  (itemIdentityValues item env.collection.itemIdentity).map fun values =>
    env.digestOf (.array values)

/-- An upper bound on the bytes an item adds to the output. -/
def conservativeOutputBytes (sink : Option FileRunOutputSinkV1) (item : JsonValueV1)
    (itemBytes : Nat) : Except RunError Nat :=
  match sink with
  | none => .ok (itemBytes + 1 + 1)
  | some sink => (sink.previewItem item).map (· + 1)

/-- The item a raw item is projected to, once it passes every check on its own content. -/
def projectItem (env : RunEnvironment) (input : ItemBufferInputV1) (rawItem : JsonValueV1) :
    RunProgram (JsonValueV1 × Sha256DigestV1) := do
  let item ← orRaise (input.emit.projection input.taskData rawItem)
  orItemInvalid (validateJsonSchema item env.collection.itemSchema "run.item")
  if env.policy.maxEncodedItemBytes < canonicalBytes item then
    throw (.itemValidation "item exceeds the signed encoded item byte limit")
  else
    let identityDigest ← orItemInvalid (itemIdentityDigest env item)
    return (item, identityDigest)

/-- The execution state once an item has been buffered. -/
def ExecutionStateV1.buffered (state : ExecutionStateV1) (item : BufferedRunItemV1) :
    ExecutionStateV1 :=
  { state with
    bufferedItems := item :: state.bufferedItems
    reservedItemCount := state.reservedItemCount + 1
    reservedOutputBytes := state.reservedOutputBytes + item.reservedOutputBytes
    reservedIdentityStateBytes := state.reservedIdentityStateBytes + identityStateBytes }

/-- Reserves every budget one new item needs and makes the item durable. -/
def bufferNewItem (env : RunEnvironment) (nodeId : RunNodeIdV1) (identityDigest : Sha256DigestV1)
    (logicalOrder : ItemLogicalOrderV1) (item : JsonValueV1) : RunProgram BufferedRunItemV1 := do
  let world ← get
  let state := world.state
  if (env.policy.maxItems : Int) ≤ state.summary.itemsEmitted + state.reservedItemCount then
    throw (.runBudgetExceeded "item budget is exhausted")
  else do
    let reservedOutputBytes ←
      orThrow (conservativeOutputBytes world.sink item (canonicalBytes item))
    if (env.policy.maxOutputBytes : Int) <
        state.outputBytes + state.reservedOutputBytes + reservedOutputBytes then
      throw (.runBudgetExceeded "output byte budget is exhausted")
    else if (env.policy.durable.maxLocalStateBytes : Int) < state.localStateBytes +
        state.retainedFanoutItemBytes + state.reservedIdentityStateBytes + identityStateBytes then
      throw (.runBudgetExceeded "local identity state budget is exhausted")
    else if !hasOrdinaryJournalCapacity state 1 then
      throw (.runBudgetExceeded "journal frame budget is exhausted")
    else do
      let data ← appendDataBlob env (.item item) env.policy.durable.maxDataSpoolBytes
      let recorded ← append env (.itemBuffered nodeId identityDigest data logicalOrder)
      if !recorded then throw (.runBudgetExceeded "journal frame budget is exhausted")
      else do
        let buffered : BufferedRunItemV1 :=
          { nodeId, identityDigest, logicalOrder, item, itemBytes := canonicalBytes item,
            reservedOutputBytes }
        modifyState fun state => state.buffered buffered
        return buffered

/-- Buffers the item at one position of the page. -/
def bufferItem (env : RunEnvironment) (input : ItemBufferInputV1) (itemOrdinal : Nat)
    (rawItem : JsonValueV1) : RunProgram BufferedRunItemV1 := do
  let (item, identityDigest) ← projectItem env input rawItem
  let logicalOrder : ItemLogicalOrderV1 :=
    { nodeOrdinal := input.nodeOrdinal, pageOrdinal := input.pageOrdinal, itemOrdinal }
  let world ← get
  match world.state.bufferedItems.find? fun entry => entry.logicalOrder = logicalOrder with
  | some existing =>
    -- A replayed page may only repeat what is already buffered at this position.
    if existing.nodeId ≠ input.nodeId ∨ existing.identityDigest ≠ identityDigest ∨
        canonicalJson existing.item ≠ canonicalJson item then
      throw (.itemValidation "safe read replay changed a buffered item position")
    else return existing
  | none => bufferNewItem env input.nodeId identityDigest logicalOrder item

/-- Buffers the items of a page from a position on. -/
def bufferItems (env : RunEnvironment) (input : ItemBufferInputV1) :
    Nat → List JsonValueV1 → RunProgram (List BufferedRunItemV1)
  | _, [] => return []
  | itemOrdinal, rawItem :: rest => do
    let buffered ← bufferItem env input itemOrdinal rawItem
    let items ← bufferItems env input (itemOrdinal + 1) rest
    return buffered :: items

/-- Persists schema-validated items without making them visible to callers or a sink. -/
def bufferRunItems (env : RunEnvironment) (task : ScrapeTaskKindV1) (nodeId : RunNodeIdV1)
    (nodeOrdinal : Nat) (pageOrdinal : Int) (taskData : Option JsonValueV1) :
    RunProgram (List BufferedRunItemV1) :=
  match task.emit, taskData with
  | some emit, some taskData => do
    let raw ← orItemInvalid (resolveJsonPointer taskData emit.itemsPointer "run.emit.items_pointer")
    let rawItems ← orThrow (toRawItems emit.cardinality raw)
    bufferItems env { emit, nodeId, nodeOrdinal, pageOrdinal, taskData } 0 rawItems
  | _, _ => return []

/-- The execution state once a buffered item is no longer pending. -/
def ExecutionStateV1.released (state : ExecutionStateV1) (item : BufferedRunItemV1)
    (releaseIdentityReservation : Bool) : ExecutionStateV1 :=
  { state with
    bufferedItems :=
      state.bufferedItems.filter fun entry => entry.logicalOrder ≠ item.logicalOrder
    reservedItemCount := state.reservedItemCount - 1
    reservedOutputBytes := state.reservedOutputBytes - item.reservedOutputBytes
    reservedIdentityStateBytes := state.reservedIdentityStateBytes -
      (if releaseIdentityReservation then identityStateBytes else 0) }

/-- Takes an item out of the pending ones and gives back what it reserved. -/
def releaseBufferedItem (item : BufferedRunItemV1) (releaseIdentityReservation : Bool) :
    RunProgram PUnit := do
  let world ← get
  if world.state.bufferedItems.any fun entry => entry.logicalOrder = item.logicalOrder then
    modifyState fun state => state.released item releaseIdentityReservation
  else throw (.itemValidation "buffered item is unavailable for commit")

/-- What committing one page produced. -/
structure ItemEmissionV1 where
  items : List JsonValueV1
  retainedItemBytes : Int
  semanticStopId : Option StableContractIdV1

/-- The error of a frame that ordinary work has no room for. -/
def journalFrameBudgetError : RunError :=
  .runBudgetExceeded "journal frame budget is exhausted"

/-- Appends a frame of ordinary work that its caller cannot go on without. -/
def appendOrThrow (env : RunEnvironment) (event : JournalEventV1) : RunProgram PUnit := do
  let recorded ← append env event
  if !recorded then throw journalFrameBudgetError else return ()

/-- The execution state once an item's identity is durable. -/
def ExecutionStateV1.committed (state : ExecutionStateV1) (item : BufferedRunItemV1)
    (hasFanout : Bool) : ExecutionStateV1 :=
  { state with
    identityDigests := item.identityDigest :: state.identityDigests
    reservedIdentityStateBytes := state.reservedIdentityStateBytes - identityStateBytes
    localStateBytes := state.localStateBytes + identityStateBytes
    nextItemSequence := state.nextItemSequence + 1
    summary := { state.summary with itemsEmitted := state.summary.itemsEmitted + 1 }
    retainedFanoutItemBytes :=
      state.retainedFanoutItemBytes + (if hasFanout then (item.itemBytes : Int) else 0) }

/-- Records an item whose identity the run has committed before. -/
def commitDuplicateItem (env : RunEnvironment) (item : BufferedRunItemV1) : RunProgram PUnit := do
  appendOrThrow env (.itemDuplicate item.nodeId item.identityDigest item.logicalOrder)
  modifyState fun state =>
    { state with summary :=
        { state.summary with itemsDuplicate := state.summary.itemsDuplicate + 1 } }
  releaseBufferedItem item true

/-- Writes a committed item to the sink, or charges it to the inline output. -/
def commitItemOutput (env : RunEnvironment) (item : BufferedRunItemV1) (itemSequence : Nat) :
    RunProgram PUnit := do
  let world ← get
  match world.sink with
  | none =>
    modifyState fun state =>
      { state with outputBytes := state.outputBytes + item.reservedOutputBytes }
  | some sink => do
    let sink ← orThrow (sink.write item.item)
    set { world with sink := some sink }
    let progress := sink.progress env
    appendOrThrow env (.sinkCommitted itemSequence progress.byteOffset progress.prefixDigest)
    modifyState fun state => { state with outputBytes := sink.bytesWritten }

/-- Commits an item whose identity is new. -/
def commitNewItem (env : RunEnvironment) (hasFanout : Bool) (item : BufferedRunItemV1) :
    RunProgram PUnit := do
  let world ← get
  if hasFanout ∧ (env.policy.durable.maxLocalStateBytes : Int) < world.state.localStateBytes +
      world.state.retainedFanoutItemBytes + world.state.reservedIdentityStateBytes +
      item.itemBytes then
    throw (.runBudgetExceeded "fan-out item state budget is exhausted")
  else if !hasOrdinaryJournalCapacity world.state (if world.sink.isNone then 1 else 2) then
    throw journalFrameBudgetError
  else do
    let itemSequence := world.state.nextItemSequence
    appendOrThrow env
      (.itemCommitted item.nodeId item.identityDigest item.logicalOrder itemSequence)
    modifyState fun state => state.committed item hasFanout
    commitItemOutput env item itemSequence
    releaseBufferedItem item false

/-- Commits one buffered item and says whether its identity was new. -/
def commitBufferedItem (env : RunEnvironment) (hasFanout : Bool) (item : BufferedRunItemV1) :
    RunProgram Bool := do
  let world ← get
  if item.identityDigest ∈ world.state.identityDigests then do
    commitDuplicateItem env item
    return false
  else do
    commitNewItem env hasFanout item
    return true

/-- Commits one previously buffered page in fixed logical order. -/
def commitBufferedRunItems (env : RunEnvironment) (hasFanout : Bool) :
    List BufferedRunItemV1 → RunProgram ItemEmissionV1
  | [] => return { items := [], retainedItemBytes := 0, semanticStopId := none }
  | item :: rest => do
    let reached ← observeItem item.item
    match reached with
    | some stopId => return { items := [], retainedItemBytes := 0, semanticStopId := some stopId }
    | none => do
      let isNew ← commitBufferedItem env hasFanout item
      let emission ← commitBufferedRunItems env hasFanout rest
      if hasFanout ∧ isNew then
        return { emission with
          items := item.item :: emission.items
          retainedItemBytes := emission.retainedItemBytes + item.itemBytes }
      else return emission

end Klura
