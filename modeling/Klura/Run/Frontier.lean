import Klura.Run.ItemEmission

/-! The nodes of a run: how they wait, how they are made durable and how they fan out. -/

namespace Klura

namespace FrontierV1

/-- A frontier that holds no node yet. -/
def empty (maximumBytes : Nat) : FrontierV1 :=
  { nodes := [], encodedBytes := 0, maximumBytes }

/-- Whether a node fits the frontier's byte budget. -/
def canEnqueue (frontier : FrontierV1) (node : ScrapeNodeV1) : Bool :=
  decide (frontier.encodedBytes + encodedNodeBytes node ≤ frontier.maximumBytes)

/-- The frontier with a node at its end, when it fits. -/
def enqueue (frontier : FrontierV1) (node : ScrapeNodeV1) : Option FrontierV1 :=
  if (frontier.maximumBytes : Int) < frontier.encodedBytes + encodedNodeBytes node then none
  else some { frontier with
    nodes := frontier.nodes ++ [node]
    encodedBytes := frontier.encodedBytes + encodedNodeBytes node }

/-- The first waiting node and the frontier without it. -/
def dequeue (frontier : FrontierV1) : Option (ScrapeNodeV1 × FrontierV1) :=
  match frontier.nodes with
  | [] => none
  | node :: rest => some (node, { frontier with
      nodes := rest
      encodedBytes := frontier.encodedBytes - encodedNodeBytes node })

end FrontierV1

/-- Puts a node at the end of the frontier and says whether it fitted. -/
def enqueueFrontier (node : ScrapeNodeV1) : RunProgram Bool := do
  let world ← get
  match world.frontier.enqueue node with
  | none => return false
  | some frontier => do
    set { world with frontier }
    return true

/-- Whether an error is the spool's refusal of a value its budget has no room for. -/
def RunError.isSpoolBudget : RunError → Bool
  | .dataSpool .durableBudgetExhausted _ => true
  | _ => false

/-- Appends a node's state to the spool, or reports that the spool's budget is spent. -/
def appendNodeState (env : RunEnvironment) (node : ScrapeNodeV1) :
    RunProgram (Option BlobRefV1) :=
  tryCatch
    (do
      let reference ← appendDataBlob env (.node node) env.policy.durable.maxDataSpoolBytes
      return some reference)
    fun error => if error.isSpoolBudget then return none else throw error

/-- Makes a node durable before it may be dispatched. -/
def enqueueDurableNode (env : RunEnvironment) (node : ScrapeNodeV1) : RunProgram Bool := do
  let world ← get
  if !world.frontier.canEnqueue node then return false
  else do
    let state ← appendNodeState env node
    match state with
    | none => return false
    | some nodeState => do
      let recorded ← append env (.nodeEnqueued node.nodeId (env.digestOf node.logicalKey.value)
        nodeState node.taskKindId node.rootOrdinal node.seedOrdinal node.depth node.outputOrdinal)
      if !recorded then return false else enqueueFrontier node

/-- Makes the progress of a node's chain durable before its next page. -/
def persistDurableNodeProgress (env : RunEnvironment) (node : ScrapeNodeV1) :
    RunProgram Bool := do
  let state ← appendNodeState env node
  match state with
  | none => return false
  | some nodeState => append env (.nodeProgressed node.nodeId nodeState)

/-- Enqueues a child unless the run knows it already. -/
def enqueueNode (env : RunEnvironment) (node : ScrapeNodeV1) : RunProgram Bool := do
  let world ← get
  if node.nodeId ∈ world.state.knownNodeIds then return true
  else do
    let enqueued ← enqueueDurableNode env node
    if enqueued then do
      modifyState fun state => { state with knownNodeIds := node.nodeId :: state.knownNodeIds }
      return true
    else return false

/-- Hands out the next node ordinal of the run. -/
def allocateOutputOrdinal : RunProgram Nat := do
  let world ← get
  modifyState fun state => { state with nextNodeOrdinal := state.nextNodeOrdinal + 1 }
  return world.state.nextNodeOrdinal

/-- Whether an edge's condition holds of a parent item. -/
def edgeApplies (env : RunEnvironment) (parentItem : JsonValueV1) (edge : ScrapeFanoutV1) :
    RunProgram Bool :=
  match edge.condition with
  | none => return true
  | some condition => orRaise (condition parentItem env.args)

/-- The child one edge makes of one parent item, when the edge's condition holds. -/
def expandEdge (env : RunEnvironment) (node : ScrapeNodeV1) (parentItem : JsonValueV1)
    (edge : ScrapeFanoutV1) : RunProgram (Option ScrapeNodeV1) := do
  let wanted ← edgeApplies env parentItem edge
  if !wanted then return none
  else
    match env.taskKind edge.childTaskKind with
    | none => throw (.publicContract "run.fanout.child_task_kind" "is unavailable")
    | some childTask =>
      match env.capability childTask.capability with
      | none => throw (.publicContract "run.fanout.capability" "is unavailable")
      | some childCapability =>
        if env.collection.maxFanoutDepth < node.depth + 1 then
          throw (.publicContract "run.fanout.depth" "exceeds the signed graph depth")
        else do
          let input ← orRaise (edge.input parentItem)
          orRaise (validateJsonSchema input childCapability.inputSchema "run.fanout.input")
          let ordinal ← allocateOutputOrdinal
          return some (createScrapeNode env
            (.fanout node.nodeId edge.id (env.digestOf parentItem)) ordinal childTask.id
            childTask.capability input node.rootOrdinal node.seedOrdinal (node.depth + 1))

/-- The children all edges make of one parent item. -/
def expandEdges (env : RunEnvironment) (node : ScrapeNodeV1) (parentItem : JsonValueV1) :
    List ScrapeFanoutV1 → RunProgram (List ScrapeNodeV1)
  | [] => return []
  | edge :: rest => do
    let child ← expandEdge env node parentItem edge
    let children ← expandEdges env node parentItem rest
    return child.toList ++ children

/-- Expands only declared same-package fan-out edges from committed parent items. -/
def expandScrapeFanout (env : RunEnvironment) (task : ScrapeTaskKindV1) (node : ScrapeNodeV1) :
    List JsonValueV1 → RunProgram (List ScrapeNodeV1)
  | [] => return []
  | parentItem :: rest => do
    let children ← expandEdges env node parentItem task.fanout
    let others ← expandScrapeFanout env task node rest
    return children ++ others

/-- Binds a value into the next page's input. -/
def bindInput (input : JsonValueV1) (key : StableContractIdV1) (value : JsonValueV1) :
    JsonValueV1 :=
  match input with
  | .object entries => .object (setEntry entries key.text value)
  | other => other

/-- The next page's input from a matched continuation. -/
def continuationInput (kind : ScrapePaginationKindV1) (input taskData : JsonValueV1) :
    Except RunError JsonValueV1 :=
  match kind with
  | .counter key step =>
    match (input.member key.text).bind fun value =>
        match value with
        | .number number => number.safeInteger
        | _ => none with
    | none => .error (.publicContract "run.pagination.counter" "binding must be a safe integer")
    | some current =>
      if (current + step).natAbs ≤ JsonNumber.maxSafeInteger then
        .ok (bindInput input key (.number (.ofInt (current + step))))
      else .error (.publicContract "run.pagination.counter" "increment is out of range")
  | .observedLink pointer key validateStartUrl => do
    let value ← (resolveJsonPointer taskData pointer "run.pagination.value_pointer").mapError
      ContractIssueV1.raised
    match validateStartUrl with
    | none => throw (.publicContract "run.pagination.start_url_template_id" "is unavailable")
    | some validate =>
      let url ← (validate value).mapError ContractIssueV1.raised
      return bindInput input key url
  | .cursor pointer key => do
    let value ← (resolveJsonPointer taskData pointer "run.pagination.value_pointer").mapError
      ContractIssueV1.raised
    return bindInput input key value

/-- The next page's input, or none when the page is the chain's last one. -/
def nextPaginationInput (task : ScrapeTaskKindV1) (input : JsonValueV1) (context : PageContextV1) :
    Except RunError (Option JsonValueV1) :=
  match task.pagination with
  | none => .ok none
  | some pagination => do
    let continueMatches ← (pagination.continueWhen context).mapError ContractIssueV1.raised
    let exhaustedMatches ← (pagination.exhaustedWhen context).mapError ContractIssueV1.raised
    if continueMatches = exhaustedMatches then
      throw (.publicContract "run.pagination"
        "continuation and exhaustion predicates are indeterminate")
    else if exhaustedMatches then return none
    else
      match input, context.taskData with
      | .object _, some taskData => do
        let next ← continuationInput pagination.kind input taskData
        return some next
      | .object _, none =>
        throw (.publicContract "run.pagination" "continuation requires task data")
      | _, _ => throw (.publicContract "run.pagination.input" "must be a JSON object")

end Klura
