import Klura.Moves.Stage
import Klura.Run.Life

/-! What one elementary move of a whole run can do, from its creation to its terminal frame. -/

namespace Klura

/-- Where a dispatched node stands, until its result has been carried over into the run. -/
inductive SlotV1 where
  | chain (stage : StageV1)
  | skipping (stop : RunStopV1) (retained : Int)
  | expanding (children : List ScrapeNodeV1) (retained : Int)
  | enqueueing (child : ScrapeNodeV1) (nodeState : BlobRefV1) (children : List ScrapeNodeV1)
      (retained : Int)

/-- The bytes a slot's fan-out still retains. -/
def SlotV1.retained : SlotV1 → Int
  | .skipping _ retained | .expanding _ retained | .enqueueing _ _ _ retained => retained
  | .chain (.ended (.ok (.ok _ retained))) => retained
  | _ => 0

/-- Why a run comes to its end. -/
inductive RunReasonV1 where
  | completed (stop : RunCompletionStopV1)
  | stopped (stop : RunStopV1)

/-- Where the service stands with a run, around the chains it has dispatched. -/
inductive RunModeV1 where
  | creating (nodes remaining : List ScrapeNodeV1) (references : List BlobRefV1)
  | launching (nodes : List ScrapeNodeV1)
  | reopening (recovered : RecoveredRunStateV1) (replayNodes : List RecoveryNodeV1)
  | announcing (recovered : RecoveredRunStateV1) (replayNodes : List RecoveryNodeV1)
  | authorizing (recovered : RecoveredRunStateV1) (replayNodes : List RecoveryNodeV1)
  | requeueing (recovered : List RecoveryNodeV1)
  | serving
  | finishing (reason : RunReasonV1)
  | prepared (finalization : OutputFinalizationV1)
  | published (finalization : OutputFinalizationV1)
  | ended (outcome : Except RunError LocalScrapeRunResultV1)

/-- Whether a run may still be stopped with a terminal result of its own choosing. -/
def RunModeV1.stoppable : RunModeV1 → Bool
  | .launching _ | .reopening .. | .announcing .. | .authorizing .. | .requeueing _ | .serving =>
    true
  | .finishing _ => true
  | _ => false

/-- A run between two of its elementary moves. -/
structure RunPointV1 where
  world : World
  slots : List (BatchEntryV1 × SlotV1)
  mode : RunModeV1

/-- The result of a run that ends for a reason. -/
def RunReasonV1.result (summary : ScrapeRunSummaryV1) : RunReasonV1 → LocalScrapeRunResultV1
  | .completed stop => { kind := .scrapeOutcome, summary, stop := .completed stop }
  | .stopped stop => { kind := incompleteKind summary, summary, stop := .stopped stop }

/-- The descriptor of a run that ends for a reason, over the sink it publishes. -/
def RunReasonV1.descriptor (env : RunEnvironment) (summary : ScrapeRunSummaryV1)
    (sink : Option FileRunOutputSinkV1) (reason : RunReasonV1) : TerminalResultDescriptorV1 :=
  createTerminalDescriptor env summary (reason.result summary).kind (reason.result summary).stop sink

/-- The finalization a prepared output is recorded with. -/
def World.finalization (env : RunEnvironment) (sink : FileRunOutputSinkV1)
    (descriptor : TerminalResultDescriptorV1) : OutputFinalizationV1 :=
  { contentDigest := env.sha256Digest sink.text, byteLength := sink.text.length
    terminalDescriptor := descriptor, terminalDescriptorDigest := env.digestOf descriptor.value
    committed := false }

/-- One elementary move of a run. A chain out of turn ends early only where it may. -/
inductive RunMove (env : RunEnvironment) (permits : TurnPermissionV1) : RunPointV1 → RunPointV1 → Prop where
  | chain {world next left right mode} {entry : BatchEntryV1} {stage after : StageV1}
      (moves : ChainMove env entry permits (world, stage) (next, after)) :
      RunMove env permits ⟨world, left ++ (entry, .chain stage) :: right, mode⟩
        ⟨next, left ++ (entry, .chain after) :: right, mode⟩
  | quiet {world next slots mode} (quiet : Quiet world next) :
      RunMove env permits ⟨world, slots, mode⟩ ⟨next, slots, mode⟩
  | cancelled {world next slots mode source} (unasked : world.cancellationRequested = false)
      (open_ : world.state.terminal = false)
      (recorded : RecordedEmergency env (.cancelRequested source) world next) :
      RunMove env permits ⟨world, slots, mode⟩
        ⟨{ next with cancellationRequested := true }, slots, mode⟩
  | rooted {world nodes node remaining references}
      (room : world.disk.spoolBytes + canonicalBytes (BlobContentV1.node node).value ≤
        env.policy.durable.maxDataSpoolBytes) :
      RunMove env permits ⟨world, [], .creating nodes (node :: remaining) references⟩
        ⟨world.spooled env (.node node), [],
          .creating nodes remaining (references ++ [world.disk.nextReference env (.node node)])⟩
  | created {world next references nodes}
      (recorded : Recorded env (.runCreated env.metaDigest (some references)) world next) :
      RunMove env permits ⟨world, [], .creating nodes [] references⟩ ⟨next, [], .launching nodes⟩
  | opened {world mode sink} (opening : (∃ nodes, mode = .launching nodes) ∨
        ∃ recovered replayNodes, mode = .reopening recovered replayNodes)
      (opens : ∃ items, openFileRunOutputSink env items = .ok sink ∧
        ((∃ nodes, mode = .launching nodes) → items = []) ∧
        ((∃ recovered replayNodes, mode = .reopening recovered replayNodes) →
          readCommittedRunItems world.disk = .ok items)) :
      RunMove env permits ⟨world, [], mode⟩
        ⟨{ world with sink, state := { world.state with
            outputBytes := (sink.map fun sink => (sink.bytesWritten : Int)).getD
              world.state.outputBytes } }, [], mode⟩
  | known {world node remaining} :
      RunMove env permits ⟨world, [], .launching (node :: remaining)⟩
        ⟨{ world with state := { world.state with
            knownNodeIds := node.nodeId :: world.state.knownNodeIds } }, [],
          .launching (node :: remaining)⟩
  | launched {world frontier node remaining} (known : node.nodeId ∈ world.state.knownNodeIds)
      (fits : world.frontier.enqueue node = some frontier) :
      RunMove env permits ⟨world, [], .launching (node :: remaining)⟩
        ⟨{ world with frontier }, [], .launching remaining⟩
  | served {world mode} (ready : mode = .launching [] ∨ mode = .requeueing []) :
      RunMove env permits ⟨world, [], mode⟩ ⟨world, [], .serving⟩
  | epochTaken {world recovered replayNodes} :
      RunMove env permits ⟨world, [], .reopening recovered replayNodes⟩
        ⟨{ world with state := { world.state with
            executionEpoch := recovered.lastExecutionEpoch + 1 } }, [],
          .announcing recovered replayNodes⟩
  | announced {world next recovered replayNodes} (recorded : Recorded env
        (.stateChanged (.running world.state.executionEpoch)) world next) :
      RunMove env permits ⟨world, [], .announcing recovered replayNodes⟩
        ⟨next, [], .authorizing recovered replayNodes⟩
  | authorized {world next recovered replayNode replayNodes} (recorded : Recorded env
        (.nodeReplayAuthorized replayNode.node.nodeId replayNode.node.taskKindId) world next) :
      RunMove env permits ⟨world, [], .authorizing recovered (replayNode :: replayNodes)⟩
        ⟨next, [], .authorizing recovered replayNodes⟩
  | allAuthorized {world} {recovered : RecoveredRunStateV1} :
      RunMove env permits ⟨world, [], .authorizing recovered []⟩
        ⟨world, [], .requeueing recovered.nodes⟩
  | passedOver {world} {recovered : RecoveryNodeV1} {rest}
      (done : recovered.state ≠ .pending ∧ recovered.unresolved = false) :
      RunMove env permits ⟨world, [], .requeueing (recovered :: rest)⟩ ⟨world, [], .requeueing rest⟩
  | requeued {world frontier} {recovered : RecoveryNodeV1} {rest}
      (open_ : recovered.state = .pending ∨ recovered.unresolved = true)
      (fits : world.frontier.enqueue recovered.node = some frontier) :
      RunMove env permits ⟨world, [], .requeueing (recovered :: rest)⟩
        ⟨{ world with frontier }, [], .requeueing rest⟩
  | dequeued {world frontier slots entry} (fresh : ∀ slot ∈ slots, slot.2 = .chain .opening)
      (found : world.frontier.dequeue = some (entry.node, frontier))
      (task : env.taskKind entry.node.taskKindId = some entry.task)
      (capability : env.capability entry.node.capability = some entry.capability) :
      RunMove env permits ⟨world, slots, .serving⟩
        ⟨{ world with frontier }, slots ++ [(entry, .chain .opening)], .serving⟩
  | missing {world frontier slots node} (found : world.frontier.dequeue = some (node, frontier)) :
      RunMove env permits ⟨world, slots, .serving⟩
        ⟨{ world with frontier }, slots, .finishing (.stopped .taskFailed)⟩
  | dispatched {world slots} (fresh : ∀ slot ∈ slots, slot.2 = .chain .opening) :
      RunMove env permits ⟨world, slots, .serving⟩
        ⟨{ world with attemptOrder := AttemptOrderV1.initial, batchStop := none }, slots, .serving⟩
  | skipping {world entry slot slots stop} (failed : slot = .chain (.ended (.ok (.failed stop))) ∨
        ∃ items retained, slot = .chain (.ended (.ok (.ok items retained)))) :
      RunMove env permits ⟨world, (entry, slot) :: slots, .serving⟩
        ⟨{ world with state := { world.state with
            hadIndependentFailure := true
            summary := { world.state.summary with
              tasksFailed := world.state.summary.tasksFailed + 1 } } },
          (entry, .skipping stop slot.retained) :: slots, .serving⟩
  | skipped {world next entry stop retained slots} (recorded : Recorded env
        (.taskSkipped entry.node.nodeId entry.task.id stop) world next) :
      RunMove env permits ⟨world, (entry, .skipping stop retained) :: slots, .serving⟩
        ⟨{ next with state := { next.state with
            retainedFanoutItemBytes := next.state.retainedFanoutItemBytes - retained } },
          slots, .serving⟩
  | numbered {world ordinal slots} (grows : world.state.nextNodeOrdinal ≤ ordinal) :
      RunMove env permits ⟨world, slots, .serving⟩
        ⟨{ world with state := { world.state with nextNodeOrdinal := ordinal } }, slots, .serving⟩
  | expanded {world next entry items retained children slots}
      (expands : expandScrapeFanout env entry.task entry.node items world = .ok children next) :
      RunMove env permits
        ⟨world, (entry, .chain (.ended (.ok (.ok items retained)))) :: slots, .serving⟩
        ⟨next, (entry, .expanding children retained) :: slots, .serving⟩
  | repeated {world entry child children retained slots}
      (known : child.nodeId ∈ world.state.knownNodeIds) :
      RunMove env permits ⟨world, (entry, .expanding (child :: children) retained) :: slots, .serving⟩
        ⟨world, (entry, .expanding children retained) :: slots, .serving⟩
  | spooled {world entry child children retained slots}
      (unknown : child.nodeId ∉ world.state.knownNodeIds)
      (fits : world.frontier.canEnqueue child = true)
      (room : world.disk.spoolBytes + canonicalBytes (BlobContentV1.node child).value ≤
        env.policy.durable.maxDataSpoolBytes) :
      RunMove env permits ⟨world, (entry, .expanding (child :: children) retained) :: slots, .serving⟩
        ⟨world.spooled env (.node child), (entry, .enqueueing child
          (world.disk.nextReference env (.node child)) children retained) :: slots, .serving⟩
  | enqueued {world next frontier entry child nodeState children retained slots}
      (recorded : Recorded env (.nodeEnqueued child.nodeId (env.digestOf child.logicalKey.value)
        nodeState child.taskKindId child.rootOrdinal child.seedOrdinal child.depth
        child.outputOrdinal) world next)
      (fits : next.frontier.enqueue child = some frontier) :
      RunMove env permits
        ⟨world, (entry, .enqueueing child nodeState children retained) :: slots, .serving⟩
        ⟨{ next with frontier, state := { next.state with
            knownNodeIds := child.nodeId :: next.state.knownNodeIds } },
          (entry, .expanding children retained) :: slots, .serving⟩
  | completed {world next entry retained slots}
      (recorded : Recorded env (.nodeCompleted entry.node.nodeId) world next) :
      RunMove env permits ⟨world, (entry, .expanding [] retained) :: slots, .serving⟩
        ⟨{ next with state := { next.state with
            retainedFanoutItemBytes := next.state.retainedFanoutItemBytes - retained } },
          slots, .serving⟩
  | relinquished {world entry slot slots mode} (stopped : mode ≠ .serving) :
      RunMove env permits ⟨world, (entry, slot) :: slots, mode⟩
        ⟨{ world with state := { world.state with
            retainedFanoutItemBytes := world.state.retainedFanoutItemBytes - slot.retained } },
          slots, mode⟩
  | explained {world next slots nodeId taskKindId message} (recorded : RecordedEmergency env
        (.stopReason (some nodeId) (some taskKindId) .taskFailed message) world next) :
      RunMove env permits ⟨world, slots, .finishing (.stopped .taskFailed)⟩
        ⟨next, slots, .finishing (.stopped .taskFailed)⟩
  | stopped {world slots mode stop} (may : mode.stoppable = true) :
      RunMove env permits ⟨world, slots, mode⟩ ⟨world, slots, .finishing (.stopped stop)⟩
  | exhausted {world} (empty : world.frontier.nodes = [])
      (successful : world.state.hadIndependentFailure = false) :
      RunMove env permits ⟨world, [], .serving⟩ ⟨world, [], .finishing (.completed .sourceExhausted)⟩
  | reached {world entry stop slots} :
      RunMove env permits ⟨world, (entry, .chain (.ended (.ok (.completed stop)))) :: slots, .serving⟩
        ⟨world, (entry, .chain (.ended (.ok (.completed stop)))) :: slots,
          .finishing (.completed stop)⟩
  | closed {world sink slots mode} (ending : (∃ reason, mode = .finishing reason) ∨
        ∃ finalization, mode = .prepared finalization) (holds : world.sink = some sink) :
      RunMove env permits ⟨world, slots, mode⟩
        ⟨{ world with sink := some { sink with closed := true } }, slots, mode⟩
  | prepared {world next slots reason sink path format isPartial} (holds : world.sink = some sink)
      (names : (reason.descriptor env world.state.summary world.sink).output =
        .file path format isPartial)
      (recorded : RecordedEmergency env (.outputPrepared (env.sha256Digest (utf8 path))
        (env.sha256Digest sink.text) sink.text.length
        (reason.descriptor env world.state.summary world.sink)
        (env.digestOf (reason.descriptor env world.state.summary world.sink).value)) world next) :
      RunMove env permits ⟨world, slots, .finishing reason⟩
        ⟨next, slots, .prepared (World.finalization env sink
          (reason.descriptor env world.state.summary world.sink))⟩
  | published {world next slots} {finalization : OutputFinalizationV1}
      (recorded : RecordedEmergency env (.outputCommitted finalization.contentDigest
        finalization.byteLength finalization.terminalDescriptorDigest) world next) :
      RunMove env permits ⟨world, slots, .prepared finalization⟩
        ⟨next, slots, .published { finalization with committed := true }⟩
  | terminated {world next slots reason} (recorded : RecordedEmergency env
        (.terminal (reason.descriptor env world.state.summary none)
          (env.digestOf (reason.descriptor env world.state.summary none).value)) world next) :
      RunMove env permits ⟨world, slots, .finishing reason⟩
        ⟨next, slots, .ended (.ok (reason.result world.state.summary))⟩
  | publishedTerminal {world next slots result} {finalization : OutputFinalizationV1}
      (recorded : RecordedEmergency env (.terminal finalization.terminalDescriptor
        finalization.terminalDescriptorDigest) world next)
      (kind : result.kind = finalization.terminalDescriptor.resultKind)
      (stop : result.stop = finalization.terminalDescriptor.stop)
      (summary : result.summary = finalization.terminalDescriptor.summary) :
      RunMove env permits ⟨world, slots, .published finalization⟩ ⟨next, slots, .ended (.ok result)⟩
  | broken {world slots mode error} :
      RunMove env permits ⟨world, slots, mode⟩ ⟨world, slots, .ended (.error error)⟩
  | dropped {world slots outcome} :
      RunMove env permits ⟨world, slots, .ended outcome⟩ ⟨world, [], .ended outcome⟩

/-- Any number of elementary moves of a run. -/
abbrev RunMoves (env : RunEnvironment) (permits : TurnPermissionV1) : RunPointV1 → RunPointV1 → Prop :=
  Relation.ReflTransGen (RunMove env permits)

end Klura
