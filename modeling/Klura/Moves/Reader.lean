import Klura.Library.Check
import Klura.Run.Recovery

/-! What the journal's reader can make of one event, once it has accepted it. -/

namespace Klura

variable {env : RunEnvironment}

/-- Events that the reader passes over, apart from their epoch and their output preparation. -/
def JournalEventV1.passedOver : JournalEventV1 → Bool
  | .stateChanged _ | .outputPrepared .. | .outputCommitted .. | .stopReason .. | .interrupted _ =>
    true
  | _ => false

/-- One event that the reader accepts, with the checks it passes and what it changes. -/
inductive ReaderMove (env : RunEnvironment) (disk : Disk) (isFirst : Bool) (executionEpoch : Nat)
    (recovery : RecoveryStateV1) : JournalEventV1 → RecoveryStateV1 → Prop where
  | ended {descriptor digest} : ReaderMove env disk isFirst executionEpoch recovery
      (.terminal descriptor digest) { recovery with terminal := true }
  | cancelled {source} (unasked : recovery.cancellationRequested = false) :
      ReaderMove env disk isFirst executionEpoch recovery (.cancelRequested source)
        { recovery with cancellationRequested := true }
  | created {metaDigest initialNodes} (first : isFirst = true) :
      ReaderMove env disk isFirst executionEpoch recovery (.runCreated metaDigest initialNodes)
        recovery
  | enqueued {nodeState} {node : ScrapeNodeV1} (unknown : recovery.find node.nodeId = none)
      (fresh : node.outputOrdinal ∉ recovery.outputOrdinals)
      (read : readDurableNode env disk nodeState "run.node_state" = .ok node) :
      ReaderMove env disk isFirst executionEpoch recovery
        (.nodeEnqueued node.nodeId (env.digestOf node.logicalKey.value) nodeState node.taskKindId
          node.rootOrdinal node.seedOrdinal node.depth node.outputOrdinal)
        (recovery.enqueued nodeState node)
  | buffered {nodeId identityDigest data logicalOrder} {recovered : RecoveryNodeV1}
      (found : recovery.find nodeId = some recovered) (observed : recovered.state = .observed)
      (free : findBuffered recovery.bufferedItems logicalOrder = none)
      (ordinal : logicalOrder.nodeOrdinal = recovered.node.outputOrdinal) :
      ReaderMove env disk isFirst executionEpoch recovery
        (.itemBuffered nodeId identityDigest data logicalOrder)
        { recovery with
          bufferedItems := { data, nodeId, identityDigest, logicalOrder } :: recovery.bufferedItems
          references := data :: recovery.references }
  | committed {nodeId identityDigest logicalOrder itemSequence entry} {recovered : RecoveryNodeV1}
      (found : recovery.find nodeId = some recovered) (observed : recovered.state = .observed)
      (completed : recovered.taskCompletedForAttempt = true)
      (buffer : matchBuffered recovery.bufferedItems nodeId identityDigest logicalOrder = some entry)
      (fresh : identityDigest ∉ recovery.committedItemDigests)
      (next : itemSequence = recovery.committedItemSequence + 1)
      (after : breaksLogicalOrder recovery.lastCommittedItemOrder logicalOrder = false) :
      ReaderMove env disk isFirst executionEpoch recovery
        (.itemCommitted nodeId identityDigest logicalOrder itemSequence)
        { recovery with
          committedItemDigests := identityDigest :: recovery.committedItemDigests
          bufferedItems := dropBuffered recovery.bufferedItems logicalOrder
          summary := { recovery.summary with itemsEmitted := recovery.summary.itemsEmitted + 1 }
          lastCommittedItemOrder := some logicalOrder
          committedItemSequence := itemSequence }
  | duplicated {nodeId identityDigest logicalOrder entry} {recovered : RecoveryNodeV1}
      (found : recovery.find nodeId = some recovered) (observed : recovered.state = .observed)
      (completed : recovered.taskCompletedForAttempt = true)
      (buffer : matchBuffered recovery.bufferedItems nodeId identityDigest logicalOrder = some entry)
      (known : identityDigest ∈ recovery.committedItemDigests) :
      ReaderMove env disk isFirst executionEpoch recovery
        (.itemDuplicate nodeId identityDigest logicalOrder)
        { recovery with
          bufferedItems := dropBuffered recovery.bufferedItems logicalOrder
          summary := { recovery.summary with
            itemsDuplicate := recovery.summary.itemsDuplicate + 1 } }
  | sunk {throughItemSequence byteOffset prefixDigest}
      (reached : throughItemSequence ≤ recovery.committedItemSequence) :
      ReaderMove env disk isFirst executionEpoch recovery
        (.sinkCommitted throughItemSequence byteOffset prefixDigest)
        { recovery with lastSinkCommit := some { throughItemSequence, byteOffset, prefixDigest } }
  | progressed {nodeId nodeState} {recovered : RecoveryNodeV1} {node : ScrapeNodeV1}
      (found : recovery.find nodeId = some recovered) (observed : recovered.state = .observed)
      (completed : recovered.taskCompletedForAttempt = true)
      (read : readDurableNode env disk nodeState "run.node_progress" = .ok node)
      (same : node.nodeId = nodeId ∧ node.logicalKey = recovered.node.logicalKey ∧
        node.outputOrdinal = recovered.node.outputOrdinal) :
      ReaderMove env disk isFirst executionEpoch recovery (.nodeProgressed nodeId nodeState)
        { recovery.setNode nodeId { node, state := .pending, taskCompletedForAttempt := false } with
          references := nodeState :: recovery.references }
  | authorized {nodeId taskKindId} {recovered : RecoveryNodeV1} (resumed : 1 ≤ executionEpoch)
      (found : recovery.find nodeId = some recovered)
      (task : taskKindId = recovered.node.taskKindId) (unresolved : recovered.unresolved = true) :
      ReaderMove env disk isFirst executionEpoch recovery (.nodeReplayAuthorized nodeId taskKindId)
        (recovery.setNode nodeId
          { recovered with state := .pending, taskCompletedForAttempt := false })
  | intended {nodeId taskKindId} {recovered : RecoveryNodeV1}
      (found : recovery.find nodeId = some recovered)
      (task : taskKindId = recovered.node.taskKindId) (pending : recovered.state = .pending) :
      ReaderMove env disk isFirst executionEpoch recovery (.attemptIntent nodeId taskKindId)
        (recovery.setNode nodeId
          { recovered with state := .attempting, taskCompletedForAttempt := false })
  | observed {nodeId taskKindId resultKind attempts} {recovered : RecoveryNodeV1}
      (found : recovery.find nodeId = some recovered)
      (task : taskKindId = recovered.node.taskKindId) (attempting : recovered.state = .attempting) :
      ReaderMove env disk isFirst executionEpoch recovery
        (.attemptObserved nodeId taskKindId resultKind attempts)
        { recovery.setNode nodeId
            { recovered with state := .observed, taskCompletedForAttempt := false } with
          summary := { recovery.summary with
            targetRequests := recovery.summary.targetRequests + attempts } }
  | completed {nodeId taskKindId} {recovered : RecoveryNodeV1}
      (found : recovery.find nodeId = some recovered)
      (task : taskKindId = recovered.node.taskKindId) (observed : recovered.state = .observed)
      (open_ : recovered.taskCompletedForAttempt = false) :
      ReaderMove env disk isFirst executionEpoch recovery (.taskCompleted nodeId taskKindId)
        { recovery.setNode nodeId { recovered with taskCompletedForAttempt := true } with
          summary := { recovery.summary with
            tasksCompleted := recovery.summary.tasksCompleted + 1 } }
  | closed {nodeId} {recovered : RecoveryNodeV1} (found : recovery.find nodeId = some recovered)
      (observed : recovered.state = .observed)
      (completed : recovered.taskCompletedForAttempt = true) :
      ReaderMove env disk isFirst executionEpoch recovery (.nodeCompleted nodeId)
        (recovery.setNode nodeId { recovered with state := .completed })
  | skipped {nodeId taskKindId stop} {recovered : RecoveryNodeV1}
      (found : recovery.find nodeId = some recovered)
      (task : taskKindId = recovered.node.taskKindId)
      (open_ : recovered.state ≠ .completed ∧ recovered.state ≠ .skipped) :
      ReaderMove env disk isFirst executionEpoch recovery (.taskSkipped nodeId taskKindId stop)
        { recovery.setNode nodeId { recovered with state := .skipped } with
          summary := { recovery.summary with tasksFailed := recovery.summary.tasksFailed + 1 } }
  | passed {event} (finished : event.passedOver = true) :
      ReaderMove env disk isFirst executionEpoch recovery event recovery

section Event

variable {disk : Disk} {isFirst : Bool} {executionEpoch : Nat} {recovery : RecoveryStateV1}

theorem observedAttempt_passes (nodeId : RunNodeIdV1) (event : String) :
    Passes (observedAttempt recovery nodeId event) fun recovered =>
      recovery.find nodeId = some recovered ∧ recovered.state = .observed := by
  unfold observedAttempt
  split
  · exact Passes.error _
  · rename_i recovered found
    refine Passes.ite (fun _ => Passes.error _) fun observed => Passes.ok ⟨found, ?_⟩
    exact not_not.mp observed

theorem accountableAttempt_passes (nodeId : RunNodeIdV1) (event : String) :
    Passes (accountableAttempt recovery nodeId event) fun recovered =>
      recovery.find nodeId = some recovered ∧ recovered.state = .observed ∧
        recovered.taskCompletedForAttempt = true := by
  unfold accountableAttempt
  split
  · exact Passes.error _
  · rename_i recovered found
    refine Passes.ite (fun _ => Passes.error _) fun accountable => Passes.ok ⟨found, ?_⟩
    simpa using accountable

theorem lifecycleNode_passes (nodeId : RunNodeIdV1) :
    Passes (lifecycleNode recovery nodeId) fun recovered =>
      recovery.find nodeId = some recovered := by
  unfold lifecycleNode
  split
  · exact Passes.error _
  · rename_i recovered found
    exact Passes.ok found

theorem recoverEnqueuedNode_moves (nodeId : RunNodeIdV1) (keyDigest : Sha256DigestV1)
    (nodeState : BlobRefV1) (taskKindId : StableContractIdV1) (rootOrdinal : Nat)
    (seedOrdinal : Option Nat) (depth outputOrdinal : Nat) :
    Passes (recoverEnqueuedNode env disk recovery nodeId keyDigest nodeState taskKindId rootOrdinal
      seedOrdinal depth outputOrdinal) (ReaderMove env disk isFirst executionEpoch recovery
        (.nodeEnqueued nodeId keyDigest nodeState taskKindId rootOrdinal seedOrdinal depth
          outputOrdinal)) := by
  refine Passes.ite (fun _ => Passes.error _) fun unknown => ?_
  refine Passes.ite (fun _ => Passes.error _) fun fresh => ?_
  refine Passes.next fun node read => Passes.ite (fun _ => Passes.error _) fun same => Passes.ok ?_
  -- The event repeats what the durable node says, so the node stands for all of its fields.
  simp only [not_or, not_not] at same
  obtain ⟨rfl, rfl, rfl, rfl, rfl, rfl, rfl⟩ := same
  have unknown : recovery.find node.nodeId = none := by simpa using unknown
  exact .enqueued unknown fresh read

theorem recoverBufferedItem_moves (nodeId : RunNodeIdV1) (identityDigest : Sha256DigestV1)
    (data : BlobRefV1) (logicalOrder : ItemLogicalOrderV1) :
    Passes (recoverBufferedItem recovery nodeId identityDigest data logicalOrder)
      (ReaderMove env disk isFirst executionEpoch recovery
        (.itemBuffered nodeId identityDigest data logicalOrder)) := by
  refine Passes.bind _ (observedAttempt_passes nodeId _) fun recovered known => ?_
  obtain ⟨found, observed⟩ := known
  refine Passes.ite (fun _ => Passes.error _) fun free => ?_
  refine Passes.ite (fun _ => Passes.error _) fun ordinal => Passes.ok ?_
  exact .buffered found observed (by simpa using free) (not_not.mp ordinal)

theorem recoverCommittedItem_moves (nodeId : RunNodeIdV1) (identityDigest : Sha256DigestV1)
    (logicalOrder : ItemLogicalOrderV1) (itemSequence : Nat) :
    Passes (recoverCommittedItem recovery nodeId identityDigest logicalOrder itemSequence)
      (ReaderMove env disk isFirst executionEpoch recovery
        (.itemCommitted nodeId identityDigest logicalOrder itemSequence)) := by
  refine Passes.bind _ (accountableAttempt_passes nodeId _) fun recovered known => ?_
  obtain ⟨found, observed, completed⟩ := known
  refine Passes.ite (fun _ => Passes.error _) fun buffer => ?_
  refine Passes.ite (fun _ => Passes.error _) fun fresh => ?_
  refine Passes.ite (fun _ => Passes.error _) fun next => ?_
  refine Passes.ite (fun _ => Passes.error _) fun after => Passes.ok ?_
  obtain ⟨entry, buffer⟩ := Option.ne_none_iff_exists'.mp (by simpa using buffer)
  exact .committed found observed completed buffer fresh (not_not.mp next) (by simpa using after)

theorem recoverDuplicateItem_moves (nodeId : RunNodeIdV1) (identityDigest : Sha256DigestV1)
    (logicalOrder : ItemLogicalOrderV1) :
    Passes (recoverDuplicateItem recovery nodeId identityDigest logicalOrder)
      (ReaderMove env disk isFirst executionEpoch recovery
        (.itemDuplicate nodeId identityDigest logicalOrder)) := by
  refine Passes.bind _ (accountableAttempt_passes nodeId _) fun recovered known => ?_
  obtain ⟨found, observed, completed⟩ := known
  refine Passes.ite (fun _ => Passes.error _) fun buffer => ?_
  refine Passes.ite (fun _ => Passes.error _) fun committed => Passes.ok ?_
  obtain ⟨entry, buffer⟩ := Option.ne_none_iff_exists'.mp (by simpa using buffer)
  exact .duplicated found observed completed buffer (not_not.mp committed)

theorem advanceSinkCommit_moves (throughItemSequence byteOffset : Nat)
    (prefixDigest : Sha256DigestV1) :
    Passes (advanceSinkCommit recovery throughItemSequence byteOffset prefixDigest)
      (ReaderMove env disk isFirst executionEpoch recovery
        (.sinkCommitted throughItemSequence byteOffset prefixDigest)) := by
  refine Passes.ite (fun _ => Passes.error _) fun reached => ?_
  exact Passes.ite (fun _ => Passes.error _) fun _ => Passes.ok (.sunk (Nat.le_of_not_lt reached))

theorem recoverProgressedNode_moves (nodeId : RunNodeIdV1) (nodeState : BlobRefV1) :
    Passes (recoverProgressedNode env disk recovery nodeId nodeState)
      (ReaderMove env disk isFirst executionEpoch recovery (.nodeProgressed nodeId nodeState)) := by
  refine Passes.bind _ (accountableAttempt_passes nodeId _) fun recovered known => ?_
  obtain ⟨found, observed, completed⟩ := known
  refine Passes.next fun node read => Passes.ite (fun _ => Passes.error _) fun same => Passes.ok ?_
  simp only [not_or, not_not] at same
  exact .progressed found observed completed read same

theorem recoverReplayAuthorization_moves (nodeId : RunNodeIdV1)
    (taskKindId : StableContractIdV1) :
    Passes (recoverReplayAuthorization recovery executionEpoch nodeId taskKindId)
      (ReaderMove env disk isFirst executionEpoch recovery
        (.nodeReplayAuthorized nodeId taskKindId)) := by
  refine Passes.ite (fun _ => Passes.error _) fun resumed => ?_
  split
  · exact Passes.error _
  · rename_i recovered found
    refine Passes.ite (fun _ => Passes.error _) fun task => ?_
    refine Passes.ite (fun _ => Passes.error _) fun unresolved => Passes.ok ?_
    refine .authorized (Nat.le_of_not_lt resumed) found (not_not.mp task) ?_
    simp only [ne_eq, not_and_or, not_not] at unresolved
    exact decide_eq_true unresolved

theorem recoverIntent_moves (nodeId : RunNodeIdV1) (taskKindId : StableContractIdV1) :
    Passes (recoverLifecycleEvent recovery (.attemptIntent nodeId taskKindId))
      (ReaderMove env disk isFirst executionEpoch recovery (.attemptIntent nodeId taskKindId)) := by
  refine Passes.bind _ (lifecycleNode_passes _) fun recovered found => ?_
  refine Passes.ite (fun _ => Passes.error _) fun task => ?_
  refine Passes.ite (fun _ => Passes.error _) fun pending => Passes.ok ?_
  exact .intended found (not_not.mp task) (not_not.mp pending)

theorem recoverObservation_moves (nodeId : RunNodeIdV1) (taskKindId : StableContractIdV1)
    (resultKind : ResultKindV1) (attempts : Nat) :
    Passes (recoverLifecycleEvent recovery (.attemptObserved nodeId taskKindId resultKind attempts))
      (ReaderMove env disk isFirst executionEpoch recovery
        (.attemptObserved nodeId taskKindId resultKind attempts)) := by
  refine Passes.bind _ (lifecycleNode_passes _) fun recovered found => ?_
  refine Passes.ite (fun _ => Passes.error _) fun task => ?_
  refine Passes.ite (fun _ => Passes.error _) fun attempting => Passes.ok ?_
  exact .observed found (not_not.mp task) (not_not.mp attempting)

theorem recoverCompletion_moves (nodeId : RunNodeIdV1) (taskKindId : StableContractIdV1) :
    Passes (recoverLifecycleEvent recovery (.taskCompleted nodeId taskKindId))
      (ReaderMove env disk isFirst executionEpoch recovery (.taskCompleted nodeId taskKindId)) := by
  refine Passes.bind _ (lifecycleNode_passes _) fun recovered found => ?_
  refine Passes.ite (fun _ => Passes.error _) fun task => ?_
  refine Passes.ite (fun _ => Passes.error _) fun attempt => Passes.ok ?_
  simp only [not_or, not_not, Bool.not_eq_true] at attempt
  exact .completed found (not_not.mp task) attempt.1 attempt.2

theorem recoverClose_moves (nodeId : RunNodeIdV1) :
    Passes (recoverLifecycleEvent recovery (.nodeCompleted nodeId))
      (ReaderMove env disk isFirst executionEpoch recovery (.nodeCompleted nodeId)) := by
  refine Passes.next fun _ _ => ?_
  refine Passes.bind _ (accountableAttempt_passes _ _) fun recovered known => Passes.ok ?_
  exact .closed known.1 known.2.1 known.2.2

theorem recoverSkip_moves (nodeId : RunNodeIdV1) (taskKindId : StableContractIdV1)
    (stop : RunStopV1) :
    Passes (recoverLifecycleEvent recovery (.taskSkipped nodeId taskKindId stop))
      (ReaderMove env disk isFirst executionEpoch recovery
        (.taskSkipped nodeId taskKindId stop)) := by
  refine Passes.bind _ (lifecycleNode_passes _) fun recovered found => ?_
  refine Passes.ite (fun _ => Passes.error _) fun task => ?_
  refine Passes.ite (fun _ => Passes.error _) fun open_ => Passes.ok ?_
  exact .skipped found (not_not.mp task) (not_or.mp open_)

theorem recoverEvent_moves (event : JournalEventV1) :
    Passes (recoverEvent env disk recovery isFirst executionEpoch event)
      (ReaderMove env disk isFirst executionEpoch recovery event) := by
  cases event with
  | terminal descriptor digest => exact Passes.ok .ended
  | cancelRequested source =>
    refine Passes.ite (fun _ => Passes.error _) fun unasked => Passes.ok ?_
    exact .cancelled (Bool.eq_false_of_not_eq_true unasked)
  | runCreated metaDigest initialNodes =>
    exact Passes.ite (fun first => Passes.ok (.created first)) fun _ => Passes.error _
  | nodeEnqueued => exact recoverEnqueuedNode_moves _ _ _ _ _ _ _ _
  | itemBuffered => exact recoverBufferedItem_moves _ _ _ _
  | itemCommitted => exact recoverCommittedItem_moves _ _ _ _
  | itemDuplicate => exact recoverDuplicateItem_moves _ _ _
  | sinkCommitted => exact advanceSinkCommit_moves _ _ _
  | nodeProgressed => exact recoverProgressedNode_moves _ _
  | nodeReplayAuthorized => exact recoverReplayAuthorization_moves _ _
  | attemptIntent nodeId taskKindId => exact recoverIntent_moves nodeId taskKindId
  | attemptObserved nodeId taskKindId resultKind attempts =>
    exact recoverObservation_moves nodeId taskKindId resultKind attempts
  | taskCompleted nodeId taskKindId => exact recoverCompletion_moves nodeId taskKindId
  | nodeCompleted nodeId => exact recoverClose_moves nodeId
  | taskSkipped nodeId taskKindId stop => exact recoverSkip_moves nodeId taskKindId stop
  | stateChanged | outputPrepared | outputCommitted | stopReason | interrupted =>
    -- The reader's loop goes past these events to the next frame.
    exact Passes.ok (.passed rfl)

/-- The reader with the epoch and the output preparation it has advanced to. -/
def RecoveryStateV1.advanced (recovery : RecoveryStateV1) (executionEpoch : Nat)
    (outputFinalization : Option OutputFinalizationV1) : RecoveryStateV1 :=
  { recovery with executionEpoch, outputFinalization }

theorem recoverFrame_moves (body : JournalFrameBodyV1) :
    Passes (recoverFrame env disk recovery isFirst body) fun next =>
      recovery.terminal = false ∧ ∃ epoch finalization,
        advanceExecutionEpoch body recovery.executionEpoch = .ok epoch ∧
        advanceOutputFinalization env recovery.outputFinalization body.event = .ok finalization ∧
        ReaderMove env disk isFirst body.executionEpoch (recovery.advanced epoch finalization)
          body.event next := by
  refine Passes.next fun epoch advances => Passes.next fun finalization prepares => ?_
  refine Passes.ite (fun _ => Passes.error _) fun open_ => ?_
  refine Passes.mono (recoverEvent_moves body.event) fun next moves => ?_
  exact ⟨Bool.eq_false_of_not_eq_true open_, epoch, finalization, advances, prepares, moves⟩

end Event

theorem recoverInitialNode_passes (disk : Disk) (recovery : RecoveryStateV1) (index : Nat)
    (reference : BlobRefV1) :
    Passes (recoverInitialNode env disk recovery index reference) fun next =>
      ∃ node, readDurableNode env disk reference s!"run.initial_nodes[{index}]" = .ok node ∧
        node.depth = 0 ∧ node.outputOrdinal = index ∧
        node.logicalKey = .root node.rootOrdinal node.seedOrdinal ∧
        recovery.find node.nodeId = none ∧ node.outputOrdinal ∉ recovery.outputOrdinals ∧
        next = recovery.enqueued reference node := by
  refine Passes.next fun node read => Passes.ite (fun _ => Passes.error _) fun position => ?_
  refine Passes.ite (fun _ => Passes.error _) fun key => ?_
  refine Passes.ite (fun _ => Passes.error _) fun fresh => Passes.ok ?_
  simp only [not_or, not_not] at position fresh
  refine ⟨node, read, position.1, position.2, not_not.mp key, ?_, fresh.2, rfl⟩
  simpa using fresh.1

theorem ReaderMove.references {disk : Disk} {recovery next : RecoveryStateV1} {isFirst : Bool}
    {executionEpoch : Nat} {event : JournalEventV1}
    (moves : ReaderMove env disk isFirst executionEpoch recovery event next) :
    recovery.references ⊆ next.references := by
  cases moves with
  | enqueued | buffered | progressed => exact List.subset_cons_self _ _
  | _ => exact List.Subset.refl _

/-! What the reader keeps over a whole journal. -/

section Journal

variable {disk : Disk}

/-- What the initial nodes establish and every accepted frame keeps, an accepted journal has. -/
theorem recoverFrames_induct {property : RecoveryStateV1 → List JournalFrameV1 → Prop}
    (first : ∀ frame metaDigest initialNodes recovery epoch finalization,
      frame.body.event = .runCreated metaDigest initialNodes →
      recoverInitialNodes env disk .initial 0 (initialNodes.getD []) = .ok recovery →
      advanceOutputFinalization env recovery.outputFinalization frame.body.event =
        .ok finalization → property (recovery.advanced epoch finalization) [frame])
    (step : ∀ recovery frame older epoch finalization next, property recovery older →
      recovery.terminal = false →
      advanceOutputFinalization env recovery.outputFinalization frame.body.event =
        .ok finalization →
      ReaderMove env disk false frame.body.executionEpoch (recovery.advanced epoch finalization)
        frame.body.event next → property next (frame :: older))
    (frames : List JournalFrameV1) :
    Passes (recoverFrames env disk frames) fun recovery => property recovery frames := by
  -- The induction follows the frames from the oldest one on.
  induction frames with
  | nil => exact Passes.error _
  | cons frame older ih =>
    cases older with
    | nil =>
      refine Passes.next fun recovery begins => ?_
      refine Passes.mono (recoverFrame_moves frame.body) fun next accepted => ?_
      obtain ⟨_, epoch, finalization, _, prepares, moves⟩ := accepted
      unfold recoverFirstFrame at begins
      split at begins
      · rename_i metaDigest initialNodes created
        split at begins
        · cases begins
        · rw [created] at moves
          cases moves with
          | created => exact first _ _ _ _ _ _ created begins prepares
          | passed finished => cases finished
      · cases begins
    | cons second oldest =>
      refine Passes.bind _ ih fun recovery held => ?_
      refine Passes.mono (recoverFrame_moves frame.body) fun next accepted => ?_
      obtain ⟨running, epoch, finalization, _, prepares, moves⟩ := accepted
      exact step recovery frame _ epoch finalization next held running prepares moves

/-- What a recovery reports is what its reader has come to over the whole journal. -/
structure RecoveredRunStateV1.Reads (env : RunEnvironment) (disk : Disk)
    (recovered : RecoveredRunStateV1) (recovery : RecoveryStateV1) : Prop where
  frames : recoverFrames env disk disk.frames = .ok recovery
  spool : validateSpoolPrefix disk recovery.references = .ok recovered.spoolPrefix
  nodes : recovered.nodes = recovery.nodes
  terminal : recovered.terminal = recovery.terminal
  finalization : recovered.outputFinalization = recovery.outputFinalization
  resume : recovered.resume = deriveResumeEligibility recovery.terminal
    recovery.cancellationRequested (!recovery.terminal && journalEndsInterrupted disk.frames)
    (recovery.nodes.any RecoveryNodeV1.unresolved)

theorem recoverRunState_reads :
    Passes (recoverRunState env disk) fun recovered =>
      ∃ recovery, recovered.Reads env disk recovery := by
  refine Passes.mapError _ (Passes.next fun recovery recovers => ?_)
  exact Passes.next fun spoolPrefix validates =>
    Passes.ok ⟨recovery, recovers, validates, rfl, rfl, rfl, rfl⟩

theorem validateSpoolPrefix_within (references : List BlobRefV1) :
    Passes (validateSpoolPrefix disk references) fun spoolPrefix =>
      ∀ reference ∈ references, reference.offset + reference.length ≤ spoolPrefix := by
  -- Each reference ends where the next one begins, so none ends behind the newest.
  induction references with
  | nil => exact Passes.ok fun _ member => absurd member List.not_mem_nil
  | cons newest older ih =>
    refine Passes.bind _ ih fun expected within => ?_
    refine Passes.ite (fun _ => Passes.error _) fun contiguous => ?_
    refine Passes.next fun _ _ => Passes.ok fun reference member => ?_
    rcases List.mem_cons.mp member with same | member
    · rw [same]
      omega
    · have ends := within reference member
      omega

end Journal

end Klura
