import Klura.Moves.Spool

/-! The nodes that a journal makes known and closes, and what its reader makes of them. -/

namespace Klura

variable {env : RunEnvironment} {permits : TurnPermissionV1}

/-- The references of the nodes that an event makes known: it enqueues one of them, or creates its
run with them. -/
def JournalEventV1.nodeReferences : JournalEventV1 → List BlobRefV1
  | .runCreated _ (some references) => references
  | .nodeEnqueued _ _ nodeState _ _ _ _ _ => [nodeState]
  | _ => []

/-- An event makes a node known. -/
def JournalEventV1.Creates (blobs : Blobs) (node : ScrapeNodeV1) (event : JournalEventV1) : Prop :=
  ∃ reference ∈ event.nodeReferences, (BlobContentV1.node node, reference) ∈ blobs

/-- A journal has made a node known. -/
def Created (disk : Disk) (node : ScrapeNodeV1) : Prop :=
  ∃ frame ∈ disk.frames, frame.body.event.Creates disk.blobs node

theorem nodeReferences_subset (event : JournalEventV1) :
    event.nodeReferences ⊆ event.references := by
  cases event with
  | runCreated metaDigest initialNodes => cases initialNodes <;> exact List.Subset.refl _
  | nodeEnqueued => exact List.Subset.refl _
  | _ => exact List.nil_subset _

/-- The node that an event closes. -/
def JournalEventV1.closedNode : JournalEventV1 → Option RunNodeIdV1
  | .nodeCompleted nodeId => some nodeId
  | .taskSkipped nodeId _ _ => some nodeId
  | _ => none

/-- A journal has closed a node. -/
def Closed (frames : List JournalFrameV1) (nodeId : RunNodeIdV1) : Prop :=
  ∃ frame ∈ frames, frame.body.event.closedNode = some nodeId

/-- Whether an event skips a task. -/
def JournalEventV1.skips : JournalEventV1 → Bool
  | .taskSkipped .. => true
  | _ => false

/-- No task of a journal was skipped. -/
def Unskipped (frames : List JournalFrameV1) : Prop :=
  ∀ frame ∈ frames, frame.body.event.skips = false

/-- An event that is part of the work on nodes that are known and open. -/
def JournalEventV1.works : JournalEventV1 → Bool
  | .runCreated .. | .nodeEnqueued .. | .nodeCompleted _ | .taskSkipped .. | .outputPrepared ..
  | .terminal .. | .interrupted _ | .stateChanged _ => false
  | _ => true

/-- At most one write, of a value or of a frame that is part of the work on known nodes. -/
inductive WorksOn (env : RunEnvironment) (disk next : Disk) : Prop where
  | kept (same : next = disk)
  | spooled (content : BlobContentV1)
      (writes : next = .blob content (disk.nextReference env content) :: disk)
  | framed (frame : JournalFrameV1) (works : frame.body.event.works = true)
      (writes : next = .frame frame :: disk)

variable {event : JournalEventV1} {world : World}

theorem Recorded.worksOn {next : World} (recorded : Recorded env event world next)
    (works : event.works = true) :
    WorksOn env world.disk next.disk := by
  obtain ⟨frame, carries, writes⟩ := recorded.write
  exact .framed frame (by rw [carries]; exact works) writes

theorem RecordedEmergency.worksOn {next : World} (recorded : RecordedEmergency env event world next)
    (works : event.works = true) :
    WorksOn env world.disk next.disk := by
  obtain ⟨frame, carries, writes⟩ := recorded.write
  exact .framed frame (by rw [carries]; exact works) writes

variable {entry : BatchEntryV1}

theorem ChainMove.worksOn {next : World} {stage after : StageV1}
    (moves : ChainMove env entry permits (world, stage) (next, after)) :
    WorksOn env world.disk next.disk := by
  cases moves with
  | quiet quiet => exact .kept quiet.disk
  | limitless recorded => exact recorded.worksOn rfl
  | intended may recorded => exact recorded.worksOn rfl
  | observed recorded => exact recorded.worksOn rfl
  | spooled live emits data may => exact .spooled _ rfl
  | buffered recorded => exact (recorded.worksOn rfl :)
  | completed recorded => exact (recorded.worksOn rfl :)
  | duplicated known recorded => exact (recorded.worksOn rfl :)
  | committed fresh room capacity recorded => exact (recorded.worksOn rfl :)
  | sunk holds recorded => exact (recorded.worksOn rfl :)
  | continued fresh canonical next room => exact .spooled _ rfl
  | progressed recorded => exact recorded.worksOn rfl
  | explained may recorded => exact (recorded.worksOn rfl :)
  | left releases => exact .kept (World.left_disk _ _ _)
  | stranded holds => exact .kept (World.left_disk _ _ _)
  | _ => exact .kept rfl

/-- What the service alone decides about the nodes of a run. -/
structure SameService (world next : World) : Prop where
  frontier : next.frontier = world.frontier
  known : next.state.knownNodeIds = world.state.knownNodeIds
  ordinal : next.state.nextNodeOrdinal = world.state.nextNodeOrdinal
  failure : next.state.hadIndependentFailure = world.state.hadIndependentFailure

theorem Quiet.service {next : World} (quiet : Quiet world next) : SameService world next := by
  obtain ⟨_, _, _, _, _, rfl⟩ := quiet
  exact ⟨rfl, rfl, rfl, rfl⟩

theorem Recorded.service {next : World} (recorded : Recorded env event world next) :
    SameService world next := by
  obtain ⟨_, _, _, rfl⟩ := recorded
  exact ⟨rfl, rfl, rfl, rfl⟩

theorem RecordedEmergency.service {next : World} (recorded : RecordedEmergency env event world next) :
    SameService world next := by
  obtain ⟨_, _, rfl⟩ := recorded
  exact ⟨rfl, rfl, rfl, rfl⟩

theorem World.left_service (world : World) (chain : TaskChainV1) (outcome : ChainOutcomeV1)
    (order : AttemptOrderV1) :
    SameService world { world.left chain outcome with attemptOrder := order } := by
  unfold World.left
  split <;> exact ⟨rfl, rfl, rfl, rfl⟩

theorem ChainMove.service {next : World} {stage after : StageV1}
    (moves : ChainMove env entry permits (world, stage) (next, after)) :
    SameService world next := by
  cases moves with
  | quiet quiet => exact quiet.service
  | limitless recorded => exact recorded.service
  | intended may recorded => exact recorded.service
  | observed recorded => exact recorded.service
  | buffered recorded => exact { (recorded.service :) with }
  | completed recorded => exact { (recorded.service :) with }
  | duplicated known recorded => exact { (recorded.service :) with }
  | committed fresh room capacity recorded => exact { (recorded.service :) with }
  | sunk holds recorded => exact { (recorded.service :) with }
  | progressed recorded => exact recorded.service
  | explained may recorded => exact { (recorded.service :) with }
  | left releases => exact World.left_service _ _ _ _
  | stranded holds => exact World.left_service _ _ _ _
  | _ => exact ⟨rfl, rfl, rfl, rfl⟩

/-! What one more write does to the known and the closed nodes. -/

variable {frame : JournalFrameV1}

theorem journalEndsInterrupted_other (older : List JournalFrameV1)
    (going : ∀ reason, frame.body.event ≠ .interrupted reason)
    (unchanged : ∀ state, frame.body.event ≠ .stateChanged state) :
    journalEndsInterrupted (frame :: older) = journalEndsInterrupted older := by
  rw [journalEndsInterrupted]
  cases event : frame.body.event with
  | interrupted reason => exact absurd event (going reason)
  | stateChanged state => exact absurd event (unchanged state)
  | _ => rfl

theorem journalEndsInterrupted_works (older : List JournalFrameV1)
    (works : frame.body.event.works = true) :
    journalEndsInterrupted (frame :: older) = journalEndsInterrupted older := by
  apply journalEndsInterrupted_other older
  · intro reason event
    rw [event] at works
    cases works
  · intro state event
    rw [event] at works
    cases works

theorem Created.spooled {disk : Disk} (sound : SpoolSound env disk) (content : BlobContentV1)
    (node : ScrapeNodeV1) :
    Created (.blob content (disk.nextReference env content) :: disk) node ↔
      Created disk node := by
  have begins : spoolLayout.offset (disk.nextReference env content) =
      spoolLayout.fileEnd disk.blobs := disk.spoolBytes_eq
  refine ⟨fun created => ?_, fun created => ?_⟩
  · obtain ⟨frame, inside, reference, refers, member⟩ := created
    have inside : frame ∈ disk.frames := inside
    refine ⟨frame, inside, reference, refers, ?_⟩
    rcases List.mem_cons.mp member with newest | member
    · -- The frame's references were spooled before the frame, so none of them is the new one.
      obtain ⟨held, stored⟩ := (sound.backed frame inside).held (nodeReferences_subset _ refers)
      have ends := sound.segmented.within stored
      rw [(Prod.mk.inj newest).2] at ends
      unfold SegmentLayout.stop at ends
      dsimp only at ends
      omega
    · exact member
  · obtain ⟨frame, inside, reference, refers, member⟩ := created
    exact ⟨frame, inside, reference, refers, List.mem_cons_of_mem _ member⟩

variable {node : ScrapeNodeV1}

theorem Created.framed {disk : Disk} :
    Created (.frame frame :: disk) node ↔
      frame.body.event.Creates disk.blobs node ∨ Created disk node := by
  have frames : Disk.frames (.frame frame :: disk) = frame :: disk.frames := rfl
  have blobs : Disk.blobs (.frame frame :: disk) = disk.blobs := rfl
  unfold Created
  rw [frames, blobs]
  simp only [List.mem_cons, exists_eq_or_imp]

variable {older : List JournalFrameV1}

theorem Closed.framed {nodeId : RunNodeIdV1} :
    Closed (frame :: older) nodeId ↔
      frame.body.event.closedNode = some nodeId ∨ Closed older nodeId := by
  unfold Closed
  simp only [List.mem_cons, exists_eq_or_imp]

theorem Unskipped.framed :
    Unskipped (frame :: older) ↔ frame.body.event.skips = false ∧ Unskipped older := by
  unfold Unskipped
  exact List.forall_mem_cons

/-- What a journal says about its nodes, as two disks have it in common. -/
structure SameNodes (disk next : Disk) : Prop where
  created : ∀ node, Created next node ↔ Created disk node
  closed : ∀ nodeId, Closed next.frames nodeId ↔ Closed disk.frames nodeId
  unskipped : Unskipped next.frames ↔ Unskipped disk.frames

theorem SameNodes.refl (disk : Disk) : SameNodes disk disk :=
  ⟨fun _ => Iff.rfl, fun _ => Iff.rfl, Iff.rfl⟩

theorem SameNodes.framed (disk : Disk) (creates : frame.body.event.nodeReferences = [])
    (closes : frame.body.event.closedNode = none) (skips : frame.body.event.skips = false) :
    SameNodes disk (.frame frame :: disk) := by
  have frames : Disk.frames (.frame frame :: disk) = frame :: disk.frames := rfl
  refine ⟨fun node => ?_, fun nodeId => ?_, ?_⟩
  · rw [Created.framed]
    apply or_iff_right
    intro made
    obtain ⟨reference, refers, _⟩ := made
    rw [creates] at refers
    exact absurd refers List.not_mem_nil
  · rw [frames, Closed.framed, closes]
    exact or_iff_right (by nofun)
  · rw [frames, Unskipped.framed]
    exact and_iff_right skips

theorem SameNodes.spooled {disk : Disk} (sound : SpoolSound env disk) (content : BlobContentV1) :
    SameNodes disk (.blob content (disk.nextReference env content) :: disk) :=
  ⟨Created.spooled sound content, fun _ => Iff.rfl, Iff.rfl⟩

theorem works_quiet (works : event.works = true) :
    event.nodeReferences = [] ∧ event.closedNode = none ∧ event.skips = false := by
  cases event with
  | runCreated | nodeEnqueued | nodeCompleted | taskSkipped => cases works
  | _ => exact ⟨rfl, rfl, rfl⟩

theorem WorksOn.sameNodes {disk next : Disk} (sound : SpoolSound env disk)
    (works : WorksOn env disk next) : SameNodes disk next := by
  cases works with
  | kept same =>
    rw [same]
    exact SameNodes.refl disk
  | spooled content writes =>
    rw [writes]
    exact SameNodes.spooled sound content
  | framed frame works writes =>
    rw [writes]
    obtain ⟨creates, closes, skips⟩ := works_quiet works
    exact SameNodes.framed disk creates closes skips

theorem WorksOn.interrupted {disk next : Disk} (works : WorksOn env disk next) :
    journalEndsInterrupted next.frames = journalEndsInterrupted disk.frames := by
  cases works with
  | kept same => rw [same]
  | spooled content writes =>
    rw [writes]
    rfl
  | framed frame works writes =>
    rw [writes]
    exact journalEndsInterrupted_works _ works

/-! What the reader makes of the nodes. -/

/-- Whether a recovered node is done with. -/
def RecoveryNodeV1.done (recovered : RecoveryNodeV1) : Bool :=
  decide (recovered.state = .completed ∨ recovered.state = .skipped)

/-- The result that an event prepares. -/
def JournalEventV1.prepares : JournalEventV1 → Option TerminalResultDescriptorV1
  | .outputPrepared _ _ _ descriptor _ => some descriptor
  | _ => none

/-- What the reader has made of a journal's nodes. -/
structure NodesRead (disk : Disk) (recovery : RecoveryStateV1) (frames : List JournalFrameV1) :
    Prop where
  distinct : (recovery.nodes.map fun recovered => recovered.node.nodeId).Nodup
  created : ∀ recovered ∈ recovery.nodes, ∃ node : ScrapeNodeV1,
    (∃ frame ∈ frames, frame.body.event.Creates disk.blobs node) ∧
      node.nodeId = recovered.node.nodeId ∧ node.outputOrdinal = recovered.node.outputOrdinal
  known : ∀ frame ∈ frames, ∀ node, frame.body.event.Creates disk.blobs node →
    ∃ recovered ∈ recovery.nodes, recovered.node.nodeId = node.nodeId ∧
      recovered.node.outputOrdinal = node.outputOrdinal
  closed : ∀ recovered ∈ recovery.nodes, recovered.done = true →
    Closed frames recovered.node.nodeId
  completed : ∀ frame ∈ frames, ∀ nodeId, frame.body.event = .nodeCompleted nodeId →
    ∃ recovered ∈ recovery.nodes, recovered.node.nodeId = nodeId ∧ recovered.state = .completed

section Reader

variable {disk : Disk} {recovery next : RecoveryStateV1} {nodeId : RunNodeIdV1}
  {recovered replacement : RecoveryNodeV1} {frame : JournalFrameV1} {older : List JournalFrameV1}

theorem RecoveryStateV1.find_member (found : recovery.find nodeId = some recovered) :
    recovered ∈ recovery.nodes ∧ recovered.node.nodeId = nodeId :=
  ⟨List.mem_of_find?_eq_some found, by simpa using List.find?_some found⟩

theorem RecoveryStateV1.find_none (unknown : recovery.find nodeId = none) :
    ∀ recovered ∈ recovery.nodes, recovered.node.nodeId ≠ nodeId := by
  intro recovered member
  simpa using List.find?_eq_none.mp unknown recovered member

theorem NodesRead.only (read : NodesRead disk recovery older) {left right : RecoveryNodeV1}
    (leftMember : left ∈ recovery.nodes) (rightMember : right ∈ recovery.nodes)
    (same : left.node.nodeId = right.node.nodeId) : left = right :=
  List.inj_on_of_nodup_map read.distinct leftMember rightMember same

theorem setNode_ids (named : replacement.node.nodeId = nodeId) :
    (recovery.setNode nodeId replacement).nodes.map (fun recovered => recovered.node.nodeId) =
      recovery.nodes.map fun recovered => recovered.node.nodeId := by
  unfold RecoveryStateV1.setNode
  rw [List.map_map]
  refine List.map_congr_left fun old _ => ?_
  dsimp only [Function.comp]
  by_cases same : old.node.nodeId = nodeId
  · rw [if_pos same]
    exact named.trans same.symm
  · rw [if_neg same]

theorem setNode_member {other : RecoveryNodeV1}
    (member : other ∈ (recovery.setNode nodeId replacement).nodes) :
    (other ∈ recovery.nodes ∧ other.node.nodeId ≠ nodeId) ∨ other = replacement := by
  obtain ⟨old, inside, same⟩ := List.mem_map.mp member
  by_cases named : old.node.nodeId = nodeId
  · rw [if_pos named] at same
    exact .inr same.symm
  · rw [if_neg named] at same
    rw [← same]
    exact .inl ⟨inside, named⟩

theorem NodesRead.same (read : NodesRead disk recovery older) (nodes : next.nodes = recovery.nodes)
    (creates : frame.body.event.nodeReferences = [])
    (completes : ∀ nodeId, frame.body.event ≠ .nodeCompleted nodeId) :
    NodesRead disk next (frame :: older) where
  distinct := by rw [nodes]; exact read.distinct
  created := fun recovered member => by
    rw [nodes] at member
    obtain ⟨node, ⟨by_, inside, creates⟩, same⟩ := read.created recovered member
    exact ⟨node, ⟨by_, List.mem_cons_of_mem _ inside, creates⟩, same⟩
  known := fun other member node made => by
    rw [nodes]
    rcases List.mem_cons.mp member with same | inside
    · obtain ⟨reference, refers, _⟩ := made
      rw [same, creates] at refers
      exact absurd refers List.not_mem_nil
    · exact read.known other inside node made
  closed := fun recovered member done => by
    rw [nodes] at member
    exact Closed.framed.mpr (.inr (read.closed recovered member done))
  completed := fun other member nodeId event => by
    rw [nodes]
    rcases List.mem_cons.mp member with same | older
    · rw [same] at event
      exact absurd event (completes nodeId)
    · exact read.completed other older nodeId event

/-- A frame that takes one open node on replaces it. -/
theorem NodesRead.replace (read : NodesRead disk recovery older)
    (found : recovery.find nodeId = some recovered)
    (nodes : next.nodes = (recovery.setNode nodeId replacement).nodes)
    (named : replacement.node.nodeId = nodeId)
    (ordinal : replacement.node.outputOrdinal = recovered.node.outputOrdinal)
    (creates : frame.body.event.nodeReferences = [])
    (opened : recovered.state ≠ .completed)
    (closes : replacement.done = true → frame.body.event.closedNode = some nodeId)
    (completes : ∀ other, frame.body.event = .nodeCompleted other →
      other = nodeId ∧ replacement.state = .completed) :
    NodesRead disk next (frame :: older) where
  distinct := by rw [nodes, setNode_ids named]; exact read.distinct
  created := fun other member => by
    rw [nodes] at member
    have earlier : ∃ old ∈ recovery.nodes, old.node.nodeId = other.node.nodeId ∧
        old.node.outputOrdinal = other.node.outputOrdinal := by
      rcases setNode_member member with ⟨inside, _⟩ | rfl
      · exact ⟨other, inside, rfl, rfl⟩
      · obtain ⟨inside, same⟩ := RecoveryStateV1.find_member found
        exact ⟨recovered, inside, same.trans named.symm, ordinal.symm⟩
    obtain ⟨old, inside, sameId, sameOrdinal⟩ := earlier
    obtain ⟨node, ⟨by_, framed, creates⟩, nodeId, nodeOrdinal⟩ := read.created old inside
    exact ⟨node, ⟨by_, List.mem_cons_of_mem _ framed, creates⟩, nodeId.trans sameId,
      nodeOrdinal.trans sameOrdinal⟩
  known := fun other member node made => by
    have earlier : ∃ old ∈ recovery.nodes, old.node.nodeId = node.nodeId ∧
        old.node.outputOrdinal = node.outputOrdinal := by
      rcases List.mem_cons.mp member with same | inside
      · obtain ⟨reference, refers, _⟩ := made
        rw [same, creates] at refers
        exact absurd refers List.not_mem_nil
      · exact read.known other inside node made
    obtain ⟨old, inside, sameId, sameOrdinal⟩ := earlier
    rw [nodes]
    refine ⟨_, List.mem_map.mpr ⟨old, inside, rfl⟩, ?_⟩
    by_cases replaced : old.node.nodeId = nodeId
    · obtain ⟨member, foundId⟩ := RecoveryStateV1.find_member found
      have same : old = recovered := read.only inside member (replaced.trans foundId.symm)
      rw [if_pos replaced]
      rw [same] at sameId sameOrdinal
      exact ⟨(named.trans foundId.symm).trans sameId, ordinal.trans sameOrdinal⟩
    · rw [if_neg replaced]
      exact ⟨sameId, sameOrdinal⟩
  closed := fun other member done => by
    rw [nodes] at member
    rcases setNode_member member with ⟨inside, _⟩ | rfl
    · exact Closed.framed.mpr (.inr (read.closed other inside done))
    · exact Closed.framed.mpr (.inl (by rw [closes done, named]))
  completed := fun other member completedId event => by
    obtain ⟨known, foundId⟩ := RecoveryStateV1.find_member found
    rw [nodes]
    rcases List.mem_cons.mp member with newest | earlier
    · rw [newest] at event
      obtain ⟨rfl, state⟩ := completes completedId event
      refine ⟨replacement, List.mem_map.mpr ⟨recovered, known, if_pos foundId⟩, named, state⟩
    · obtain ⟨old, inside, same, state⟩ := read.completed other earlier completedId event
      -- A node that was completed before is not one that the reader takes on.
      have different : old.node.nodeId ≠ nodeId := by
        intro replaced
        rw [read.only inside known (replaced.trans foundId.symm)] at state
        exact opened state
      exact ⟨old, List.mem_map.mpr ⟨old, inside, if_neg different⟩, same, state⟩

variable {node : ScrapeNodeV1} {reference : BlobRefV1}

/-- A frame that enqueues an unknown node adds it. -/
theorem NodesRead.enqueue (read : NodesRead disk recovery older)
    (unknown : recovery.find node.nodeId = none)
    (nodes : next.nodes = (recovery.enqueued reference node).nodes)
    (creates : ∀ other, frame.body.event.Creates disk.blobs other ↔ other = node)
    (completes : ∀ nodeId, frame.body.event ≠ .nodeCompleted nodeId) :
    NodesRead disk next (frame :: older) where
  distinct := by
    rw [nodes]
    unfold RecoveryStateV1.enqueued
    rw [List.map_append, List.nodup_append]
    refine ⟨read.distinct, List.nodup_singleton _, fun left inside right fresh => ?_⟩
    obtain ⟨old, member, rfl⟩ := List.mem_map.mp inside
    rw [List.mem_singleton.mp fresh]
    exact RecoveryStateV1.find_none unknown old member
  created := fun other member => by
    rw [nodes] at member
    rcases List.mem_append.mp member with inside | fresh
    · obtain ⟨made, ⟨by_, framed, creates⟩, same⟩ := read.created other inside
      exact ⟨made, ⟨by_, List.mem_cons_of_mem _ framed, creates⟩, same⟩
    · rw [List.mem_singleton.mp fresh]
      exact ⟨node, ⟨frame, List.mem_cons_self, (creates node).mpr rfl⟩, rfl, rfl⟩
  known := fun other member made creates' => by
    rw [nodes]
    rcases List.mem_cons.mp member with same | inside
    · rw [same] at creates'
      rw [(creates made).mp creates']
      exact ⟨_, List.mem_append_right _ List.mem_cons_self, rfl, rfl⟩
    · obtain ⟨old, known, same⟩ := read.known other inside made creates'
      exact ⟨old, List.mem_append_left _ known, same⟩
  closed := fun other member done => by
    rw [nodes] at member
    rcases List.mem_append.mp member with inside | fresh
    · exact Closed.framed.mpr (.inr (read.closed other inside done))
    · rw [List.mem_singleton.mp fresh] at done
      cases done
  completed := fun other member nodeId event => by
    rw [nodes]
    rcases List.mem_cons.mp member with same | earlier
    · rw [same] at event
      exact absurd event (completes nodeId)
    · obtain ⟨old, inside, same⟩ := read.completed other earlier nodeId event
      exact ⟨old, List.mem_append_left _ inside, same⟩

theorem parseDurableNode_passes (content : BlobContentV1) (field : String) :
    Passes (parseDurableNode env content field) fun node => content = .node node := by
  cases content with
  | item item => exact Passes.error _
  | node held =>
    unfold parseDurableNode
    dsimp only
    -- Whatever the checks on the node's fields are, the last step returns the node itself.
    refine Passes.ite (fun _ => Passes.bind (fun _ => False) (Passes.error _) fun _ => False.elim)
      fun _ => ?_
    refine Passes.ite (fun _ => Passes.bind (fun _ => False) (Passes.error _) fun _ => False.elim)
      fun _ => ?_
    refine Passes.next fun _ _ => Passes.next fun _ _ => Passes.next fun _ _ => ?_
    refine Passes.next fun _ _ => Passes.next fun _ _ => Passes.next fun _ _ => ?_
    exact Passes.ok rfl

theorem readDurableNode_member {field : String}
    (reads : readDurableNode env disk reference field = .ok node) :
    (BlobContentV1.node node, reference) ∈ disk.blobs := by
  unfold readDurableNode at reads
  cases stored : readDataBlob disk reference with
  | error error => rw [stored] at reads; cases reads
  | ok content =>
    rw [stored] at reads
    rw [← parseDurableNode_passes content field node reads]
    exact readDataBlob_member stored

theorem NodesRead.advanced (read : NodesRead disk recovery older) (epoch : Nat)
    (finalization : Option OutputFinalizationV1) :
    NodesRead disk (recovery.advanced epoch finalization) older :=
  ⟨read.distinct, read.created, read.known, read.closed, read.completed⟩

/-- A frame that the reader accepts leaves its nodes as the journal has them. -/
theorem NodesRead.step (segmented : spoolLayout.Segmented disk.blobs)
    (read : NodesRead disk recovery older) {executionEpoch : Nat}
    (moves : ReaderMove env disk false executionEpoch recovery frame.body.event next) :
    NodesRead disk next (frame :: older) := by
  generalize event : frame.body.event = accepted at moves
  have creates (none : accepted.nodeReferences = []) : frame.body.event.nodeReferences = [] := by
    rw [event]
    exact none
  have incomplete (other : ∀ nodeId, accepted ≠ .nodeCompleted nodeId) (nodeId : RunNodeIdV1) :
      frame.body.event ≠ .nodeCompleted nodeId := by
    rw [event]
    exact other nodeId
  -- A node that is taken on but not closed neither completes nor closes anything.
  have taken {nodeId : RunNodeIdV1} {recovered replacement : RecoveryNodeV1}
      (found : recovery.find nodeId = some recovered)
      (nodes : next.nodes = (recovery.setNode nodeId replacement).nodes)
      (named : replacement.node.nodeId = recovered.node.nodeId)
      (ordinal : replacement.node.outputOrdinal = recovered.node.outputOrdinal)
      (none : accepted.nodeReferences = []) (opened : recovered.state ≠ .completed)
      (open_ : replacement.done = false) (other : ∀ nodeId, accepted ≠ .nodeCompleted nodeId) :
      NodesRead disk next (frame :: older) := by
    refine read.replace found nodes (named.trans (RecoveryStateV1.find_member found).2) ordinal
      (creates none) opened (fun done => ?_) fun completed event => ?_
    · rw [open_] at done
      cases done
    · exact absurd event (incomplete other completed)
  cases moves with
  | created first => cases first
  | enqueued unknown fresh reads =>
    refine read.enqueue unknown rfl (fun other => ?_) (incomplete (by nofun))
    have stored := readDurableNode_member reads
    rw [event]
    refine ⟨fun creates => ?_, fun same => ?_⟩
    · obtain ⟨reference, refers, member⟩ := creates
      rw [List.mem_singleton.mp refers] at member
      cases segmented.unique member stored
      rfl
    · rw [same]
      exact ⟨_, List.mem_cons_self, stored⟩
  | progressed found observed completed reads same =>
    refine taken found rfl ?_ same.2.2 rfl (by rw [observed]; decide) rfl (by nofun)
    exact same.1.trans (RecoveryStateV1.find_member found).2.symm
  | authorized resumed found task unresolved =>
    refine taken found rfl rfl rfl rfl (fun completed => ?_) rfl (by nofun)
    unfold RecoveryNodeV1.unresolved at unresolved
    rw [completed] at unresolved
    cases unresolved
  | intended found task pending =>
    exact taken found rfl rfl rfl rfl (by rw [pending]; decide) rfl (by nofun)
  | observed found task attempting =>
    exact taken found rfl rfl rfl rfl (by rw [attempting]; decide) rfl (by nofun)
  | completed found task observed open_ =>
    refine taken found rfl rfl rfl rfl (by rw [observed]; decide) ?_ (by nofun)
    unfold RecoveryNodeV1.done
    dsimp only
    rw [observed]
    rfl
  | closed found observed completed =>
    refine read.replace found rfl (RecoveryStateV1.find_member found).2 rfl (creates rfl)
      (by rw [observed]; decide) (fun _ => by rw [event]; rfl) fun other completes => ?_
    rw [event] at completes
    cases completes
    exact ⟨rfl, rfl⟩
  | skipped found task open_ =>
    refine read.replace found rfl (RecoveryStateV1.find_member found).2 rfl (creates rfl)
      open_.1 (fun _ => by rw [event]; rfl) fun other completes => ?_
    rw [event] at completes
    cases completes
  | passed finished =>
    refine read.same rfl (creates ?_) (incomplete ?_)
    · cases accepted <;> first | rfl | cases finished
    · intro nodeId same
      rw [same] at finished
      cases finished
  | _ => exact read.same rfl (creates rfl) (incomplete (by nofun))

/-- The reader's initial nodes are those of the references it has read. -/
theorem recoverInitialNodes_nodes (references : List BlobRefV1) (recovery : RecoveryStateV1)
    (index : Nat)
    (distinct : (recovery.nodes.map fun recovered => recovered.node.nodeId).Nodup) :
    Passes (recoverInitialNodes env disk recovery index references) fun next =>
      (next.nodes.map fun recovered => recovered.node.nodeId).Nodup ∧
      ∃ nodes : List ScrapeNodeV1,
        List.Forall₂ (fun reference node => (BlobContentV1.node node, reference) ∈ disk.blobs)
          references nodes ∧
        next.nodes = recovery.nodes ++
          nodes.map fun node => { node, state := .pending, taskCompletedForAttempt := false } := by
  -- The induction follows the references, each of which adds one unknown node.
  induction references generalizing recovery index with
  | nil => exact Passes.ok ⟨distinct, [], .nil, (List.append_nil _).symm⟩
  | cons reference rest ih =>
    refine Passes.bind _ (recoverInitialNode_passes disk recovery index reference) ?_
    intro next enqueues
    obtain ⟨node, reads, _, _, _, unknown, _, rfl⟩ := enqueues
    have longer : ((recovery.enqueued reference node).nodes.map fun recovered =>
        recovered.node.nodeId).Nodup := by
      unfold RecoveryStateV1.enqueued
      rw [List.map_append, List.nodup_append]
      refine ⟨distinct, List.nodup_singleton _, fun left inside right fresh => ?_⟩
      obtain ⟨old, member, rfl⟩ := List.mem_map.mp inside
      rw [List.mem_singleton.mp fresh]
      exact RecoveryStateV1.find_none unknown old member
    refine Passes.mono (ih (recovery.enqueued reference node) (index + 1) longer) ?_
    intro last held
    obtain ⟨nodup, nodes, paired, same⟩ := held
    refine ⟨nodup, node :: nodes, .cons (readDurableNode_member reads) paired, ?_⟩
    rw [same]
    unfold RecoveryStateV1.enqueued
    rw [List.append_assoc]
    rfl

/-- The reader's initial nodes are what the first frame of the journal says of them. -/
theorem NodesRead.begins (segmented : spoolLayout.Segmented disk.blobs) {metaDigest : Sha256DigestV1}
    {initialNodes : Option (List BlobRefV1)} {epoch : Nat}
    {finalization : Option OutputFinalizationV1}
    (created : frame.body.event = .runCreated metaDigest initialNodes)
    (begins : recoverInitialNodes env disk .initial 0 (initialNodes.getD []) = .ok recovery) :
    NodesRead disk (recovery.advanced epoch finalization) [frame] := by
  obtain ⟨distinct, nodes, paired, read⟩ :=
    recoverInitialNodes_nodes _ .initial _ List.nodup_nil recovery begins
  have read : recovery.nodes = nodes.map fun node =>
    { node, state := .pending, taskCompletedForAttempt := false } := read
  have refers : frame.body.event.nodeReferences = initialNodes.getD [] := by
    rw [created]
    cases initialNodes <;> rfl
  refine NodesRead.advanced ⟨distinct, ?_, ?_, ?_, ?_⟩ epoch finalization
  · intro recovered member
    rw [read] at member
    obtain ⟨node, inside, rfl⟩ := List.mem_map.mp member
    obtain ⟨reference, referred, stored⟩ := paired_left paired.flip inside
    rw [← refers] at referred
    exact ⟨node, ⟨frame, List.mem_cons_self, reference, referred, stored⟩, rfl, rfl⟩
  · intro other member node creates
    obtain ⟨reference, referred, stored⟩ := creates
    rw [List.mem_singleton.mp member, refers] at referred
    obtain ⟨held, inside, same⟩ := paired_left paired referred
    cases segmented.unique stored same
    refine ⟨{ node, state := .pending, taskCompletedForAttempt := false }, ?_, rfl, rfl⟩
    rw [read]
    exact List.mem_map.mpr ⟨node, inside, rfl⟩
  · intro recovered member done
    rw [read] at member
    obtain ⟨node, inside, rfl⟩ := List.mem_map.mp member
    cases done
  · intro other member nodeId event
    rw [List.mem_singleton.mp member, created] at event
    cases event

theorem recoverFrames_nodes (segmented : spoolLayout.Segmented disk.blobs)
    (frames : List JournalFrameV1) :
    Passes (recoverFrames env disk frames) fun recovery => NodesRead disk recovery frames := by
  refine @recoverFrames_induct env disk (fun recovery frames => NodesRead disk recovery frames)
    ?_ ?_ frames
  · intro frame metaDigest initialNodes recovery epoch finalization created begins _
    exact NodesRead.begins segmented created begins
  · intro recovery frame older epoch finalization next held _ _ moves
    exact (held.advanced epoch finalization).step segmented moves

end Reader

/-! What cutting the spool off leaves of the known nodes. -/

theorem Created.untruncated {disk : Disk} {spoolPrefix : Nat}
    (created : Created (truncateSpool disk spoolPrefix) node) : Created disk node := by
  obtain ⟨frame, inside, reference, refers, member⟩ := created
  rw [truncateSpool_frames] at inside
  rw [truncateSpool_blobs] at member
  exact ⟨frame, inside, reference, refers, (List.mem_filter.mp member).1⟩

end Klura
