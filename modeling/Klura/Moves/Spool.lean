import Klura.Library.Segments
import Klura.Moves.Life
import Klura.Moves.Reader

/-! The run's data spool: every reference a journal holds leads to the value it was written for. -/

namespace Klura

variable {env : RunEnvironment} {permits : TurnPermissionV1}

/-- How blob references lay out the spool. -/
def spoolLayout : SegmentLayout BlobRefV1 :=
  { offset := BlobRefV1.offset, length := BlobRefV1.length }

/-- The values of a spool with the references they were written for, newest first. -/
abbrev Blobs : Type := List (BlobContentV1 × BlobRefV1)

theorem Disk.spoolBytes_eq (disk : Disk) : disk.spoolBytes = spoolLayout.fileEnd disk.blobs := by
  unfold Disk.spoolBytes SegmentLayout.fileEnd
  cases disk.blobs <;> rfl

theorem truncateSpool_blobs (disk : Disk) (spoolPrefix : Nat) :
    (truncateSpool disk spoolPrefix).blobs =
      disk.blobs.filter fun blob => spoolLayout.offset blob.2 < spoolPrefix := by
  -- The induction follows the writes, of which only blobs are ever dropped.
  induction disk with
  | nil => rfl
  | cons write older ih =>
    unfold truncateSpool Disk.blobs at ih ⊢
    cases write with
    | frame frame => simp [List.filterMap_cons, Disk.blobOf, ih]
    | blob content reference =>
      by_cases before : reference.offset < spoolPrefix
      · simp [before, Disk.blobOf, spoolLayout, ih]
      · simp [before, Disk.blobOf, spoolLayout, ih]

theorem paired_left {α β : Type} {pairs : α → β → Prop} {lefts : List α} {rights : List β}
    (paired : List.Forall₂ pairs lefts rights) {left : α} (member : left ∈ lefts) :
    ∃ right ∈ rights, pairs left right := by
  induction paired with
  | nil => exact absurd member List.not_mem_nil
  | cons first _ ih =>
    rcases List.mem_cons.mp member with same | member
    · rw [same]
      exact ⟨_, List.mem_cons_self, first⟩
    · obtain ⟨right, inside, pair⟩ := ih member
      exact ⟨right, List.mem_cons_of_mem _ inside, pair⟩

/-- The references that an event makes durable. -/
def JournalEventV1.references : JournalEventV1 → List BlobRefV1
  | .runCreated _ (some references) => references
  | .nodeEnqueued _ _ nodeState _ _ _ _ _ => [nodeState]
  | .nodeProgressed _ nodeState => [nodeState]
  | .itemBuffered _ _ data _ => [data]
  | _ => []

/-- The references of an event lead to the values that the event tells of. -/
def JournalEventV1.Backed (env : RunEnvironment) (blobs : Blobs) : JournalEventV1 → Prop
  | .runCreated _ (some references) => ∃ roots,
    List.Forall₂ (fun reference node => (BlobContentV1.node node, reference) ∈ blobs) references
      (initialNodesFrom env 0 roots)
  | .nodeEnqueued nodeId keyDigest nodeState taskKindId rootOrdinal seedOrdinal depth ordinal =>
    ∃ node : ScrapeNodeV1, (.node node, nodeState) ∈ blobs ∧
      nodeId = node.nodeId ∧ keyDigest = env.digestOf node.logicalKey.value ∧
      taskKindId = node.taskKindId ∧ rootOrdinal = node.rootOrdinal ∧
      seedOrdinal = node.seedOrdinal ∧ depth = node.depth ∧ ordinal = node.outputOrdinal
  | .nodeProgressed nodeId nodeState =>
    ∃ node : ScrapeNodeV1, (.node node, nodeState) ∈ blobs ∧ nodeId = node.nodeId
  | .itemBuffered _ _ data _ => ∃ item, (.item item, data) ∈ blobs
  | _ => True

variable {blobs more : Blobs}

theorem JournalEventV1.Backed.mono (grows : blobs ⊆ more) {event : JournalEventV1}
    (backed : event.Backed env blobs) : event.Backed env more := by
  cases event with
  | runCreated metaDigest initialNodes =>
    cases initialNodes with
    | none => exact trivial
    | some references =>
      obtain ⟨roots, backed⟩ := backed
      exact ⟨roots, backed.imp fun _ _ member => grows member⟩
  | nodeEnqueued =>
    obtain ⟨node, member, same⟩ := backed
    exact ⟨node, grows member, same⟩
  | nodeProgressed =>
    obtain ⟨node, member, same⟩ := backed
    exact ⟨node, grows member, same⟩
  | itemBuffered =>
    obtain ⟨item, member⟩ := backed
    exact ⟨item, grows member⟩
  | _ => exact trivial

theorem JournalEventV1.Backed.held {blobs : Blobs} {event : JournalEventV1}
    (backed : event.Backed env blobs) {reference : BlobRefV1}
    (member : reference ∈ event.references) : ∃ content, (content, reference) ∈ blobs := by
  cases event with
  | runCreated metaDigest initialNodes =>
    cases initialNodes with
    | none => exact absurd member List.not_mem_nil
    | some references =>
      obtain ⟨roots, backed⟩ := backed
      obtain ⟨node, _, held⟩ := paired_left backed member
      exact ⟨_, held⟩
  | nodeEnqueued =>
    obtain ⟨node, held, _⟩ := backed
    rw [List.mem_singleton.mp member]
    exact ⟨_, held⟩
  | nodeProgressed =>
    obtain ⟨node, held, _⟩ := backed
    rw [List.mem_singleton.mp member]
    exact ⟨_, held⟩
  | itemBuffered =>
    obtain ⟨item, held⟩ := backed
    rw [List.mem_singleton.mp member]
    exact ⟨_, held⟩
  | _ => exact absurd member List.not_mem_nil

/-- A spool and a journal whose references all lead to what they were written for. -/
structure SpoolSound (env : RunEnvironment) (disk : Disk) : Prop where
  segmented : spoolLayout.Segmented disk.blobs
  backed : ∀ frame ∈ disk.frames, frame.body.event.Backed env disk.blobs

namespace SpoolSound

variable {disk : Disk}

theorem empty : SpoolSound env [] := ⟨trivial, fun _ member => absurd member List.not_mem_nil⟩

theorem spool (sound : SpoolSound env disk) (content : BlobContentV1) :
    SpoolSound env (.blob content (disk.nextReference env content) :: disk) := by
  have begins : (disk.nextReference env content).offset = spoolLayout.fileEnd disk.blobs :=
    disk.spoolBytes_eq
  refine ⟨sound.segmented.append begins (canonicalBytes_pos _), fun frame member => ?_⟩
  exact (sound.backed frame member).mono (List.subset_cons_self _ _)

theorem frame (sound : SpoolSound env disk) {frame : JournalFrameV1}
    (backed : frame.body.event.Backed env disk.blobs) :
    SpoolSound env (.frame frame :: disk) := by
  refine ⟨sound.segmented, fun other member => ?_⟩
  have member : other ∈ frame :: disk.frames := member
  rcases List.mem_cons.mp member with same | member
  · rw [same]
    exact backed
  · exact sound.backed other member

end SpoolSound

theorem readDataBlob_member {disk : Disk} {reference : BlobRefV1} {content : BlobContentV1}
    (reads : readDataBlob disk reference = .ok content) : (content, reference) ∈ disk.blobs := by
  unfold readDataBlob at reads
  simp only [bind, Except.bind] at reads
  split at reads
  · cases reads
  · split at reads
    · cases reads
    · split at reads
      · cases reads
      · rename_i value stored found
        split at reads
        · cases reads
        · cases reads
          have same := List.find?_some found
          rw [← of_decide_eq_true same]
          exact List.mem_of_find?_eq_some found

/-! What the moves of a run carry from the spool to the journal. -/

/-- The value a stage has spooled is the one its next frame refers to. -/
def StageV1.Carries (blobs : Blobs) : StageV1 → Prop
  | .spooled _ _ _ item data => (.item item.item, data) ∈ blobs
  | .progressing _ next nodeState => (.node next.node, nodeState) ∈ blobs
  | _ => True

/-- The value a slot has spooled is the one its next frame refers to. -/
def SlotV1.Carries (blobs : Blobs) : SlotV1 → Prop
  | .chain stage => stage.Carries blobs
  | .enqueueing child nodeState _ _ => (.node child, nodeState) ∈ blobs
  | _ => True

/-- The initial nodes that are spooled are the ones the first frame will refer to. -/
def RunModeV1.Carries (env : RunEnvironment) (blobs : Blobs) : RunModeV1 → Prop
  | .creating nodes remaining references => ∃ roots placed,
    nodes = initialNodesFrom env 0 roots ∧ nodes = placed ++ remaining ∧
      List.Forall₂ (fun reference node => (BlobContentV1.node node, reference) ∈ blobs) references
        placed
  | _ => True

theorem StageV1.Carries.mono (grows : blobs ⊆ more) {stage : StageV1}
    (carries : stage.Carries blobs) : stage.Carries more := by
  cases stage with
  | spooled => exact grows carries
  | progressing => exact grows carries
  | _ => exact trivial

theorem SlotV1.Carries.mono (grows : blobs ⊆ more) {slot : SlotV1} (carries : slot.Carries blobs) :
    slot.Carries more := by
  cases slot with
  | chain stage => exact StageV1.Carries.mono grows carries
  | enqueueing => exact grows carries
  | _ => exact trivial

theorem RunModeV1.Carries.mono (grows : blobs ⊆ more) {mode : RunModeV1}
    (carries : mode.Carries env blobs) : mode.Carries env more := by
  cases mode with
  | creating =>
    obtain ⟨roots, placed, planned, splits, paired⟩ := carries
    exact ⟨roots, placed, planned, splits, paired.imp fun _ _ member => grows member⟩
  | _ => exact trivial

theorem WritesOnce.grows {before after : Disk} (once : WritesOnce before after) :
    before.blobs ⊆ after.blobs := by
  rcases once with rfl | ⟨write, rfl⟩
  · exact List.Subset.refl _
  · cases write with
    | frame frame => exact List.Subset.refl _
    | blob content reference => exact List.subset_cons_self _ _

section Frames

variable {world next : World} {event : JournalEventV1}

theorem SpoolSound.recorded (sound : SpoolSound env world.disk)
    (recorded : Recorded env event world next) (backed : event.Backed env world.disk.blobs) :
    SpoolSound env next.disk := by
  obtain ⟨frame, carries, writes⟩ := recorded.write
  rw [writes]
  exact sound.frame (by rw [carries]; exact backed)

theorem SpoolSound.recordedEmergency (sound : SpoolSound env world.disk)
    (recorded : RecordedEmergency env event world next)
    (backed : event.Backed env world.disk.blobs) : SpoolSound env next.disk := by
  obtain ⟨frame, carries, writes⟩ := recorded.write
  rw [writes]
  exact sound.frame (by rw [carries]; exact backed)

end Frames

/-- What a chain's part of a run keeps of the spool. -/
def SpoolStage (env : RunEnvironment) (point : ChainPoint) : Prop :=
  SpoolSound env point.1.disk ∧ point.2.Carries point.1.disk.blobs

theorem spoolStage_kept {entry : BatchEntryV1} :
    Keeps (ChainMove env entry permits) (SpoolStage env) := by
  intro before after moves point
  obtain ⟨sound, carries⟩ := point
  cases moves with
  | quiet quiet =>
    obtain ⟨_, _, _, _, _, rfl⟩ := quiet
    exact ⟨sound, carries⟩
  | limitless recorded => exact ⟨(sound.recordedEmergency recorded trivial :), trivial⟩
  | intended may recorded => exact ⟨(sound.recorded recorded trivial :), trivial⟩
  | observed recorded => exact ⟨(sound.recorded recorded trivial :), trivial⟩
  | spooled live emits data may => exact ⟨sound.spool _, List.mem_cons_self⟩
  | buffered recorded => exact ⟨(sound.recorded recorded ⟨_, carries⟩ :), trivial⟩
  | completed recorded => exact ⟨(sound.recorded recorded trivial :), trivial⟩
  | duplicated known recorded => exact ⟨(sound.recorded recorded trivial :), trivial⟩
  | committed fresh room capacity recorded => exact ⟨(sound.recorded recorded trivial :), trivial⟩
  | sunk holds recorded => exact ⟨(sound.recorded recorded trivial :), trivial⟩
  | continued fresh canonical next room => exact ⟨sound.spool _, List.mem_cons_self⟩
  | progressed recorded => exact ⟨(sound.recorded recorded ⟨_, carries, rfl⟩ :), trivial⟩
  | explained may recorded => exact ⟨(sound.recordedEmergency recorded trivial :), trivial⟩
  | left releases =>
    refine ⟨?_, trivial⟩
    rw [World.left_disk]
    exact sound
  | stranded holds =>
    refine ⟨?_, trivial⟩
    rw [World.left_disk]
    exact sound
  | _ => exact ⟨sound, trivial⟩

/-- What a run keeps of its spool between two of its moves. -/
structure SpoolPoint (env : RunEnvironment) (point : RunPointV1) : Prop where
  sound : SpoolSound env point.world.disk
  slots : ∀ slot ∈ point.slots, slot.2.Carries point.world.disk.blobs
  mode : point.mode.Carries env point.world.disk.blobs

namespace SpoolPoint

variable {before after : RunPointV1}

theorem same (point : SpoolPoint env before) (disk : after.world.disk = before.world.disk)
    (slots : ∀ slot ∈ after.slots, slot ∈ before.slots ∨ ∀ blobs, slot.2.Carries blobs)
    (mode : after.mode = before.mode ∨ ∀ blobs, after.mode.Carries env blobs) :
    SpoolPoint env after := by
  refine ⟨by rw [disk]; exact point.sound, fun slot member => ?_, ?_⟩
  · rcases slots slot member with inside | free
    · rw [disk]
      exact point.slots slot inside
    · exact free _
  · rcases mode with same | free
    · rw [disk, same]
      exact point.mode
    · exact free _

theorem wrote {event : JournalEventV1} (point : SpoolPoint env before)
    (writes : ∃ frame, frame.body.event = event ∧
      after.world.disk = .frame frame :: before.world.disk)
    (backed : event.Backed env before.world.disk.blobs)
    (slots : ∀ slot ∈ after.slots, slot ∈ before.slots ∨ ∀ blobs, slot.2.Carries blobs)
    (mode : after.mode = before.mode ∨ ∀ blobs, after.mode.Carries env blobs) :
    SpoolPoint env after := by
  obtain ⟨frame, rfl, writes⟩ := writes
  have blobs : after.world.disk.blobs = before.world.disk.blobs := by rw [writes]; rfl
  refine ⟨by rw [writes]; exact point.sound.frame backed, fun slot member => ?_, ?_⟩
  · rcases slots slot member with inside | free
    · rw [blobs]
      exact point.slots slot inside
    · exact free _
  · rcases mode with same | free
    · rw [blobs, same]
      exact point.mode
    · exact free _

end SpoolPoint

/-- A move of a run keeps the spool sound and what it has spooled at hand. -/
theorem spoolPoint_kept : Keeps (RunMove env permits) (SpoolPoint env) := by
  intro before after moves point
  have kept : ∀ slot ∈ before.slots, slot ∈ before.slots ∨ ∀ blobs, slot.2.Carries blobs :=
    fun _ member => .inl member
  -- A slot that replaces the first one carries nothing, apart from the one that spools a child.
  have replaced {first : BatchEntryV1 × SlotV1} {slots : List (BatchEntryV1 × SlotV1)}
      (entry : BatchEntryV1) (slot : SlotV1) (free : ∀ blobs, slot.Carries blobs) :
      ∀ other ∈ (entry, slot) :: slots,
        other ∈ first :: slots ∨ ∀ blobs, other.2.Carries blobs := by
    intro other member
    rcases List.mem_cons.mp member with same | inside
    · rw [same]
      exact .inr free
    · exact .inl (List.mem_cons_of_mem _ inside)
  have dropped {first : BatchEntryV1 × SlotV1} {slots : List (BatchEntryV1 × SlotV1)} :
      ∀ other ∈ slots, other ∈ first :: slots ∨ ∀ blobs, other.2.Carries blobs :=
    fun _ member => .inl (List.mem_cons_of_mem _ member)
  cases moves with
  | @chain world next left right mode entry stage after moves =>
    have staged : SpoolStage env (world, stage) := ⟨point.sound, point.slots (entry, .chain stage)
      (List.mem_append_right _ List.mem_cons_self)⟩
    have moved := spoolStage_kept moves staged
    have grows := moves.once.grows
    refine ⟨moved.1, fun slot member => ?_, point.mode.mono grows⟩
    rcases List.mem_append.mp member with inside | member
    · exact (point.slots slot (List.mem_append_left _ inside)).mono grows
    · rcases List.mem_cons.mp member with same | inside
      · rw [same]
        exact moved.2
      · exact (point.slots slot (List.mem_append_right _ (List.mem_cons_of_mem _ inside))).mono
          grows
  | quiet quiet => exact point.same quiet.disk kept (.inl rfl)
  | cancelled unasked open_ recorded => exact point.wrote recorded.write trivial kept (.inl rfl)
  | @rooted world nodes node remaining references room =>
    obtain ⟨roots, placed, planned, splits, paired⟩ := point.mode
    refine ⟨point.sound.spool _, fun _ member => absurd member List.not_mem_nil, roots, placed ++ [node], planned, ?_, ?_⟩
    · rw [splits, List.append_assoc]
      rfl
    · have grown := paired.imp fun _ _ member =>
        List.mem_cons_of_mem (.node node, world.disk.nextReference env (.node node)) member
      exact List.rel_append grown (.cons List.mem_cons_self .nil)
  | @created world next references nodes recorded =>
    obtain ⟨roots, placed, planned, splits, paired⟩ := point.mode
    rw [List.append_nil] at splits
    have backed : (JournalEventV1.runCreated env.metaDigest (some references)).Backed env
        world.disk.blobs := ⟨roots, by rw [← planned, splits]; exact paired⟩
    exact point.wrote recorded.write backed kept (.inr fun _ => trivial)
  | announced recorded => exact point.wrote recorded.write trivial kept (.inr fun _ => trivial)
  | authorized recorded => exact point.wrote recorded.write trivial kept (.inr fun _ => trivial)
  | dequeued fresh found task capability =>
    refine point.same rfl (fun slot member => ?_) (.inl rfl)
    rcases List.mem_append.mp member with inside | inside
    · exact .inl inside
    · rw [List.mem_singleton.mp inside]
      exact .inr fun _ => trivial
  | skipping failed => exact point.same rfl (replaced _ _ fun _ => trivial) (.inl rfl)
  | skipped recorded => exact point.wrote recorded.write trivial dropped (.inl rfl)
  | expanded expands =>
    obtain ⟨ordinal, _, rfl⟩ := expanded_numbered expands
    exact point.same rfl (replaced _ _ fun _ => trivial) (.inl rfl)
  | repeated known => exact point.same rfl (replaced _ _ fun _ => trivial) (.inl rfl)
  | @spooled world entry child children retained slots unknown fits room =>
    refine ⟨point.sound.spool _, fun slot member => ?_, trivial⟩
    rcases List.mem_cons.mp member with same | inside
    · rw [same]
      exact List.mem_cons_self
    · exact (point.slots slot (List.mem_cons_of_mem _ inside)).mono (List.subset_cons_self _ _)
  | @enqueued world next frontier entry child nodeState children retained slots recorded fits =>
    have carried : (BlobContentV1.node child, nodeState) ∈ world.disk.blobs :=
      point.slots (entry, .enqueueing child nodeState children retained) List.mem_cons_self
    exact point.wrote recorded.write ⟨child, carried, rfl, rfl, rfl, rfl, rfl, rfl, rfl⟩
      (replaced _ _ fun _ => trivial) (.inl rfl)
  | completed recorded => exact point.wrote recorded.write trivial dropped (.inl rfl)
  | relinquished stopped => exact point.same rfl dropped (.inl rfl)
  | explained recorded => exact point.wrote recorded.write trivial kept (.inl rfl)
  | prepared holds names recorded =>
    exact point.wrote recorded.write trivial kept (.inr fun _ => trivial)
  | published recorded => exact point.wrote recorded.write trivial kept (.inr fun _ => trivial)
  | terminated recorded => exact point.wrote recorded.write trivial kept (.inr fun _ => trivial)
  | publishedTerminal recorded =>
    exact point.wrote recorded.write trivial kept (.inr fun _ => trivial)
  | dropped => exact point.same rfl (fun _ member => absurd member List.not_mem_nil) (.inl rfl)
  | opened => exact point.same rfl kept (.inl rfl)
  | closed => exact point.same rfl kept (.inl rfl)
  | known => exact point.same rfl kept (.inl rfl)
  | missing => exact point.same rfl kept (.inr fun _ => trivial)
  | dispatched => exact point.same rfl kept (.inl rfl)
  | numbered => exact point.same rfl kept (.inl rfl)
  | _ => exact point.same rfl kept (.inr fun _ => trivial)

/-! What recovery keeps of the spool when it cuts the rest of it off. -/

section Recovery

variable {disk : Disk}

theorem recoverInitialNodes_references (references : List BlobRefV1) (recovery : RecoveryStateV1)
    (index : Nat) :
    Passes (recoverInitialNodes env disk recovery index references) fun next =>
      recovery.references ⊆ next.references ∧ references ⊆ next.references := by
  induction references generalizing recovery index with
  | nil => exact Passes.ok ⟨List.Subset.refl _, List.nil_subset _⟩
  | cons reference rest ih =>
    refine Passes.bind _ (recoverInitialNode_passes disk recovery index reference) ?_
    intro next enqueues
    obtain ⟨node, _, _, _, _, _, _, rfl⟩ := enqueues
    refine Passes.mono (ih (recovery.enqueued reference node) (index + 1)) fun last met => ?_
    refine ⟨fun other member => met.1 (List.mem_cons_of_mem _ member), ?_⟩
    exact List.cons_subset.mpr ⟨met.1 List.mem_cons_self, met.2⟩

theorem recoverFrames_references (frames : List JournalFrameV1) :
    Passes (recoverFrames env disk frames) fun recovery =>
      ∀ frame ∈ frames, frame.body.event.references ⊆ recovery.references := by
  refine @recoverFrames_induct env disk (fun recovery frames =>
    ∀ frame ∈ frames, frame.body.event.references ⊆ recovery.references) ?_ ?_ frames
  · intro frame metaDigest initialNodes recovery epoch finalization created begins _ other member
    rw [List.mem_singleton.mp member, created]
    have met := recoverInitialNodes_references _ _ _ recovery begins
    cases initialNodes with
    | none => exact List.nil_subset _
    | some references => exact met.2
  · intro recovery frame older epoch finalization next held _ _ moves other member
    rcases List.mem_cons.mp member with same | member
    · rw [same]
      generalize frame.body.event = event at moves
      cases moves with
      | created first => cases first
      | enqueued | buffered | progressed => exact List.cons_subset.mpr ⟨List.mem_cons_self, List.nil_subset _⟩
      | passed finished => cases event <;> first | exact List.nil_subset _ | cases finished
      | _ => exact List.nil_subset _
    · exact fun reference refers => moves.references (held other member refers)

variable {recovered : RecoveredRunStateV1}

theorem SpoolSound.keeps (sound : SpoolSound env disk)
    (recovers : recoverRunState env disk = .ok recovered) {frame : JournalFrameV1}
    (inside : frame ∈ disk.frames) {content : BlobContentV1} {reference : BlobRefV1}
    (refers : reference ∈ frame.body.event.references) (member : (content, reference) ∈ disk.blobs) :
    (content, reference) ∈ (truncateSpool disk recovered.spoolPrefix).blobs := by
  obtain ⟨recovery, reads⟩ := recoverRunState_reads recovered recovers
  have met := recoverFrames_references _ recovery reads.frames
  have within := validateSpoolPrefix_within _ _ reads.spool
  rw [truncateSpool_blobs]
  refine List.mem_filter.mpr ⟨member, decide_eq_true ?_⟩
  have ends := within reference (met frame inside refers)
  have filled := (sound.segmented.within member).2
  unfold spoolLayout at filled ⊢
  dsimp only at filled ⊢
  omega

/-- Recovery leaves a spool that its journal's references still lead into. -/
theorem SpoolSound.truncated (sound : SpoolSound env disk)
    (recovers : recoverRunState env disk = .ok recovered) :
    SpoolSound env (truncateSpool disk recovered.spoolPrefix) := by
  have kept {frame : JournalFrameV1} (inside : frame ∈ disk.frames) {content : BlobContentV1}
      {reference : BlobRefV1} (refers : reference ∈ frame.body.event.references)
      (member : (content, reference) ∈ disk.blobs) :
      (content, reference) ∈ (truncateSpool disk recovered.spoolPrefix).blobs :=
    sound.keeps recovers inside refers member
  refine ⟨?_, fun frame member => ?_⟩
  · rw [truncateSpool_blobs]
    exact sound.segmented.cut _
  · rw [truncateSpool_frames] at member
    have backed := sound.backed frame member
    cases event : frame.body.event with
    | runCreated metaDigest initialNodes =>
      cases initialNodes with
      | none => exact trivial
      | some references =>
        rw [event] at backed
        obtain ⟨roots, paired⟩ := backed
        refine ⟨roots, List.forall₂_iff_zip.mpr ⟨paired.length_eq, fun {reference node} zipped => ?_⟩⟩
        have refers : reference ∈ frame.body.event.references := by
          rw [event]
          exact (List.of_mem_zip zipped).1
        exact kept member refers (List.forall₂_zip paired zipped)
    | nodeEnqueued =>
      rw [event] at backed
      obtain ⟨node, held, same⟩ := backed
      exact ⟨node, kept member (by rw [event]; exact List.mem_cons_self) held, same⟩
    | nodeProgressed =>
      rw [event] at backed
      obtain ⟨node, held, same⟩ := backed
      exact ⟨node, kept member (by rw [event]; exact List.mem_cons_self) held, same⟩
    | itemBuffered =>
      rw [event] at backed
      obtain ⟨item, held⟩ := backed
      exact ⟨item, kept member (by rw [event]; exact List.mem_cons_self) held⟩
    | _ => exact trivial

end Recovery

theorem JournalEventV1.closes.backed {recovered : RecoveredRunStateV1} {event : JournalEventV1}
    (closing : event.closes recovered) (blobs : Blobs) : event.Backed env blobs := by
  cases event with
  | runCreated | nodeEnqueued | nodeProgressed | itemBuffered => exact closing.2.elim
  | _ => exact trivial

theorem spool_invariant : MoveInvariant env (fun _ => True) (SpoolSound env) (SpoolPoint env) where
  disk := fun _ point => point.sound
  starts := fun roots clock linkSucceeds => ⟨SpoolSound.empty,
    fun _ member => absurd member List.not_mem_nil, roots, [], rfl, rfl, .nil⟩
  resumes := fun disk plan clock linkSucceeds sound plans => by
    have read := planResume_reads plans
    refine ⟨?_, fun _ member => absurd member List.not_mem_nil, trivial⟩
    show SpoolSound env plan.disk
    rw [read.truncated]
    exact sound.truncated read.recovers
  keeps := fun permits _ => spoolPoint_kept
  closes := fun disk recovered kept sound recovers writes => by
    induction writes with
    | refl => exact sound.truncated recovers
    | tail _ last ih =>
      obtain ⟨frame, closing, rfl⟩ := last
      exact ih.frame (closing.backed _)

end Klura
