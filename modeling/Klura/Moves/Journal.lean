import Klura.Library.Check
import Klura.Moves.Run
import Klura.Run.Recovery

/-! What the elementary moves of a run append to its journal. -/

namespace Klura

variable {env : RunEnvironment} {permits : TurnPermissionV1}

/-- What is known of a frame that a journal took. -/
structure AppendedFrame (env : RunEnvironment) (disk : Disk) (body : JournalFrameBodyV1)
    (maximumBytes maximumFrames reservedBytes : Nat) (frame : JournalFrameV1) : Prop where
  room : disk.frames.length < maximumFrames
  parses : parseJournalFrameBody env body "journal.frame" = .ok ()
  contiguous : body.sequence = (disk.frames.head?.map fun last => last.body.sequence).getD 0 + 1
  chained : body.previousFrameDigest = disk.frames.head?.map JournalFrameV1.digest
  bytes : disk.journalBytes + frameBytes (canonicalJson body.value) + reservedBytes ≤ maximumBytes
  carries : frame.body = body
  digest : frame.digest = env.digestOf body.value
  offset : frame.offset = disk.journalBytes
  endOffset : frame.endOffset = disk.journalBytes + frameBytes (canonicalJson body.value)

theorem encodeJournalFrame_passes (body : JournalFrameBodyV1) :
    Passes (encodeJournalFrame env body)
      (fun text => parseJournalFrameBody env body "journal.frame" = .ok () ∧
        text = canonicalJson body.value) :=
  Passes.next fun _ parses => Passes.ite (fun _ => Passes.error _)
    fun _ => Passes.ok ⟨parses, rfl⟩

theorem appendJournalFrame_passes (disk : Disk) (body : JournalFrameBodyV1)
    (maximumBytes maximumFrames reservedBytes : Nat) :
    Passes (appendJournalFrame env disk body maximumBytes maximumFrames reservedBytes)
      (AppendedFrame env disk body maximumBytes maximumFrames reservedBytes) := by
  unfold appendJournalFrame
  refine Passes.ite (fun _ => Passes.error _) fun room => ?_
  refine Passes.next fun _ parses => ?_
  refine Passes.ite (fun _ => Passes.error _) fun contiguous => ?_
  refine Passes.ite (fun _ => Passes.error _) fun chained => ?_
  refine Passes.bind _ (encodeJournalFrame_passes body) fun text encoded => ?_
  obtain ⟨_, rfl⟩ := encoded
  refine Passes.ite (fun _ => Passes.error _) fun bytes => Passes.ok ?_
  exact {
    room := by omega
    parses
    contiguous := not_not.mp contiguous
    chained := not_not.mp chained
    bytes := by omega
    carries := rfl
    digest := rfl
    offset := rfl
    endOffset := rfl }

theorem appendEmergencyJournalFrame_passes (disk : Disk) (body : JournalFrameBodyV1)
    (maximumBytes maximumFrames : Nat) :
    Passes (appendEmergencyJournalFrame env disk maximumBytes body maximumFrames)
      (AppendedFrame env disk body maximumBytes maximumFrames 0) := by
  unfold appendEmergencyJournalFrame
  refine Passes.ite (fun _ => Passes.error _) fun _ => ?_
  refine Passes.next fun _ _ => ?_
  exact Passes.ite (fun _ => Passes.error _)
    fun _ => appendJournalFrame_passes disk body maximumBytes maximumFrames 0

/-- The journal and what the next frame is built from. -/
structure JournalCursorV1 where
  frames : List JournalFrameV1
  sequence : Nat
  previousDigest : Option Sha256DigestV1
  executionEpoch : Nat
  maximumJournalBytes : Nat
  maximumJournalFrames : Nat
  terminal : Bool
  cancellationRequested : Bool

/-- The cursor of a world. -/
def World.cursor (world : World) : JournalCursorV1 :=
  { frames := world.disk.frames, sequence := world.state.sequence
    previousDigest := world.state.previousDigest, executionEpoch := world.state.executionEpoch
    maximumJournalBytes := world.state.maximumJournalBytes
    maximumJournalFrames := world.state.maximumJournalFrames, terminal := world.state.terminal
    cancellationRequested := world.cancellationRequested }

/-- Whether an event begins an execution epoch. -/
def JournalEventV1.beginsEpoch : JournalEventV1 → Bool
  | .stateChanged (.running _) => true
  | _ => false

/-- What the moves of a chain leave the journal as: as it was, or with one more frame, which is
ordinary work or the reason of a stop. -/
inductive ChainJournals (env : RunEnvironment) (world next : World) : Prop where
  | kept (same : next.cursor = world.cursor)
  | worked (event : JournalEventV1) (middle : World) (within : event.beginsEpoch = false)
      (recorded : Recorded env event world middle) (same : next.cursor = middle.cursor)
  | reasoned (nodeId : Option RunNodeIdV1) (taskKindId : Option StableContractIdV1)
      (stop : RunStopV1) (message : String) (middle : World)
      (recorded : RecordedEmergency env (.stopReason nodeId taskKindId stop message) world middle)
      (same : next.cursor = middle.cursor)

theorem Quiet.cursor {world next : World} (quiet : Quiet world next) :
    next.cursor = world.cursor := by
  obtain ⟨_, _, _, _, _, rfl⟩ := quiet
  rfl

theorem World.left_cursor (world : World) (chain : TaskChainV1) (outcome : ChainOutcomeV1) :
    (world.left chain outcome).cursor = world.cursor := by
  unfold World.left
  split <;> rfl

theorem ChainMove.journals {entry : BatchEntryV1} {world next : World} {stage after : StageV1}
    (moves : ChainMove env entry permits (world, stage) (next, after)) :
    ChainJournals env world next := by
  cases moves with
  | quiet quiet => exact .kept quiet.cursor
  | intended may recorded => exact .worked _ _ rfl recorded rfl
  | observed recorded => exact .worked _ _ rfl recorded rfl
  | buffered recorded => exact .worked _ _ rfl recorded rfl
  | completed recorded => exact .worked _ _ rfl recorded rfl
  | duplicated known recorded => exact .worked _ _ rfl recorded rfl
  | committed fresh room capacity recorded => exact .worked _ _ rfl recorded rfl
  | sunk holds recorded => exact .worked _ _ rfl recorded rfl
  | progressed recorded => exact .worked _ _ rfl recorded rfl
  | limitless recorded => exact .reasoned _ _ _ _ _ recorded rfl
  | explained may recorded => exact .reasoned _ _ _ _ _ recorded rfl
  | left releases => exact .kept (World.left_cursor _ _ _)
  | stranded holds => exact .kept (World.left_cursor _ _ _)
  | _ => exact .kept rfl

theorem truncateSpool_frames (disk : Disk) (spoolPrefix : Nat) :
    (truncateSpool disk spoolPrefix).frames = disk.frames := by
  -- The induction follows the writes, of which only blobs are ever dropped.
  induction disk with
  | nil => rfl
  | cons write older ih =>
    unfold truncateSpool Disk.frames at ih ⊢
    cases write with
    | frame frame => simp [Disk.frameOf, ih]
    | blob content reference =>
      by_cases before : reference.offset < spoolPrefix
      · simp [before, List.filterMap_cons, Disk.frameOf, ih]
      · simp [before, List.filterMap_cons, Disk.frameOf, ih]

end Klura
