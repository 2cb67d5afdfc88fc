import Klura.Library.Machine
import Klura.Moves.Execution
import Klura.Moves.Journal
import Klura.Run.Listing

/-! The execution epochs of a resumed run's frames, against the check its next recovery makes. -/

namespace Klura

open Program

variable {env : RunEnvironment} {permits : TurnPermissionV1}

/-- The epoch that a journal's frames, given newest first, have come to, when each one is legal. -/
def foldEpochs : List JournalFrameV1 → Except RunError Nat
  | [] => .ok 0
  | frame :: older => do
    let current ← foldEpochs older
    advanceExecutionEpoch frame.body current

/-- What the reader makes of an event leaves the epoch as it was. -/
def KeepsEpoch (recovery : RecoveryStateV1) (check : Except RunError RecoveryStateV1) : Prop :=
  Passes check fun next => next.executionEpoch = recovery.executionEpoch

theorem recoverEnqueuedNode_epoch (disk : Disk) (recovery : RecoveryStateV1) (nodeId : RunNodeIdV1)
    (keyDigest : Sha256DigestV1) (nodeState : BlobRefV1) (taskKindId : StableContractIdV1)
    (rootOrdinal : Nat) (seedOrdinal : Option Nat) (depth outputOrdinal : Nat) :
    KeepsEpoch recovery (recoverEnqueuedNode env disk recovery nodeId keyDigest nodeState taskKindId
      rootOrdinal seedOrdinal depth outputOrdinal) := by
  refine Passes.ite (fun _ => Passes.error _) fun _ => ?_
  refine Passes.ite (fun _ => Passes.error _) fun _ => ?_
  exact Passes.next fun _ _ => Passes.ite (fun _ => Passes.error _) fun _ => Passes.ok rfl

theorem recoverBufferedItem_epoch (recovery : RecoveryStateV1) (nodeId : RunNodeIdV1)
    (identityDigest : Sha256DigestV1) (data : BlobRefV1) (logicalOrder : ItemLogicalOrderV1) :
    KeepsEpoch recovery (recoverBufferedItem recovery nodeId identityDigest data logicalOrder) := by
  refine Passes.next fun _ _ => Passes.ite (fun _ => Passes.error _) fun _ => ?_
  exact Passes.ite (fun _ => Passes.error _) fun _ => Passes.ok rfl

theorem recoverCommittedItem_epoch (recovery : RecoveryStateV1) (nodeId : RunNodeIdV1)
    (identityDigest : Sha256DigestV1) (logicalOrder : ItemLogicalOrderV1) (itemSequence : Nat) :
    KeepsEpoch recovery
      (recoverCommittedItem recovery nodeId identityDigest logicalOrder itemSequence) := by
  refine Passes.next fun _ _ => Passes.ite (fun _ => Passes.error _) fun _ => ?_
  refine Passes.ite (fun _ => Passes.error _) fun _ => ?_
  refine Passes.ite (fun _ => Passes.error _) fun _ => ?_
  exact Passes.ite (fun _ => Passes.error _) fun _ => Passes.ok rfl

theorem recoverDuplicateItem_epoch (recovery : RecoveryStateV1) (nodeId : RunNodeIdV1)
    (identityDigest : Sha256DigestV1) (logicalOrder : ItemLogicalOrderV1) :
    KeepsEpoch recovery (recoverDuplicateItem recovery nodeId identityDigest logicalOrder) := by
  refine Passes.next fun _ _ => Passes.ite (fun _ => Passes.error _) fun _ => ?_
  exact Passes.ite (fun _ => Passes.error _) fun _ => Passes.ok rfl

theorem recoverProgressedNode_epoch (disk : Disk) (recovery : RecoveryStateV1)
    (nodeId : RunNodeIdV1) (nodeState : BlobRefV1) :
    KeepsEpoch recovery (recoverProgressedNode env disk recovery nodeId nodeState) := by
  refine Passes.next fun _ _ => Passes.next fun _ _ => ?_
  exact Passes.ite (fun _ => Passes.error _) fun _ => Passes.ok rfl

theorem advanceSinkCommit_epoch (recovery : RecoveryStateV1)
    (throughItemSequence byteOffset : Nat) (prefixDigest : Sha256DigestV1) :
    KeepsEpoch recovery
      (advanceSinkCommit recovery throughItemSequence byteOffset prefixDigest) := by
  refine Passes.ite (fun _ => Passes.error _) fun _ => ?_
  exact Passes.ite (fun _ => Passes.error _) fun _ => Passes.ok rfl

theorem recoverReplayAuthorization_epoch (recovery : RecoveryStateV1) (executionEpoch : Nat)
    (nodeId : RunNodeIdV1) (taskKindId : StableContractIdV1) :
    KeepsEpoch recovery
      (recoverReplayAuthorization recovery executionEpoch nodeId taskKindId) := by
  refine Passes.ite (fun _ => Passes.error _) fun _ => ?_
  split
  · exact Passes.error _
  · refine Passes.ite (fun _ => Passes.error _) fun _ => ?_
    exact Passes.ite (fun _ => Passes.error _) fun _ => Passes.ok rfl

theorem recoverLifecycleEvent_epoch (recovery : RecoveryStateV1) (event : JournalEventV1) :
    KeepsEpoch recovery (recoverLifecycleEvent recovery event) := by
  unfold recoverLifecycleEvent
  split
  · refine Passes.next fun _ _ => Passes.ite (fun _ => Passes.error _) fun _ => ?_
    exact Passes.ite (fun _ => Passes.error _) fun _ => Passes.ok rfl
  · refine Passes.next fun _ _ => Passes.ite (fun _ => Passes.error _) fun _ => ?_
    exact Passes.ite (fun _ => Passes.error _) fun _ => Passes.ok rfl
  · refine Passes.next fun _ _ => Passes.ite (fun _ => Passes.error _) fun _ => ?_
    exact Passes.ite (fun _ => Passes.error _) fun _ => Passes.ok rfl
  · exact Passes.next fun _ _ => Passes.next fun _ _ => Passes.ok rfl
  · refine Passes.next fun _ _ => Passes.ite (fun _ => Passes.error _) fun _ => ?_
    exact Passes.ite (fun _ => Passes.error _) fun _ => Passes.ok rfl
  · exact Passes.ok rfl

theorem recoverEvent_epoch (disk : Disk) (recovery : RecoveryStateV1) (isFirst : Bool)
    (epoch : Nat) (event : JournalEventV1) :
    KeepsEpoch recovery (recoverEvent env disk recovery isFirst epoch event) := by
  unfold recoverEvent
  split
  · exact Passes.ok rfl
  · exact Passes.ite (fun _ => Passes.error _) fun _ => Passes.ok rfl
  · exact Passes.ite (fun _ => Passes.ok rfl) fun _ => Passes.error _
  · exact recoverEnqueuedNode_epoch disk recovery _ _ _ _ _ _ _ _
  · exact recoverBufferedItem_epoch recovery _ _ _ _
  · exact recoverCommittedItem_epoch recovery _ _ _ _
  · exact recoverDuplicateItem_epoch recovery _ _ _
  · exact advanceSinkCommit_epoch recovery _ _ _
  · exact recoverProgressedNode_epoch disk recovery _ _
  · exact recoverReplayAuthorization_epoch recovery _ _ _
  · exact recoverLifecycleEvent_epoch recovery _

theorem recoverFrame_epoch (disk : Disk) (recovery : RecoveryStateV1) (isFirst : Bool)
    (body : JournalFrameBodyV1) :
    Passes (recoverFrame env disk recovery isFirst body) fun next =>
      advanceExecutionEpoch body recovery.executionEpoch = .ok next.executionEpoch := by
  refine Passes.next fun epoch advances => Passes.next fun _ _ => ?_
  refine Passes.ite (fun _ => Passes.error _) fun _ => ?_
  refine Passes.mono (recoverEvent_epoch disk _ isFirst body.executionEpoch body.event) ?_
  intro next same
  rw [same]
  exact advances

theorem recoverInitialNodes_epoch (disk : Disk) (references : List BlobRefV1)
    (recovery : RecoveryStateV1) (index : Nat) :
    KeepsEpoch recovery (recoverInitialNodes env disk recovery index references) := by
  induction references generalizing recovery index with
  | nil => exact Passes.ok rfl
  | cons reference rest ih =>
    have one : KeepsEpoch recovery (recoverInitialNode env disk recovery index reference) := by
      refine Passes.next fun _ _ => Passes.ite (fun _ => Passes.error _) fun _ => ?_
      refine Passes.ite (fun _ => Passes.error _) fun _ => ?_
      exact Passes.ite (fun _ => Passes.error _) fun _ => Passes.ok rfl
    refine Passes.bind _ one fun next same => Passes.mono (ih next (index + 1)) fun last kept => ?_
    exact kept.trans same

theorem recoverFrames_epochs (disk : Disk) (frames : List JournalFrameV1) :
    Passes (recoverFrames env disk frames) fun recovery =>
      foldEpochs frames = .ok recovery.executionEpoch := by
  induction frames with
  | nil => exact Passes.error _
  | cons frame older ih =>
    cases older with
    | nil =>
      -- The first frame is read against a reader that has come to no epoch yet.
      have first : Passes (recoverFirstFrame env disk frame.body) fun recovery =>
          recovery.executionEpoch = 0 := by
        unfold recoverFirstFrame
        split
        · exact Passes.ite (fun _ => Passes.error _) fun _ => recoverInitialNodes_epoch disk _ _ 0
        · exact Passes.error _
      refine Passes.bind _ first fun recovery zero => ?_
      refine Passes.mono (recoverFrame_epoch disk recovery true frame.body) fun next advances => ?_
      rw [zero] at advances
      exact advances
    | cons second oldest =>
      refine Passes.bind _ ih fun recovery folded => ?_
      refine Passes.mono (recoverFrame_epoch disk recovery false frame.body) fun next advances => ?_
      unfold foldEpochs
      rw [folded]
      exact advances

theorem recoverRunState_epochs (disk : Disk) :
    Passes (recoverRunState env disk) fun recovered =>
      foldEpochs disk.frames = .ok recovered.lastExecutionEpoch := by
  refine Passes.mapError _ ?_
  refine Passes.bind _ (recoverFrames_epochs disk disk.frames) fun recovery folded => ?_
  exact Passes.next fun _ _ => Passes.ok folded

/-! Frames of one execution. -/

/-- A world whose journal has come to the epoch its next frame will carry. -/
def Aligned (world : World) : Prop :=
  foldEpochs world.disk.frames = .ok world.state.executionEpoch

theorem Aligned.of_cursor {world next : World} (aligned : Aligned world)
    (same : next.cursor = world.cursor) : Aligned next := by
  have frames : next.disk.frames = world.disk.frames := congrArg JournalCursorV1.frames same
  have epoch : next.state.executionEpoch = world.state.executionEpoch :=
    congrArg JournalCursorV1.executionEpoch same
  unfold Aligned
  rw [frames, epoch]
  exact aligned

theorem advanceExecutionEpoch_within {body : JournalFrameBodyV1} {current : Nat}
    (within : body.event.beginsEpoch = false) (carries : body.executionEpoch = current) :
    advanceExecutionEpoch body current = .ok current := by
  unfold advanceExecutionEpoch
  split
  · rename_i begins
    rw [begins] at within
    cases within
  · rw [if_neg (not_not.mpr carries)]

theorem Aligned.appended {world : World} {frame : JournalFrameV1} {event : JournalEventV1}
    (aligned : Aligned world) (within : event.beginsEpoch = false)
    (carries : frame.body = world.state.nextBody env event) : Aligned (world.appended frame) := by
  show (do
    let current ← foldEpochs world.disk.frames
    advanceExecutionEpoch frame.body current) = .ok world.state.executionEpoch
  unfold Aligned at aligned
  rw [aligned, carries]
  exact advanceExecutionEpoch_within within rfl

theorem Recorded.aligned {world next : World} {event : JournalEventV1}
    (recorded : Recorded env event world next) (within : event.beginsEpoch = false)
    (aligned : Aligned world) : Aligned next := by
  obtain ⟨_, frame, appends, rfl⟩ := recorded
  exact aligned.appended within (appendJournalFrame_passes _ _ _ _ _ frame appends).carries

theorem RecordedEmergency.aligned {world next : World} {event : JournalEventV1}
    (recorded : RecordedEmergency env event world next) (within : event.beginsEpoch = false)
    (aligned : Aligned world) : Aligned next := by
  obtain ⟨frame, appends, rfl⟩ := recorded
  exact aligned.appended within (appendEmergencyJournalFrame_passes _ _ _ _ frame appends).carries

theorem ChainMove.aligned {entry : BatchEntryV1} {world next : World} {stage after : StageV1}
    (moves : ChainMove env entry permits (world, stage) (next, after)) (aligned : Aligned world) :
    Aligned next := by
  cases moves.journals with
  | kept same => exact aligned.of_cursor same
  | worked event middle within recorded same =>
    exact (recorded.aligned within aligned).of_cursor same
  | reasoned nodeId taskKindId stop message middle recorded same =>
    exact (recorded.aligned rfl aligned).of_cursor same

/-- Whether a run has announced the epoch it writes in. -/
def RunModeV1.announced : RunModeV1 → Bool
  | .reopening .. | .announcing .. => false
  | _ => true

/-- A run whose frames are those of an epoch it has announced. -/
def Announced (point : RunPointV1) : Prop :=
  point.mode.announced = true ∧ Aligned point.world

theorem RunMove.keepsAnnounced : Keeps (RunMove env permits) Announced := by
  rintro before after moves ⟨announced, aligned⟩
  cases moves with
  | chain moves => exact ⟨announced, moves.aligned aligned⟩
  | quiet quiet => exact ⟨announced, aligned.of_cursor quiet.cursor⟩
  | cancelled unasked open_ recorded => exact ⟨announced, recorded.aligned rfl aligned⟩
  | created recorded => exact ⟨rfl, recorded.aligned rfl aligned⟩
  | authorized recorded => exact ⟨rfl, recorded.aligned rfl aligned⟩
  | skipped recorded => exact ⟨rfl, (recorded.aligned rfl aligned).of_cursor rfl⟩
  | enqueued recorded fits => exact ⟨rfl, (recorded.aligned rfl aligned).of_cursor rfl⟩
  | completed recorded => exact ⟨rfl, (recorded.aligned rfl aligned).of_cursor rfl⟩
  | explained recorded => exact ⟨rfl, recorded.aligned rfl aligned⟩
  | prepared holds names recorded => exact ⟨rfl, recorded.aligned rfl aligned⟩
  | published recorded => exact ⟨rfl, recorded.aligned rfl aligned⟩
  | terminated recorded => exact ⟨rfl, recorded.aligned rfl aligned⟩
  | publishedTerminal recorded kind stop summary => exact ⟨rfl, recorded.aligned rfl aligned⟩
  | expanded expands =>
    obtain ⟨ordinal, grows, rfl⟩ := expanded_numbered expands
    exact ⟨rfl, aligned⟩
  | epochTaken => cases announced
  | announced recorded => cases announced
  | _ => first | exact ⟨announced, aligned⟩ | exact ⟨rfl, aligned⟩

/-! The frames of a resume. -/

/-- A resume whose next epoch is announced before any other frame carries it: the sink it opens is
followed by no aborted signal, and an ordinary frame is left for the announcement. -/
def AnnouncesEpoch (env : RunEnvironment) (plan : ResumePlanV1)
    (aborted : Option RunCancellationSourceV1) : Prop :=
  ∀ sink, openFileRunOutputSink env plan.committedItems = .ok sink →
    aborted = none ∧ hasOrdinaryJournalCapacity plan.state 1 = true

/-- A resumed run that has ended, or that writes within the epoch it has announced. -/
def WithinEpochs (execution : ExecutionV1) : Prop :=
  (execution.outcome = none → Aligned execution.world) ∧
    ∃ epoch, foldEpochs execution.world.disk.frames = .ok epoch

theorem WithinEpochs.of_moves {start : RunPointV1} {execution : ExecutionV1}
    (announced : Announced start) (moves : RunMoves env permits start execution.point) :
    WithinEpochs execution := by
  have reached : Announced execution.point := RunMove.keepsAnnounced.many moves announced
  have aligned : Aligned execution.world := reached.2
  exact ⟨fun _ => aligned, _, aligned⟩

theorem tryOpenSink_epoch (items : List JsonValueV1) (world : World) :
    wp (tryOpenSink env items)
      (fun finished next => match finished with
        | none => next.cursor = world.cursor ∧ ∃ sink, openFileRunOutputSink env items = .ok sink
        | some result => Ends env permits ⟨world, [], .serving⟩ result next)
      (fun error => Breaks env permits ⟨world, [], .serving⟩ error) world := by
  unfold tryOpenSink openSink
  rw [wp_tryCatch, wp_bind, wp_bind]
  refine wp_mono (orThrow_spec _ world) ?_ (fun error next same => ?_)
  · intro sink next opened
    obtain ⟨same, opens⟩ := opened
    subst next
    exact ⟨rfl, sink, opens⟩
  · subst same
    split
    · exact RunMoves.breaks error .refl
    · -- The refused sink ends the run before its epoch is touched.
      rw [wp_bind]
      refine wp_mono (finish_spec next [] .serving .outputSinkFailure rfl)
        (fun result final moves => ⟨[], moves⟩) (fun error final failed => ?_)
      obtain ⟨after, moves⟩ := failed
      exact RunMoves.breaks error moves

theorem Recorded.announces {world next : World} {current : Nat}
    (folded : foldEpochs world.disk.frames = .ok current)
    (taken : world.state.executionEpoch = current + 1)
    (recorded : Recorded env (.stateChanged (.running (current + 1))) world next) :
    Aligned next := by
  obtain ⟨_, frame, appends, rfl⟩ := recorded
  have carries := (appendJournalFrame_passes _ _ _ _ _ frame appends).carries
  show (do
    let current ← foldEpochs world.disk.frames
    advanceExecutionEpoch frame.body current) = .ok world.state.executionEpoch
  rw [folded, carries]
  -- The frame carries the epoch it announces, which is the one after the current one.
  show (if current + 1 ≠ world.state.executionEpoch ∨
      world.state.executionEpoch ≠ current + 1 then _ else _) = _
  rw [if_neg (by omega)]
  rfl

/-- A resume that announces its epoch writes no frame before the announcement. -/
theorem relaunchRun_epochs {recovered : RecoveredRunStateV1} {aborted : Option RunCancellationSourceV1}
    {items : List JsonValueV1} {world : World} (replayNodes : List RecoveryNodeV1)
    (aligned : Aligned world) (current : world.state.executionEpoch = recovered.lastExecutionEpoch)
    (unasked : world.cancellationRequested = false)
    (announces : ∀ sink, openFileRunOutputSink env items = .ok sink →
      aborted = none ∧ hasOrdinaryJournalCapacity world.state 1 = true) :
    wp (relaunchRun env recovered replayNodes aborted items)
      (fun flow next => match flow with
        | .batch chains => ∃ start, Announced start ∧
            RunMoves env permits start ⟨next, activeSlots chains, .serving⟩
        | .result result => ∃ start, Announced start ∧ Ends env permits start result next)
      (fun error next => (∃ start, Announced start ∧ Breaks env permits start error next) ∨
        next.disk.frames = world.disk.frames) world := by
  have serving : Announced ⟨world, [], .serving⟩ := ⟨rfl, aligned⟩
  unfold relaunchRun
  rw [wp_bind]
  refine wp_mono (@tryOpenSink_epoch env permits items world) (fun finished opened opens => ?_)
    (fun error final breaks => .inl ⟨_, serving, breaks⟩)
  cases finished with
  | some result => exact ⟨_, serving, opens⟩
  | none =>
    obtain ⟨same, sink, found⟩ := opens
    obtain ⟨unaborted, capacity⟩ := announces sink found
    subst unaborted
    have frames : opened.disk.frames = world.disk.frames := congrArg JournalCursorV1.frames same
    have sequence : opened.state.sequence = world.state.sequence :=
      congrArg JournalCursorV1.sequence same
    have maximum : opened.state.maximumJournalFrames = world.state.maximumJournalFrames :=
      congrArg JournalCursorV1.maximumJournalFrames same
    dsimp only
    rw [modifyState, wp_bind, wp_modify, wp_bind]
    -- From here on only the next epoch tells the world apart from the one that was opened.
    generalize taken : ({ opened with state := { opened.state with
      executionEpoch := recovered.lastExecutionEpoch + 1 } } : World) = next
    have folded : foldEpochs next.disk.frames = .ok recovered.lastExecutionEpoch := by
      rw [← taken, ← current]
      show foldEpochs opened.disk.frames = _
      rw [frames]
      exact aligned
    have epoch : next.state.executionEpoch = recovered.lastExecutionEpoch + 1 := by rw [← taken]
    have listening : ¬next.cancellationRequested = true := by
      rw [← taken]
      show ¬opened.cancellationRequested = true
      have kept : opened.cancellationRequested = world.cancellationRequested :=
        congrArg JournalCursorV1.cancellationRequested same
      rw [kept, unasked]
      exact Bool.false_ne_true
    have room : hasOrdinaryJournalCapacity next.state 1 = true := by
      rw [← taken, ← capacity]
      show hasOrdinaryJournalCapacity opened.state 1 = _
      unfold hasOrdinaryJournalCapacity
      rw [sequence, maximum]
    have written : next.disk.frames = world.disk.frames := by rw [← taken]; exact frames
    unfold cancelOnStart
    rw [wp_bind, wp_get, wp_pure, wp_bind, wp_get, if_neg listening, wp_bind]
    unfold announceEpoch
    rw [wp_bind, wp_get, wp_bind]
    refine wp_mono (append_spec _ next) (fun recorded announced append => ?_)
      (fun error final unchanged => .inr ?_)
    · cases recorded with
      | false =>
        -- The announcement is not refused, because the frame for it is left.
        rw [append.2] at room
        cases room
      | true =>
        have announcing : Recorded env (.stateChanged (.running next.state.executionEpoch)) next
          announced := append
        rw [epoch] at announcing
        have authorizing : Announced ⟨announced, [], .authorizing recovered replayNodes⟩ :=
          ⟨rfl, announcing.announces folded epoch⟩
        simp only [Bool.not_true, Bool.false_eq_true, if_false]
        refine wp_mono (@authorizeReplays_spec env permits recovered replayNodes announced)
          (fun finished authorized authorizes => ?_)
          (fun error final breaks => .inl ⟨_, authorizing, breaks⟩)
        cases finished with
        | some result => exact ⟨_, authorizing, [], authorizes⟩
        | none =>
          refine wp_mono (@requeueRun_spec env permits recovered authorized)
            (fun flow next ends => ?_)
            (fun error final breaks => .inl ⟨_, authorizing, breaks.after authorizes⟩)
          cases flow with
          | batch chains => exact ⟨_, authorizing, authorizes.trans ends⟩
          | result result => exact ⟨_, authorizing, Ends.after authorizes ends⟩
    · rw [unchanged]
      exact written

/-- The executions that a resume of a stored run goes through, until it returns. -/
def resumeMachine (env : RunEnvironment) (disk : Disk) (aborted : Option RunCancellationSourceV1) :
    Machine ExecutionV1 RunEventV1 where
  starts execution := ∃ clock linkSucceeds,
    resume env disk aborted clock linkSucceeds = .ok execution
  step execution event after := execution.outcome = none ∧ execution.step env event = some after

theorem rehydrateExecutionState_epoch {disk : Disk} {state : ExecutionStateV1} {epoch : Nat}
    (rehydrates : rehydrateExecutionState env disk = .ok state)
    (folded : foldEpochs disk.frames = .ok epoch) : state.executionEpoch = epoch := by
  have last : Passes (rehydrateExecutionState env disk) fun state =>
      ∃ frame older, disk.frames = frame :: older ∧
        state.executionEpoch = frame.body.executionEpoch := by
    refine Passes.next fun _ _ => Passes.next fun _ _ => ?_
    refine Passes.ite (fun _ => Passes.error _) fun _ => Passes.next fun _ _ => ?_
    split
    · exact Passes.error _
    · rename_i frame older frames
      exact Passes.ok ⟨frame, older, frames, rfl⟩
  obtain ⟨frame, older, frames, carried⟩ := last state rehydrates
  rw [frames] at folded
  have advanced : Passes (foldEpochs (frame :: older)) fun epoch =>
      epoch = frame.body.executionEpoch := by
    refine Passes.next fun current _ => ?_
    unfold advanceExecutionEpoch
    split
    · exact Passes.ite (fun _ => Passes.error _) fun _ => Passes.ok rfl
    · exact Passes.ite (fun _ => Passes.error _) fun same => Passes.ok (not_not.mp same).symm
  rw [carried, advanced epoch folded]

/-- A resume that announces its epoch starts within its epochs. -/
theorem resume_withinEpochs {disk : Disk} {aborted : Option RunCancellationSourceV1}
    {clock : List Bool} {linkSucceeds : Bool} {execution : ExecutionV1}
    (announces : ∀ plan, planResume env disk = .ok plan → AnnouncesEpoch env plan aborted)
    (resumes : resume env disk aborted clock linkSucceeds = .ok execution) :
    WithinEpochs execution := by
  unfold resume at resumes
  cases plans : planResume env disk with
  | error error => rw [plans] at resumes; cases resumes
  | ok plan =>
    rw [plans] at resumes
    cases resumes
    have read := planResume_reads plans
    have folded : foldEpochs plan.disk.frames = .ok plan.recovered.lastExecutionEpoch := by
      rw [read.truncated, truncateSpool_frames]
      exact recoverRunState_epochs disk plan.recovered read.recovers
    obtain ⟨state, rehydrates, states⟩ := read.rehydrates
    have current : plan.state.executionEpoch = plan.recovered.lastExecutionEpoch := by
      have carried := rehydrateExecutionState_epoch rehydrates folded
      rw [states]
      exact carried
    have aligned : Aligned (plan.world env clock linkSucceeds) := by
      show foldEpochs plan.disk.frames = .ok plan.state.executionEpoch
      rw [current]
      exact folded
    have ends := wp_runProgram (@relaunchRun_epochs env ⟨True, True, fun _ => True⟩ plan.recovered aborted
      plan.committedItems (plan.world env clock linkSucceeds) plan.replayNodes aligned current rfl
      (announces plan plans))
    -- How the relaunch ended decides what the execution is.
    cases ran : runProgram (relaunchRun env plan.recovered plan.replayNodes aborted
        plan.committedItems) (plan.world env clock linkSucceeds) with
    | mk outcome next =>
      rw [ran] at ends
      have folds : foldEpochs (plan.world env clock linkSucceeds).disk.frames =
        .ok plan.recovered.lastExecutionEpoch := folded
      unfold ResumePlanV1.world at ran
      rw [ran]
      cases outcome with
      | error error =>
        rcases ends with ⟨start, announced, slots, moves⟩ | unchanged
        · exact WithinEpochs.of_moves announced (moves.tail .dropped)
        · refine ⟨nofun, plan.recovered.lastExecutionEpoch, ?_⟩
          show foldEpochs next.disk.frames = _
          rw [unchanged]
          exact folds
      | ok flow =>
        cases flow with
        | batch chains =>
          obtain ⟨start, announced, moves⟩ := ends
          exact WithinEpochs.of_moves announced moves
        | result result =>
          obtain ⟨start, announced, slots, moves⟩ := ends
          exact WithinEpochs.of_moves announced (moves.tail .dropped)

/-- Every frame that a resume writes has the epoch the next recovery expects of it, when the epoch
is announced before anything else is written. -/
theorem resume_keeps_epochs (env : RunEnvironment) (disk : Disk)
    (aborted : Option RunCancellationSourceV1)
    (announces : ∀ plan, planResume env disk = .ok plan → AnnouncesEpoch env plan aborted)
    (execution : ExecutionV1)
    (reached : (resumeMachine env disk aborted).Reaches (fun _ _ => True) execution) :
    ∃ epoch, foldEpochs execution.world.disk.frames = .ok epoch := by
  have within : WithinEpochs execution := by
    refine Machine.Reaches.invariant ?_ ?_ reached
    · intro state starts
      obtain ⟨clock, linkSucceeds, resumes⟩ := starts
      exact resume_withinEpochs announces resumes
    · intro state event after _ step kept
      obtain ⟨running, steps⟩ := step
      -- A step of a running execution is a sequence of moves from an announced point.
      have start : Announced state.point := by
        refine ⟨?_, kept.1 running⟩
        unfold ExecutionV1.point ExecutionV1.mode
        rw [running]
        rfl
      exact WithinEpochs.of_moves start (step_moves steps)
  exact within.2

/-- The writes of a listing run that was interrupted as soon as it was created. -/
def interruptedListing : Disk :=
  startupRecovery onePageListing
    (runProgram (createRun onePageListing (initialNodesFrom onePageListing 0 (listRoots 1)))
      (creationWorld onePageListing (listRoots 1) [] true)).2.disk true

/-- A resume of the interrupted listing keeps its epochs when its signal is not aborted. -/
theorem resume_keeps_epochs_listing : ∃ execution,
    resume onePageListing interruptedListing none [] true = .ok execution ∧
      ∃ epoch, foldEpochs execution.world.disk.frames = .ok epoch := by
  have resumes : passesTest (resume onePageListing interruptedListing none [] true)
      (fun execution => execution.outcome.isNone) = true := by decide +kernel
  have room : passesTest (planResume onePageListing interruptedListing)
      (fun plan => hasOrdinaryJournalCapacity plan.state 1) = true := by decide +kernel
  obtain ⟨execution, started, _⟩ := passesTest_spec resumes
  refine ⟨execution, started, ?_⟩
  exact resume_keeps_epochs onePageListing interruptedListing none
    (fun plan plans sink _ => ⟨rfl, passesTest_accepts room plan plans⟩) execution
    (.start ⟨[], true, started⟩)

/-- A resume whose signal is aborted already writes its cancellation in an epoch that it has not
announced, and the next recovery refuses the journal. -/
theorem aborted_resume_breaks_epochs : ∃ execution,
    (resumeMachine onePageListing interruptedListing (some .sdkCancel)).Reaches (fun _ _ => True)
        execution ∧
      foldEpochs execution.world.disk.frames =
        .error (.runRecovery "journal frame has an invalid execution epoch") ∧
      recoverRunState onePageListing execution.world.disk =
        .error (.runRecovery "journal frame has an invalid execution epoch") := by
  have breaks : passesTest
      (resume onePageListing interruptedListing (some .sdkCancel) [] true)
      (fun execution =>
        failsWith (foldEpochs execution.world.disk.frames)
          (.runRecovery "journal frame has an invalid execution epoch") &&
        failsWith (recoverRunState onePageListing execution.world.disk)
          (.runRecovery "journal frame has an invalid execution epoch")) = true := by
    decide +kernel
  obtain ⟨execution, started, refused⟩ := passesTest_spec breaks
  obtain ⟨folds, recovers⟩ := Bool.and_eq_true_iff.mp refused
  exact ⟨execution, .start ⟨[], true, started⟩, failsWith_spec folds, failsWith_spec recovers⟩

end Klura
