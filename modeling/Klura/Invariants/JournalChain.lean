import Klura.Moves.Life
import Klura.Run.Listing
import Klura.Run.StoredRun

/-! The journal of a run over its whole life: one chain of frames, within its budgets, that counts
what the run has counted. -/

namespace Klura

open Program

variable {env : RunEnvironment} {permits : TurnPermissionV1}

/-! What one frame adds to a journal. -/

/-- Whether an event is written from the terminalization allowance. -/
def JournalEventV1.isEmergency : JournalEventV1 → Bool
  | .stopReason .. | .interrupted _ | .cancelRequested _ | .outputPrepared .. | .outputCommitted ..
  | .terminal .. => true
  | _ => false

/-- What an event has to leave of a reserve that only the end of a run may use. -/
def JournalEventV1.leaves (event : JournalEventV1) (reserve : Nat) : Nat :=
  if event.isEmergency then 0 else reserve

/-- What the frames of a journal count of the items and the tasks they settle. -/
structure JournalTallyV1 where
  identityDigests : List Sha256DigestV1
  itemsDuplicate : Nat
  tasksCompleted : Nat

/-- The tally after one more event. -/
def JournalTallyV1.after (tally : JournalTallyV1) : JournalEventV1 → JournalTallyV1
  | .itemCommitted _ identityDigest _ _ =>
    { tally with identityDigests := identityDigest :: tally.identityDigests }
  | .itemDuplicate .. => { tally with itemsDuplicate := tally.itemsDuplicate + 1 }
  | .taskCompleted .. => { tally with tasksCompleted := tally.tasksCompleted + 1 }
  | _ => tally

/-- The tally of a journal's frames, which are given newest first. -/
def journalTally : List JournalFrameV1 → JournalTallyV1
  | [] => { identityDigests := [], itemsDuplicate := 0, tasksCompleted := 0 }
  | frame :: older => (journalTally older).after frame.body.event

/-- Whether an event may follow a journal's frames, as far as the items it commits say. -/
def JournalEventV1.MayFollow (event : JournalEventV1) (older : List JournalFrameV1) : Prop :=
  ∀ nodeId identityDigest order itemSequence,
    event = .itemCommitted nodeId identityDigest order itemSequence →
      itemSequence = (journalTally older).identityDigests.length + 1 ∧
        identityDigest ∉ (journalTally older).identityDigests

/-- A frame that goes on from the frames before it. -/
structure Extends (env : RunEnvironment) (older : List JournalFrameV1) (frame : JournalFrameV1) :
    Prop where
  runId : frame.body.runId = env.runId
  sequence : frame.body.sequence = older.length + 1
  chained : frame.body.previousFrameDigest = older.head?.map JournalFrameV1.digest
  digest : frame.digest = env.digestOf frame.body.value
  offset : frame.offset = (older.head?.map JournalFrameV1.endOffset).getD 0
  endOffset : frame.endOffset = frame.offset + frameBytes (canonicalJson frame.body.value)
  parses : parseJournalFrameBody env frame.body "journal.frame" = .ok ()
  fits : (canonicalJson frame.body.value).length ≤ MAX_FRAME_BODY_BYTES_V1
  bytes : frame.endOffset + frame.body.event.leaves JOURNAL_EMERGENCY_BYTE_RESERVE_V1 ≤
    env.policy.durable.maxJournalBytes
  frames : frame.body.sequence + frame.body.event.leaves JOURNAL_EMERGENCY_FRAME_RESERVE_V1 ≤
    env.policy.durable.maxJournalFrames
  commits : frame.body.event.MayFollow older

/-- Every frame of a journal goes on from the frames before it. -/
def Chained (env : RunEnvironment) : List JournalFrameV1 → Prop
  | [] => True
  | frame :: older => Chained env older ∧ Extends env older frame

namespace Chained

variable {frames older newer : List JournalFrameV1} {frame : JournalFrameV1}

theorem suffix (chained : Chained env frames) (earlier : older <:+ frames) : Chained env older := by
  obtain ⟨newer, rfl⟩ := earlier
  -- The induction takes the newest frame off, one at a time.
  induction newer with
  | nil => exact chained
  | cons frame newer ih => exact ih chained.1

theorem extends_at (chained : Chained env (newer ++ frame :: older)) : Extends env older frame :=
  (chained.suffix (List.suffix_append newer (frame :: older))).2

theorem lastSequence (chained : Chained env frames) :
    (frames.head?.map fun last => last.body.sequence).getD 0 = frames.length := by
  cases frames with
  | nil => rfl
  | cons frame older => exact chained.2.sequence

end Chained

theorem Disk.frames_suffix {kept disk : Disk} (ends : kept <:+ disk) : kept.frames <:+ disk.frames := by
  obtain ⟨newer, rfl⟩ := ends
  exact ⟨newer.filterMap Disk.frameOf, (List.filterMap_append ..).symm⟩

theorem encodeJournalFrame_fits (body : JournalFrameBodyV1) :
    Passes (encodeJournalFrame env body)
      (fun _ => (canonicalJson body.value).length ≤ MAX_FRAME_BODY_BYTES_V1) :=
  Passes.next fun _ _ => Passes.ite (fun _ => Passes.error _) fun fits => Passes.ok (by omega)

theorem appendJournalFrame_fits (disk : Disk) (body : JournalFrameBodyV1)
    (maximumBytes maximumFrames reservedBytes : Nat) :
    Passes (appendJournalFrame env disk body maximumBytes maximumFrames reservedBytes)
      (fun _ => (canonicalJson body.value).length ≤ MAX_FRAME_BODY_BYTES_V1) := by
  unfold appendJournalFrame
  refine Passes.ite (fun _ => Passes.error _) fun _ => Passes.next fun _ _ => ?_
  refine Passes.ite (fun _ => Passes.error _) fun _ => ?_
  refine Passes.ite (fun _ => Passes.error _) fun _ => ?_
  refine Passes.bind _ (encodeJournalFrame_fits body) fun _ fits => ?_
  exact Passes.ite (fun _ => Passes.error _) fun _ => Passes.ok fits

theorem appendEmergencyJournalFrame_fits (disk : Disk) (body : JournalFrameBodyV1)
    (maximumBytes maximumFrames : Nat) :
    Passes (appendEmergencyJournalFrame env disk maximumBytes body maximumFrames)
      (fun _ => (canonicalJson body.value).length ≤ MAX_FRAME_BODY_BYTES_V1) := by
  unfold appendEmergencyJournalFrame
  refine Passes.ite (fun _ => Passes.error _) fun _ => Passes.next fun _ _ => ?_
  exact Passes.ite (fun _ => Passes.error _) fun _ => appendJournalFrame_fits disk body _ _ 0

/-! What the moves of a run make of its journal. -/

/-- A world whose journal is a chain, with the budgets of its run. -/
structure JournalSound (env : RunEnvironment) (world : World) : Prop where
  chained : Chained env world.disk.frames
  bytes : world.state.maximumJournalBytes = env.policy.durable.maxJournalBytes
  frames : world.state.maximumJournalFrames = env.policy.durable.maxJournalFrames

/-- What an execution state keeps of the journal it writes. -/
structure JournalAccountV1 where
  maximumJournalBytes : Nat
  maximumJournalFrames : Nat
  tally : JournalTallyV1
  itemsEmitted : Nat
  nextItemSequence : Nat

/-- The account an execution state keeps. -/
def ExecutionStateV1.account (state : ExecutionStateV1) : JournalAccountV1 :=
  { maximumJournalBytes := state.maximumJournalBytes
    maximumJournalFrames := state.maximumJournalFrames
    tally := { identityDigests := state.identityDigests
               itemsDuplicate := state.summary.itemsDuplicate
               tasksCompleted := state.summary.tasksCompleted }
    itemsEmitted := state.summary.itemsEmitted, nextItemSequence := state.nextItemSequence }

/-- The account that a tally calls for. -/
def JournalTallyV1.account (env : RunEnvironment) (tally : JournalTallyV1) : JournalAccountV1 :=
  { maximumJournalBytes := env.policy.durable.maxJournalBytes
    maximumJournalFrames := env.policy.durable.maxJournalFrames
    tally, itemsEmitted := tally.identityDigests.length
    nextItemSequence := tally.identityDigests.length + 1 }

theorem account_eq {state : ExecutionStateV1} {tally : JournalTallyV1} :
    state.account = tally.account env ↔
      state.maximumJournalBytes = env.policy.durable.maxJournalBytes ∧
      state.maximumJournalFrames = env.policy.durable.maxJournalFrames ∧
      state.account.tally = tally ∧
      state.summary.itemsEmitted = tally.identityDigests.length ∧
      state.nextItemSequence = tally.identityDigests.length + 1 := by
  unfold ExecutionStateV1.account JournalTallyV1.account
  simp only [JournalAccountV1.mk.injEq]

/-- A world whose journal is a chain that counts what the world has counted. -/
structure AccountSound (env : RunEnvironment) (world : World) : Prop where
  chained : Chained env world.disk.frames
  account : world.state.account = (journalTally world.disk.frames).account env

variable {world next : World} {event : JournalEventV1}

theorem AccountSound.journal (sound : AccountSound env world) : JournalSound env world where
  chained := sound.chained
  bytes := congrArg JournalAccountV1.maximumJournalBytes sound.account
  frames := congrArg JournalAccountV1.maximumJournalFrames sound.account

theorem AccountSound.same (sound : AccountSound env world)
    (frames : next.disk.frames = world.disk.frames)
    (account : next.state.account = world.state.account) : AccountSound env next :=
  ⟨frames ▸ sound.chained, by rw [account, frames]; exact sound.account⟩

theorem JournalEventV1.leaves_le (event : JournalEventV1) (reserve : Nat) :
    event.leaves reserve ≤ reserve := by
  unfold JournalEventV1.leaves
  split <;> omega

/-- A frame that a journal took goes on from its frames. -/
theorem AppendedFrame.extends {disk : Disk} {body : JournalFrameBodyV1} {frame : JournalFrameV1}
    {maximumFrames reservedBytes : Nat} (chained : Chained env disk.frames)
    (taken : AppendedFrame env disk body env.policy.durable.maxJournalBytes maximumFrames
      reservedBytes frame)
    (runId : body.runId = env.runId)
    (fits : (canonicalJson body.value).length ≤ MAX_FRAME_BODY_BYTES_V1)
    (bytes : body.event.leaves JOURNAL_EMERGENCY_BYTE_RESERVE_V1 ≤ reservedBytes)
    (frames : body.sequence + body.event.leaves JOURNAL_EMERGENCY_FRAME_RESERVE_V1 ≤
      env.policy.durable.maxJournalFrames)
    (follows : body.event.MayFollow disk.frames) : Extends env disk.frames frame := by
  have room := taken.bytes
  have ends := taken.endOffset
  have carries := taken.carries
  subst carries
  exact {
    runId
    sequence := by rw [taken.contiguous, chained.lastSequence]
    chained := taken.chained
    digest := taken.digest
    offset := taken.offset
    endOffset := by rw [ends, taken.offset]
    parses := taken.parses
    fits
    bytes := by omega
    frames
    commits := follows }

theorem JournalSound.recorded (sound : JournalSound env world)
    (recorded : Recorded env event world next) (follows : event.MayFollow world.disk.frames) :
    ∃ frame, frame.body.event = event ∧ next = world.appended frame ∧
      Extends env world.disk.frames frame := by
  obtain ⟨capacity, frame, appends, rfl⟩ := recorded
  have taken := appendJournalFrame_passes _ _ _ _ _ frame appends
  have fits := appendJournalFrame_fits _ _ _ _ _ frame appends
  refine ⟨frame, by rw [taken.carries]; rfl, rfl, ?_⟩
  -- An ordinary frame leaves the frame reserve, which its capacity was asked for.
  have room := of_decide_eq_true (Bool.and_eq_true_iff.mp capacity).2
  rw [sound.frames] at room
  have leaves := event.leaves_le JOURNAL_EMERGENCY_FRAME_RESERVE_V1
  refine taken.extends sound.chained rfl fits (event.leaves_le _) ?_ follows
  show world.state.sequence + 1 + event.leaves JOURNAL_EMERGENCY_FRAME_RESERVE_V1 ≤ _
  omega

theorem JournalSound.recordedEmergency (sound : JournalSound env world)
    (recorded : RecordedEmergency env event world next) (emergency : event.isEmergency = true) :
    ∃ frame, frame.body.event = event ∧ next = world.appendedEmergency frame ∧
      Extends env world.disk.frames frame := by
  obtain ⟨frame, appends, rfl⟩ := recorded
  have taken := appendEmergencyJournalFrame_passes _ _ _ _ frame appends
  have fits := appendEmergencyJournalFrame_fits _ _ _ _ frame appends
  rw [sound.bytes] at taken
  refine ⟨frame, by rw [taken.carries]; rfl, rfl, ?_⟩
  -- The end of a run leaves nothing of the reserves, so its frames only have to fit.
  have nothing (reserve : Nat) : event.leaves reserve = 0 := if_pos emergency
  have room := taken.room
  rw [sound.frames] at room
  have sequence := taken.contiguous
  rw [sound.chained.lastSequence] at sequence
  refine taken.extends sound.chained rfl fits (nothing _).le ?_ ?_
  · show (world.state.nextBody env event).sequence + event.leaves _ ≤ _
    rw [nothing, sequence]
    omega
  · intro nodeId identityDigest order itemSequence commits
    have commits : event = _ := commits
    rw [commits] at emergency
    cases emergency

/-- A journal that takes one more frame stays a chain, with the budgets of its run. -/
theorem JournalSound.ended (sound : JournalSound env world)
    (recorded : RecordedEmergency env event world next) (emergency : event.isEmergency = true) :
    JournalSound env next := by
  obtain ⟨frame, _, rfl, goesOn⟩ := sound.recordedEmergency recorded emergency
  exact ⟨⟨sound.chained, goesOn⟩, sound.bytes, sound.frames⟩

/-- A recorded event leads to a state that accounts for it. -/
theorem AccountSound.settled {middle : World} (sound : AccountSound env world)
    (recorded : Recorded env event world middle) (follows : event.MayFollow world.disk.frames)
    (frames : next.disk.frames = middle.disk.frames)
    (accounts : ∀ frame, middle = world.appended frame → next.state.account =
      ((journalTally world.disk.frames).after event).account env) : AccountSound env next := by
  obtain ⟨frame, rfl, same, goesOn⟩ := sound.journal.recorded recorded follows
  have disk : next.disk.frames = frame :: world.disk.frames := by rw [frames, same]; rfl
  exact ⟨disk ▸ ⟨sound.chained, goesOn⟩, by rw [disk]; exact accounts frame same⟩

/-- An event that settles no item and no task. -/
def JournalEventV1.settlesNothing : JournalEventV1 → Bool
  | .itemCommitted .. | .itemDuplicate .. | .taskCompleted .. => false
  | _ => true

theorem JournalEventV1.settlesNothing_after (nothing : event.settlesNothing = true)
    (tally : JournalTallyV1) : tally.after event = tally := by
  cases event with
  | itemCommitted => cases nothing
  | itemDuplicate => cases nothing
  | taskCompleted => cases nothing
  | _ => rfl

theorem JournalEventV1.settlesNothing_follows (nothing : event.settlesNothing = true)
    (older : List JournalFrameV1) : event.MayFollow older := by
  rintro nodeId identityDigest order itemSequence rfl
  cases nothing

theorem AccountSound.recorded (sound : AccountSound env world)
    (recorded : Recorded env event world next) (nothing : event.settlesNothing = true) :
    AccountSound env next := by
  refine sound.settled recorded (event.settlesNothing_follows nothing _) rfl fun frame same => ?_
  rw [event.settlesNothing_after nothing, same]
  exact sound.account

theorem JournalEventV1.isEmergency_settlesNothing (emergency : event.isEmergency = true) :
    event.settlesNothing = true := by
  cases event with
  | itemCommitted => cases emergency
  | itemDuplicate => cases emergency
  | taskCompleted => cases emergency
  | _ => rfl

theorem AccountSound.recordedEmergency (sound : AccountSound env world)
    (recorded : RecordedEmergency env event world next) (emergency : event.isEmergency = true) :
    AccountSound env next := by
  obtain ⟨frame, rfl, rfl, goesOn⟩ := sound.journal.recordedEmergency recorded emergency
  have nothing := frame.body.event.isEmergency_settlesNothing emergency
  refine ⟨⟨sound.chained, goesOn⟩, ?_⟩
  show world.state.account = ((journalTally world.disk.frames).after frame.body.event).account env
  rw [frame.body.event.settlesNothing_after nothing]
  exact sound.account

theorem Quiet.account (quiet : Quiet world next) : next.state.account = world.state.account := by
  obtain ⟨_, _, _, _, _, rfl⟩ := quiet
  rfl

theorem World.left_account (world : World) (chain : TaskChainV1) (outcome : ChainOutcomeV1) :
    (world.left chain outcome).state.account = world.state.account := by
  unfold World.left
  split <;> rfl

/-- Every move of a chain counts in its state what it records in the journal. -/
theorem ChainMove.account {entry : BatchEntryV1} {stage after : StageV1}
    (moves : ChainMove env entry permits (world, stage) (next, after))
    (sound : AccountSound env world) : AccountSound env next := by
  cases moves with
  | quiet quiet => exact sound.same (by rw [quiet.disk]) quiet.account
  | intended may recorded => exact sound.recorded recorded rfl
  | observed recorded => exact sound.recorded recorded rfl
  | buffered recorded => exact (sound.recorded recorded rfl).same rfl rfl
  | progressed recorded => exact sound.recorded recorded rfl
  | sunk holds recorded => exact (sound.recorded recorded rfl).same rfl rfl
  | limitless recorded => exact sound.recordedEmergency recorded rfl
  | explained may recorded => exact (sound.recordedEmergency recorded rfl).same rfl rfl
  | completed recorded =>
    refine sound.settled recorded (fun _ _ _ _ other => by cases other) rfl fun frame same => ?_
    subst same
    obtain ⟨bytes, frames, tally, emitted, sequence⟩ := account_eq.mp sound.account
    exact account_eq.mpr ⟨bytes, frames, by rw [← tally]; rfl, emitted, sequence⟩
  | duplicated known recorded =>
    refine sound.settled recorded (fun _ _ _ _ other => by cases other) rfl fun frame same => ?_
    subst same
    obtain ⟨bytes, frames, tally, emitted, sequence⟩ := account_eq.mp sound.account
    exact account_eq.mpr ⟨bytes, frames, by rw [← tally]; rfl, emitted, sequence⟩
  | committed fresh room capacity recorded =>
    obtain ⟨bytes, frames, tally, emitted, sequence⟩ := account_eq.mp sound.account
    -- The item takes the next number, and its identity is none that the run has committed.
    refine sound.settled recorded (fun _ _ _ _ commits => ?_) rfl fun frame same => ?_
    · cases commits
      exact ⟨sequence, by rw [← tally]; exact fresh⟩
    · subst same
      refine account_eq.mpr ⟨bytes, frames, by rw [← tally]; rfl, ?_, ?_⟩
      · exact congrArg (· + 1) emitted
      · exact congrArg (· + 1) sequence
  | left releases => exact sound.same (by rw [World.left_disk]) (World.left_account _ _ _)
  | stranded holds => exact sound.same (by rw [World.left_disk]) (World.left_account _ _ _)
  | _ => exact sound.same rfl rfl

/-- Every move of a run counts in its state what it records in the journal. -/
theorem RunMove.keepsAccount :
    Keeps (RunMove env permits) fun point => AccountSound env point.world := by
  intro before after moves sound
  cases moves with
  | chain moves => exact moves.account sound
  | quiet quiet => exact sound.same (by rw [quiet.disk]) quiet.account
  | cancelled unasked open_ recorded =>
    have ended := sound.recordedEmergency recorded rfl
    exact ended.same rfl rfl
  | created recorded => exact sound.recorded recorded rfl
  | announced recorded => exact sound.recorded recorded rfl
  | authorized recorded => exact sound.recorded recorded rfl
  | skipped recorded => exact (sound.recorded recorded rfl).same rfl rfl
  | expanded expands =>
    obtain ⟨ordinal, _, rfl⟩ := expanded_numbered expands
    exact sound.same rfl rfl
  | enqueued recorded fits => exact (sound.recorded recorded rfl).same rfl rfl
  | completed recorded => exact (sound.recorded recorded rfl).same rfl rfl
  | explained recorded => exact sound.recordedEmergency recorded rfl
  | prepared holds names recorded => exact sound.recordedEmergency recorded rfl
  | published recorded => exact sound.recordedEmergency recorded rfl
  | terminated recorded => exact sound.recordedEmergency recorded rfl
  | publishedTerminal recorded => exact sound.recordedEmergency recorded rfl
  | _ => exact sound.same rfl rfl

/-! Walking back over a journal. -/

/-- A walk over a journal has counted what a tally counts. -/
structure RehydrationV1.Counts (counts : RehydrationV1) (tally : JournalTallyV1) : Prop where
  digests : counts.identityDigests = tally.identityDigests
  emitted : counts.summary.itemsEmitted = tally.identityDigests.length
  duplicates : counts.summary.itemsDuplicate = tally.itemsDuplicate
  completed : counts.summary.tasksCompleted = tally.tasksCompleted

theorem rehydrateEvent_counts {counts : RehydrationV1} {tally : JournalTallyV1}
    (counted : counts.Counts tally) (event : JournalEventV1) :
    Passes (rehydrateEvent env counts event) fun next => next.Counts (tally.after event) := by
  obtain ⟨digests, emitted, duplicates, completed⟩ := counted
  cases event with
  | attemptIntent nodeId taskKindId =>
    unfold rehydrateEvent
    dsimp only
    split
    · exact Passes.error _
    · exact Passes.ok ⟨digests, emitted, duplicates, completed⟩
  | itemCommitted nodeId identityDigest order itemSequence =>
    refine Passes.ite (fun _ => Passes.error _) fun _ => Passes.ok ?_
    exact ⟨congrArg _ digests, congrArg (· + 1) emitted, duplicates, completed⟩
  | itemDuplicate => exact Passes.ok ⟨digests, emitted, congrArg (· + 1) duplicates, completed⟩
  | taskCompleted => exact Passes.ok ⟨digests, emitted, duplicates, congrArg (· + 1) completed⟩
  | _ => exact Passes.ok ⟨digests, emitted, duplicates, completed⟩

theorem rehydrateFrames_counts (frames : List JournalFrameV1) :
    Passes (rehydrateFrames env frames) fun counts => counts.Counts (journalTally frames) := by
  induction frames with
  | nil => exact Passes.ok ⟨rfl, rfl, rfl, rfl⟩
  | cons frame older ih =>
    exact Passes.bind _ ih fun counts counted => rehydrateEvent_counts counted frame.body.event

/-- A rebuilt state accounts for the journal it was rebuilt from. -/
theorem rehydrateExecutionState_account (disk : Disk) :
    Passes (rehydrateExecutionState env disk) fun state =>
      state.account = (journalTally disk.frames).account env := by
  refine Passes.bind _ (rehydrateFrames_counts disk.frames) fun counts counted => ?_
  refine Passes.next fun items _ => Passes.ite (fun _ => Passes.error _) fun _ => ?_
  refine Passes.next fun buffered _ => ?_
  split
  · exact Passes.error _
  · refine Passes.ok (account_eq.mpr ⟨rfl, rfl, ?_, counted.emitted, congrArg (· + 1) counted.emitted⟩)
    simp only [ExecutionStateV1.account, counted.digests, counted.duplicates, counted.completed]

/-! What holds over the whole life of a run. -/

/-- Ending a run at startup keeps its journal sound. -/
def KeepsJournal (env : RunEnvironment) (world next : World) : Prop :=
  JournalSound env world → JournalSound env next

instance : Std.Refl (KeepsJournal env) := ⟨fun _ sound => sound⟩

instance : IsTrans World (KeepsJournal env) := ⟨fun _ _ _ first second => second ∘ first⟩

variable {recovered : RecoveredRunStateV1}

theorem keepsJournal_ends : KeptByEnding env recovered (KeepsJournal env) where
  still := fun world next disk cursor sound => by
    have bytes := congrArg JournalCursorV1.maximumJournalBytes cursor
    have frames := congrArg JournalCursorV1.maximumJournalFrames cursor
    exact ⟨disk ▸ sound.chained, bytes.trans sound.bytes, frames.trans sound.frames⟩
  records := fun event world next closing recorded sound => by
    refine sound.ended recorded ?_
    cases event <;> first | rfl | exact closing.2.elim

theorem startupRecovery_chained {disk : Disk} (linkSucceeds : Bool)
    (recovers : recoverRunState env disk = .ok recovered) (chained : Chained env disk.frames) :
    Chained env (startupRecovery env disk linkSucceeds).frames := by
  have kept : Chained env (truncateSpool disk recovered.spoolPrefix).frames := by
    rw [truncateSpool_frames]
    exact chained
  rcases startupRecovery_ends (@keepsJournal_ends env recovered) linkSucceeds recovers with
    same | ⟨next, ends, same⟩
  · rw [same]
    exact kept
  · rw [same]
    exact (ends ⟨kept, rfl, rfl⟩).chained

/-- Over the whole life of a run its journal is a chain, and a live run accounts for it. -/
theorem journal_kept {allowed : RunLifeV1 → LifeEventV1 → Prop} {life : RunLifeV1}
    (reached : (lifeMachine env).Reaches allowed life) :
    life.Keeps (fun disk => Chained env disk.frames)
      fun execution => AccountSound env execution.world := by
  have along {permits : TurnPermissionV1} {start point : RunPointV1}
      (moves : RunMoves env permits start point) (sound : AccountSound env start.world) :
      AccountSound env point.world := RunMove.keepsAccount.many moves sound
  have resumed {disk : Disk} {plan : ResumePlanV1} {clock : List Bool} {linkSucceeds : Bool}
      (plans : planResume env disk = .ok plan) (chained : Chained env disk.frames) :
      AccountSound env (plan.world env clock linkSucceeds) := by
    have read := planResume_reads plans
    obtain ⟨state, rehydrates, same⟩ := read.rehydrates
    refine ⟨?_, ?_⟩
    · show Chained env plan.disk.frames
      rw [read.truncated, truncateSpool_frames]
      exact chained
    · show plan.state.account = _
      rw [same]
      exact rehydrateExecutionState_account plan.disk state rehydrates
  refine reached.invariant ?_ ?_
  · intro life begun
    obtain ⟨roots, aborted, clock, linkSucceeds, execution, starts, how⟩ := begun
    have moves : RunMoves env .none _ _ := startDetached_moves starts
    have sound : AccountSound env execution.world := along moves ⟨trivial, rfl⟩
    rcases how with rfl | ⟨kept, ends, rfl⟩
    · exact sound
    · exact sound.chained.suffix (Disk.frames_suffix ends)
  · intro life event after _ steps kept
    cases steps with
    | step steps => exact along (step_moves steps) kept
    | crash steps cuts =>
      have sound : AccountSound env _ := along (step_moves steps) kept
      exact sound.chained.suffix (Disk.frames_suffix cuts.ends)
    | resume resumes =>
      obtain ⟨plan, plans, moves⟩ := @resume_moves env .none _ _ _ _ _ resumes
      exact along moves (resumed plans kept)
    | resumeCrash plans resumes cuts =>
      obtain ⟨plan, plans, moves⟩ := @resume_moves env .none _ _ _ _ _ resumes
      have sound : AccountSound env _ := along moves (resumed plans kept)
      exact sound.chained.suffix (Disk.frames_suffix cuts.ends)
    | startup recovers cuts =>
      exact (startupRecovery_chained _ recovers kept).suffix (Disk.frames_suffix cuts.ends)

theorem journal_reached {allowed : RunLifeV1 → LifeEventV1 → Prop} {life : RunLifeV1}
    (reached : (lifeMachine env).Reaches allowed life) : Chained env life.disk.frames := by
  have kept := journal_kept reached
  cases life with
  | running execution => exact AccountSound.chained kept
  | stored disk => exact kept

/-! A listing of one page that commits two items and ends. -/

/-- The page's call returns two items, which take their turn and end their run. -/
def listsTwoItems : List RunEventV1 :=
  [.callReturned 0 (.returned (listedPage [1, 2] none)) [], .turnSettled 0 [],
    .batchSettled [] true]

/-- Whether an execution of the listing has committed two items and ended, and is read back. -/
def endsWithTwoItems (execution : ExecutionV1) : Bool :=
  let disk := execution.world.disk
  decide ((journalTally disk.frames).identityDigests.length = 2) &&
    (disk.frames.head?.any fun last => last.body.event.isTerminal) &&
    passesTest (rehydrateExecutionState onePageListing disk) (fun _ => true) &&
    passesTest (recoverRunState onePageListing disk) fun _ => true

theorem listing_ran : ∃ started execution,
    startDetached onePageListing (listRoots 1) none [] true = .ok started ∧
      started.run onePageListing listsTwoItems = some execution ∧
      endsWithTwoItems execution = true := by
  have runs : passesTest (startDetached onePageListing (listRoots 1) none [] true)
      (fun started => ((started.run onePageListing listsTwoItems).map endsWithTwoItems).getD
        false) = true := by
    decide +kernel
  obtain ⟨started, starts, runs⟩ := passesTest_spec runs
  cases ran : started.run onePageListing listsTwoItems with
  | none => rw [ran] at runs; cases runs
  | some execution =>
    rw [ran] at runs
    exact ⟨started, execution, starts, ran, runs⟩

/-- The listing reaches an execution that has committed two items and is read back. -/
theorem listing_reached : ∃ execution rebuilt recovered last older,
    (lifeMachine onePageListing).Reaches (fun _ _ => True) (.running execution) ∧
      rehydrateExecutionState onePageListing execution.world.disk = .ok rebuilt ∧
      recoverRunState onePageListing execution.world.disk = .ok recovered ∧
      execution.world.disk.frames = last :: older ∧ last.body.event.isTerminal = true ∧
      (journalTally execution.world.disk.frames).identityDigests.length = 2 := by
  obtain ⟨started, execution, starts, ran, ends⟩ := listing_ran
  obtain ⟨ends, recovers⟩ := Bool.and_eq_true_iff.mp ends
  obtain ⟨ends, rehydrates⟩ := Bool.and_eq_true_iff.mp ends
  obtain ⟨two, terminal⟩ := Bool.and_eq_true_iff.mp ends
  obtain ⟨rebuilt, rehydrates, _⟩ := passesTest_spec rehydrates
  obtain ⟨recovered, recovers, _⟩ := passesTest_spec recovers
  cases frames : execution.world.disk.frames with
  | nil => rw [frames] at terminal; cases terminal
  | cons last older =>
    rw [frames] at terminal two
    exact ⟨execution, rebuilt, recovered, last, older, life_run ran
      (.start ⟨listRoots 1, none, [], true, started, starts, .inl rfl⟩), rehydrates, recovers,
      frames, terminal, by rw [frames]; exact of_decide_eq_true two⟩

variable {life : RunLifeV1} {newer older : List JournalFrameV1} {frame : JournalFrameV1}

/-- Over the whole life of a run, across crashes and resumes, every frame of its journal belongs to
the run, has the next number, names the digest of the frame before it and begins where that ends. -/
theorem journal_chained (reached : (lifeMachine env).Reaches (fun _ _ => True) life)
    (stands : life.disk.frames = newer ++ frame :: older) :
    frame.body.runId = env.runId ∧ frame.body.sequence = older.length + 1 ∧
      frame.body.previousFrameDigest = older.head?.map JournalFrameV1.digest ∧
      frame.digest = env.digestOf frame.body.value ∧
      frame.offset = (older.head?.map JournalFrameV1.endOffset).getD 0 ∧
      frame.endOffset = frame.offset + frameBytes (canonicalJson frame.body.value) := by
  have chained := journal_reached reached
  rw [stands] at chained
  have goesOn := chained.extends_at
  exact ⟨goesOn.runId, goesOn.sequence, goesOn.chained, goesOn.digest, goesOn.offset,
    goesOn.endOffset⟩

/-- The newest frame of the listing has the number of frames in its journal. -/
theorem journal_chained_listing : ∃ execution frame older,
    (lifeMachine onePageListing).Reaches (fun _ _ => True) (.running execution) ∧
      execution.world.disk.frames = frame :: older ∧
      frame.body.previousFrameDigest = older.head?.map JournalFrameV1.digest := by
  obtain ⟨execution, _, _, frame, older, reached, _, _, frames, _⟩ := listing_reached
  have chained := @journal_chained onePageListing (.running execution) [] older frame reached frames
  exact ⟨execution, frame, older, reached, frames, chained.2.2.1⟩

theorem Chained.within {frames : List JournalFrameV1} (chained : Chained env frames) :
    frames.length ≤ env.policy.durable.maxJournalFrames ∧
      (frames.head?.map JournalFrameV1.endOffset).getD 0 ≤ env.policy.durable.maxJournalBytes := by
  cases frames with
  | nil => exact ⟨Nat.zero_le _, Nat.zero_le _⟩
  | cons last older =>
    have sequence := chained.2.sequence
    have frames := chained.2.frames
    have bytes := chained.2.bytes
    rw [List.length_cons]
    show _ ∧ last.endOffset ≤ _
    omega

/-- No journal outgrows the budgets of its run, and no frame but those that end a run takes from
the reserve that is kept for its end. -/
theorem journal_within_budgets (reached : (lifeMachine env).Reaches (fun _ _ => True) life) :
    life.disk.frames.length ≤ env.policy.durable.maxJournalFrames ∧
      life.disk.journalBytes ≤ env.policy.durable.maxJournalBytes ∧
      ∀ frame ∈ life.disk.frames, frame.body.event.isEmergency = false →
        frame.body.sequence + JOURNAL_EMERGENCY_FRAME_RESERVE_V1 ≤
            env.policy.durable.maxJournalFrames ∧
          frame.endOffset + JOURNAL_EMERGENCY_BYTE_RESERVE_V1 ≤
            env.policy.durable.maxJournalBytes := by
  have chained := journal_reached reached
  refine ⟨chained.within.1, chained.within.2, fun frame member ordinary => ?_⟩
  obtain ⟨newer, older, stands⟩ := List.append_of_mem member
  rw [stands] at chained
  have goesOn := chained.extends_at
  have leaves (reserve : Nat) : frame.body.event.leaves reserve = reserve := by
    rw [JournalEventV1.leaves, ordinary]
    rfl
  have frames := goesOn.frames
  have bytes := goesOn.bytes
  rw [leaves] at frames bytes
  exact ⟨frames, bytes⟩

/-- The listing's journal is within its budgets. -/
theorem journal_within_budgets_listing : ∃ execution,
    (lifeMachine onePageListing).Reaches (fun _ _ => True) (.running execution) ∧
      execution.world.disk.journalBytes ≤ onePageListing.policy.durable.maxJournalBytes := by
  obtain ⟨execution, _, _, _, _, reached, _⟩ := listing_reached
  exact ⟨execution, reached, (journal_within_budgets reached).2.1⟩

theorem Chained.digests_nodup {frames : List JournalFrameV1} (chained : Chained env frames) :
    (journalTally frames).identityDigests.Nodup := by
  induction frames with
  | nil => exact List.nodup_nil
  | cons frame older ih =>
    have earlier := ih chained.1
    have follows := chained.2.commits
    show ((journalTally older).after frame.body.event).identityDigests.Nodup
    cases event : frame.body.event with
    | itemCommitted nodeId identityDigest order itemSequence =>
      exact List.nodup_cons.mpr ⟨(follows _ _ _ _ event).2, earlier⟩
    | _ => exact earlier

/-- Over the whole life of a run no item identity is committed twice, and the committed items are
numbered from one on, without a gap at any crash or resume. -/
theorem items_committed_in_order (reached : (lifeMachine env).Reaches (fun _ _ => True) life) :
    (journalTally life.disk.frames).identityDigests.Nodup ∧
      ∀ newer frame older nodeId identityDigest order itemSequence,
        life.disk.frames = newer ++ frame :: older →
        frame.body.event = .itemCommitted nodeId identityDigest order itemSequence →
        itemSequence = (journalTally older).identityDigests.length + 1 := by
  have chained := journal_reached reached
  refine ⟨chained.digests_nodup, ?_⟩
  intro newer frame older nodeId identityDigest order itemSequence stands commits
  rw [stands] at chained
  exact (chained.extends_at.commits _ _ _ _ commits).1

/-- The listing's two items have two identities. -/
theorem items_committed_in_order_listing : ∃ execution,
    (lifeMachine onePageListing).Reaches (fun _ _ => True) (.running execution) ∧
      (journalTally execution.world.disk.frames).identityDigests.length = 2 ∧
      (journalTally execution.world.disk.frames).identityDigests.Nodup := by
  obtain ⟨execution, _, _, _, _, reached, _, _, _, _, two⟩ := listing_reached
  exact ⟨execution, reached, two, (items_committed_in_order reached).1⟩

/-- Whenever a run could be rebuilt from its journal while it lives, the rebuilt state has counted
the same items, duplicates and tasks, and would number its next item alike. -/
theorem rehydration_agrees {execution : ExecutionV1} {rebuilt : ExecutionStateV1}
    (reached : (lifeMachine env).Reaches (fun _ _ => True) (.running execution))
    (rehydrates : rehydrateExecutionState env execution.world.disk = .ok rebuilt) :
    rebuilt.identityDigests = execution.world.state.identityDigests ∧
      rebuilt.summary.itemsEmitted = execution.world.state.summary.itemsEmitted ∧
      rebuilt.summary.itemsDuplicate = execution.world.state.summary.itemsDuplicate ∧
      rebuilt.summary.tasksCompleted = execution.world.state.summary.tasksCompleted ∧
      rebuilt.nextItemSequence = execution.world.state.nextItemSequence := by
  have live : AccountSound env execution.world := journal_kept reached
  have same : rebuilt.account = execution.world.state.account :=
    (rehydrateExecutionState_account _ rebuilt rehydrates).trans live.account.symm
  have tally := congrArg JournalAccountV1.tally same
  exact ⟨congrArg JournalTallyV1.identityDigests tally, congrArg JournalAccountV1.itemsEmitted same,
    congrArg JournalTallyV1.itemsDuplicate tally, congrArg JournalTallyV1.tasksCompleted tally,
    congrArg JournalAccountV1.nextItemSequence same⟩

/-- The listing, rebuilt from its journal, numbers its next item as it does itself. -/
theorem rehydration_agrees_listing : ∃ (execution : ExecutionV1) (rebuilt : ExecutionStateV1),
    rehydrateExecutionState onePageListing execution.world.disk = .ok rebuilt ∧
      (journalTally execution.world.disk.frames).identityDigests.length = 2 ∧
      rebuilt.nextItemSequence = execution.world.state.nextItemSequence := by
  obtain ⟨execution, rebuilt, _, _, _, reached, rehydrates, _, _, _, two⟩ := listing_reached
  exact ⟨execution, rebuilt, rehydrates, two, (rehydration_agrees reached rehydrates).2.2.2.2⟩

end Klura
