import Klura.Invariants.JournalChain
import Klura.Invariants.StoredReaders
import Klura.Moves.Nodes

/-! What is read back from the journal and the spool of a run at any point of its life. -/

namespace Klura

variable {env : RunEnvironment}

/-! The checks of a frame body pass under one field name exactly when they pass under another. -/

/-- A check that passes under one field name passes under every other. -/
def Unnamed (check : String → Except RunError Unit) : Prop :=
  ∀ field other, check field = .ok () → check other = .ok ()

namespace Unnamed

variable {first second : String → Except RunError Unit}

theorem passes : Unnamed fun _ => .ok () := fun _ _ _ => rfl

theorem integer (value : Int) (name : String) (minimum maximum : Nat) :
    Unnamed fun field => parseInteger value (field ++ name) minimum maximum := by
  intro field other passed
  unfold parseInteger at passed ⊢
  dsimp only at passed ⊢
  split at passed
  · rename_i within
    rw [if_pos within]
  · cases passed

theorem both (head : Unnamed first) (tail : Unnamed second) :
    Unnamed fun field => first field >>= fun _ => second field := by
  intro field other passed
  obtain ⟨value, ran, passed⟩ := bind_ok.mp passed
  exact bind_ok.mpr ⟨value, head field other ran, tail field other passed⟩

theorem inside (name : String) (check : Unnamed first) : Unnamed fun field => first (field ++ name) :=
  fun field other => check (field ++ name) (other ++ name)

theorem guarded {test : Prop} [Decidable test] (error : String → RunError) (check : Unnamed first) :
    Unnamed fun field => if test then throw (error field) else first field := by
  intro field other passed
  dsimp only at passed ⊢
  by_cases refused : test
  · rw [if_pos refused] at passed
    cases passed
  · rw [if_neg refused] at passed ⊢
    exact check field other passed

end Unnamed

theorem parseBlobRef_unnamed (reference : BlobRefV1) : Unnamed (parseBlobRef reference) :=
  .both (.integer _ _ _ _) (.integer _ _ _ _)

theorem parseItemLogicalOrder_unnamed (order : ItemLogicalOrderV1) :
    Unnamed (parseItemLogicalOrder order) :=
  .both (.integer _ _ _ _) (.both (.integer _ _ _ _) (.integer _ _ _ _))

theorem parseTerminalRunStop_unnamed (stop : TerminalRunStopV1) (kind : RunResultKindV1) :
    Unnamed fun field => parseTerminalRunStop stop field kind := by
  intro field other passed
  cases kind <;> cases stop <;> first | rfl | cases passed

theorem parseTerminalResultDescriptor_unnamed (descriptor : TerminalResultDescriptorV1) :
    Unnamed (parseTerminalResultDescriptor descriptor) := by
  refine .both ((parseTerminalRunStop_unnamed _ _).inside ".stop") ?_
  refine .both (.inside ".summary" ?_) (.both (.inside ".output" ?_) (.guarded _ .passes))
  · exact .both (.integer _ _ _ _) (.both (.integer _ _ _ _) (.both (.integer _ _ _ _)
      (.both (.integer _ _ _ _) (.integer _ _ _ _))))
  · cases descriptor.output with
    | file path format isPartial => exact .guarded _ .passes
    | _ => exact .passes

theorem parseBoundDescriptor_unnamed (descriptor : TerminalResultDescriptorV1)
    (digest : Sha256DigestV1) (name digestName : String) :
    Unnamed fun field => parseBoundDescriptor env descriptor digest (field ++ name)
      (field ++ digestName) := by
  refine .both ((parseTerminalResultDescriptor_unnamed descriptor).inside name) ?_
  -- The digest to be met is calculated under a field name of its own.
  cases calculateTerminalDescriptorDigest env descriptor with
  | error error =>
    intro _ _ refused
    cases refused
  | ok expected => exact .guarded _ .passes

theorem parseBlobRefs_unnamed (references : List BlobRefV1) (name : String) :
    Unnamed fun field => forIn references PUnit.unit fun reference _ =>
      parseBlobRef reference (field ++ name) >>= fun _ => pure (ForInStep.yield PUnit.unit) := by
  induction references with
  | nil => exact .passes
  | cons reference rest ih =>
    have head := (parseBlobRef_unnamed reference).inside name
    have all := head.both ih
    intro field other passed
    simp only [List.forIn_cons, bind_assoc, pure_bind] at passed ⊢
    exact all field other passed

theorem parseJournalEvent_unnamed (event : JournalEventV1) :
    Unnamed (parseJournalEvent env event) := by
  cases event with
  | runCreated metaDigest initialNodes =>
    cases initialNodes with
    | none => exact .passes
    | some references => exact .guarded _ (.both (parseBlobRefs_unnamed references _) .passes)
  | stateChanged state =>
    cases state with
    | queued => exact .passes
    | running epoch => exact .integer _ _ _ _
  | nodeEnqueued nodeId logicalKeyDigest nodeState taskKindId rootOrdinal seedOrdinal =>
    refine .both ((parseBlobRef_unnamed _).inside _) (.both (.integer _ _ _ _) ?_)
    cases seedOrdinal with
    | none => exact .both (.integer _ _ _ _) (.integer _ _ _ _)
    | some seed => exact .both (.integer _ _ _ _) (.both (.integer _ _ _ _) (.integer _ _ _ _))
  | nodeProgressed => exact (parseBlobRef_unnamed _).inside _
  | attemptObserved => exact .integer _ _ _ _
  | itemBuffered =>
    exact .both ((parseBlobRef_unnamed _).inside _) ((parseItemLogicalOrder_unnamed _).inside _)
  | itemCommitted => exact .both ((parseItemLogicalOrder_unnamed _).inside _) (.integer _ _ _ _)
  | itemDuplicate => exact (parseItemLogicalOrder_unnamed _).inside _
  | sinkCommitted => exact .both (.integer _ _ _ _) (.integer _ _ _ _)
  | outputPrepared => exact .both (parseBoundDescriptor_unnamed _ _ _ _) (.integer _ _ _ _)
  | outputCommitted => exact .integer _ _ _ _
  | stopReason =>
    intro field other passed
    unfold parseJournalEvent parseString at passed ⊢
    dsimp only at passed ⊢
    split at passed
    · rename_i fits
      rw [if_pos fits]
    · cases passed
  | terminal => exact parseBoundDescriptor_unnamed _ _ _ _
  | _ => exact .passes

theorem parseJournalFrameBody_unnamed (body : JournalFrameBodyV1) :
    Unnamed (parseJournalFrameBody env body) :=
  .both (.integer _ _ _ _) (.both (.integer _ _ _ _) ((parseJournalEvent_unnamed _).inside _))

/-! The journal's reader. -/

variable {older newer frames : List JournalFrameV1} {frame : JournalFrameV1} {life : RunLifeV1}

theorem readJournalFrame_extends (goesOn : Extends env older frame) :
    readJournalFrame env older frame = .ok () := by
  have digest : frame.digest = env.sha256Digest (canonicalJson frame.body.value) := goesOn.digest
  have parses := parseJournalFrameBody_unnamed frame.body _ s!"journal.frame[{older.length}]"
    goesOn.parses
  unfold readJournalFrame
  dsimp only
  rw [if_neg (Nat.not_lt.mpr goesOn.fits), if_neg (not_not.mpr digest)]
  refine bind_ok.mpr ⟨(), mapError_ok.mpr parses, ?_⟩
  rw [if_neg (not_not.mpr goesOn.runId), if_neg (not_not.mpr goesOn.sequence),
    if_neg (not_not.mpr goesOn.chained)]
  rfl

theorem Chained.reads (chained : Chained env frames) : readJournal env frames = .ok () := by
  induction frames with
  | nil => rfl
  | cons frame older ih =>
    exact bind_ok.mpr ⟨(), ih chained.1, readJournalFrame_extends chained.2⟩

theorem Chained.fileBytes (chained : Chained env frames) :
    (frames.head?.map JournalFrameV1.endOffset).getD 0 = journalFileBytes frames := by
  induction frames with
  | nil => rfl
  | cons frame older ih =>
    have before := ih chained.1
    have ends := chained.2.endOffset
    rw [chained.2.offset, before] at ends
    show frame.endOffset = frameBytes (canonicalJson frame.body.value) + journalFileBytes older
    omega

/-- The journal's own reader accepts what a run has written at every point of its life, wherever a
crash has cut it off, when the run's byte budget is one that a file can be read with. -/
theorem journal_readable (reached : (lifeMachine env).Reaches (fun _ _ => True) life)
    (bounded : env.policy.durable.maxJournalBytes ≤ MAX_READ_FILE_BYTES) :
    recoverJournalFile env life.disk = .ok life.disk.frames := by
  have chained := journal_reached reached
  have size : journalFileBytes life.disk.frames ≤ MAX_READ_FILE_BYTES := by
    rw [← chained.fileBytes]
    exact chained.within.2.trans bounded
  unfold recoverJournalFile
  rw [if_neg (Nat.not_lt.mpr size)]
  exact bind_ok.mpr ⟨(), chained.reads, rfl⟩

/-- The listing's journal is read back whole. -/
theorem journal_readable_listing : ∃ execution,
    (lifeMachine onePageListing).Reaches (fun _ _ => True) (.running execution) ∧
      recoverJournalFile onePageListing execution.world.disk = .ok execution.world.disk.frames := by
  obtain ⟨execution, _, _, _, _, reached, _⟩ := listing_reached
  exact ⟨execution, reached, journal_readable reached (by decide)⟩

/-! What a life never takes back. -/

theorem RunMoves.grows {permits : TurnPermissionV1} {before after : RunPointV1}
    (moves : RunMoves env permits before after) : before.world.disk <:+ after.world.disk := by
  induction moves with
  | refl => exact List.suffix_rfl
  | tail _ last ih =>
    rcases last.once with same | ⟨write, writes⟩
    · rw [same]
      exact ih
    · rw [writes]
      exact ih.trans (List.suffix_cons _ _)

theorem LifeStep.grows {event : LifeEventV1} {later : RunLifeV1}
    (steps : LifeStep env life event later) : life.disk.frames <:+ later.disk.frames := by
  have planned {disk kept : Disk} {plan : ResumePlanV1} (plans : planResume env disk = .ok plan)
      (begins : plan.disk <:+ kept) : disk.frames <:+ kept.frames := by
    have frames := Disk.frames_suffix begins
    rw [(planResume_reads plans).truncated, truncateSpool_frames] at frames
    exact frames
  cases steps with
  | step steps => exact Disk.frames_suffix (step_moves steps).grows
  | crash steps cuts => exact Disk.frames_suffix cuts.begins
  | resume resumes =>
    obtain ⟨plan, plans, moves⟩ := @resume_moves env .none _ _ _ _ _ resumes
    exact planned plans moves.grows
  | resumeCrash plans resumes cuts => exact planned plans cuts.begins
  | startup recovers cuts =>
    have frames := Disk.frames_suffix cuts.begins
    rw [truncateSpool_frames] at frames
    exact frames

theorem life_runs {started execution : ExecutionV1} {events : List RunEventV1}
    (ran : started.run env events = some execution) :
    (lifeMachine env).Run (fun _ _ => True) (.running started) (events.map .step)
      (.running execution) := by
  induction events generalizing started with
  | nil => cases ran; exact .none
  | cons event rest ih =>
    simp only [ExecutionV1.run, Option.bind_eq_some_iff] at ran
    obtain ⟨next, steps, ran⟩ := ran
    exact .cons trivial (.step steps) (ih ran)

/-- A journal only ever grows: whatever happens to a run, in its process, at a crash, at startup or
at a resume, every frame it has recorded stays where it is. -/
theorem journal_append_only {events : List LifeEventV1} {later : RunLifeV1}
    (lives : (lifeMachine env).Run (fun _ _ => True) life events later) :
    life.disk.frames <:+ later.disk.frames := by
  induction lives with
  | none => exact List.suffix_rfl
  | cons _ steps _ ih => exact steps.grows.trans ih

/-- What the listing began with is still there when it has ended. -/
theorem journal_append_only_listing : ∃ started execution events,
    (lifeMachine onePageListing).Run (fun _ _ => True) (.running started) events
        (.running execution) ∧
      (journalTally execution.world.disk.frames).identityDigests.length = 2 ∧
      started.world.disk.frames <:+ execution.world.disk.frames := by
  obtain ⟨started, execution, starts, ran, ends⟩ := listing_ran
  have two := (Bool.and_eq_true_iff.mp (Bool.and_eq_true_iff.mp
    (Bool.and_eq_true_iff.mp ends).1).1).1
  have lives := life_runs ran
  exact ⟨started, execution, _, lives, of_decide_eq_true two, journal_append_only lives⟩

theorem ClosingWrites.grows {recovered : RecoveredRunStateV1} {before after : Disk}
    (writes : ClosingWrites recovered before after) : before <:+ after := by
  induction writes with
  | refl => exact List.suffix_rfl
  | tail _ last ih =>
    obtain ⟨frame, _, rfl⟩ := last
    exact ih.trans (List.suffix_cons _ _)

/-- A stored run whose journal ends with its terminal frame neither resumes nor records again. -/
theorem LifeStep.terminal {disk : Disk} {event : LifeEventV1} {later : RunLifeV1}
    (ended : disk.frames = frame :: older) (terminal : frame.body.event.isTerminal = true)
    (steps : LifeStep env (.stored disk) event later) :
    ∃ stored, later = .stored stored ∧ stored.frames = disk.frames := by
  have finished {recovered : RecoveredRunStateV1} (recovers : recoverRunState env disk = .ok recovered) :
      recovered.terminal = true := by
    obtain ⟨recovery, recovers, _, _, same, _⟩ := recoverRunState_passes recovered recovers
    obtain ⟨last, rest, frames, ends⟩ := recoverFrames_terminal disk.frames recovery recovers
    rw [ended] at frames
    cases frames
    rw [same, ends]
    exact terminal
  have refused {plan : ResumePlanV1} (plans : planResume env disk = .ok plan) : False := by
    have read := planResume_reads plans
    obtain ⟨recovery, reads⟩ := recoverRunState_reads plan.recovered read.recovers
    have allowed := read.allowed
    have resume : plan.recovered.resume = some .alreadyTerminal := by
      rw [reads.resume, ← reads.terminal, finished read.recovers]
      rfl
    unfold resumeAllowed at allowed
    rw [resume] at allowed
    cases allowed
  cases steps with
  | resume resumes =>
    obtain ⟨plan, plans, _⟩ := @resume_moves env .none _ _ _ _ _ resumes
    exact (refused plans).elim
  | resumeCrash plans => exact (refused plans).elim
  | @startup _ recovered linkSucceeds kept recovers cuts =>
    have writes := (startupRecovery_closes linkSucceeds recovers).cut cuts
    refine ⟨kept, rfl, ?_⟩
    -- Every write would end a run that is not over, so there is none.
    rcases writes.cases_head with same | ⟨_, ⟨_, closing, _⟩, _⟩
    · rw [← same, truncateSpool_frames]
    · have running := closing.1
      rw [finished recovers] at running
      cases running

/-- Once a stored journal ends with a terminal frame, no startup recovery and no resume ever adds
to it or brings the run back to life. -/
theorem terminal_is_final {disk : Disk} {events : List LifeEventV1} {later : RunLifeV1}
    (ended : disk.frames = frame :: older) (terminal : frame.body.event.isTerminal = true)
    (lives : (lifeMachine env).Run (fun _ _ => True) (.stored disk) events later) :
    ∃ stored, later = .stored stored ∧ stored.frames = disk.frames := by
  generalize start : RunLifeV1.stored disk = begun at lives
  induction lives generalizing disk with
  | none => exact ⟨disk, start.symm, rfl⟩
  | cons _ steps _ ih =>
    subst start
    obtain ⟨between, rfl, same⟩ := LifeStep.terminal ended terminal steps
    obtain ⟨stored, rfl, frames⟩ := ih (same.trans ended) rfl
    exact ⟨stored, rfl, frames.trans same⟩

/-- Startup recovery leaves the journal of the ended listing as it is. -/
theorem terminal_is_final_listing : ∃ disk kept frame older,
    disk.frames = frame :: older ∧ frame.body.event.isTerminal = true ∧
      (lifeMachine onePageListing).Run (fun _ _ => True) (.stored disk) [.startup true]
        (.stored kept) ∧
      ∃ stored, RunLifeV1.stored kept = .stored stored ∧ stored.frames = disk.frames := by
  obtain ⟨execution, _, recovered, frame, older, _, _, recovers, frames, terminal, _⟩ :=
    listing_reached
  have writes := startupRecovery_closes true recovers
  have lives : (lifeMachine onePageListing).Run (fun _ _ => True) (.stored execution.world.disk)
      [.startup true] (.stored _) :=
    .cons trivial (.startup recovers ⟨writes.grows, List.suffix_rfl⟩) .none
  exact ⟨_, _, frame, older, frames, terminal, lives, terminal_is_final frames terminal lives⟩

/-! What the journal of a life refers to. -/

theorem parseBlobRefs_each {references : List BlobRefV1} {name : String}
    (passed : (forIn references PUnit.unit fun reference _ =>
      parseBlobRef reference name >>= fun _ => pure (ForInStep.yield PUnit.unit)) = .ok ()) :
    ∀ reference ∈ references, parseBlobRef reference name = .ok () := by
  induction references with
  | nil => nofun
  | cons first rest ih =>
    simp only [List.forIn_cons, bind_assoc, pure_bind] at passed
    obtain ⟨_, head, tail⟩ := bind_ok.mp passed
    intro reference member
    rcases List.mem_cons.mp member with rfl | inside
    · exact head
    · exact ih tail reference inside

/-- A frame that passes its checks holds only references that pass theirs. -/
theorem parseJournalEvent_references {event : JournalEventV1} {field : String}
    (passed : parseJournalEvent env event field = .ok ()) {reference : BlobRefV1}
    (member : reference ∈ event.references) (other : String) :
    parseBlobRef reference other = .ok () := by
  suffices somewhere : ∃ name, parseBlobRef reference name = .ok () by
    obtain ⟨name, passes⟩ := somewhere
    exact parseBlobRef_unnamed reference name other passes
  cases event with
  | runCreated metaDigest initialNodes =>
    cases initialNodes with
    | none => exact absurd member List.not_mem_nil
    | some references =>
      unfold parseJournalEvent at passed
      dsimp only at passed
      split at passed
      · cases passed
      · obtain ⟨_, each, _⟩ := bind_ok.mp passed
        exact ⟨_, parseBlobRefs_each each reference member⟩
  | nodeEnqueued =>
    rw [List.mem_singleton.mp member]
    obtain ⟨_, passes, _⟩ := bind_ok.mp passed
    exact ⟨_, passes⟩
  | nodeProgressed =>
    rw [List.mem_singleton.mp member]
    exact ⟨_, passed⟩
  | itemBuffered =>
    rw [List.mem_singleton.mp member]
    obtain ⟨_, passes, _⟩ := bind_ok.mp passed
    exact ⟨_, passes⟩
  | _ => exact absurd member List.not_mem_nil

theorem spool_reached (reached : (lifeMachine env).Reaches (fun _ _ => True) life) :
    SpoolSound env life.disk := by
  have invariant := @MoveInvariant.life env (fun _ _ => True) _ _ _ (@spool_invariant env) trivial
    fun _ _ _ => trivial
  have kept := invariant.reached (reached.mono fun state event _ => by
    cases state <;> cases event <;> exact trivial)
  cases life with
  | running execution => exact SpoolPoint.sound kept
  | stored disk => exact kept

/-- Whatever a run has recorded a reference of, at any point of its life, is in its spool: it is
what the frame tells of, and reading it back fails at most for its depth. -/
theorem spool_backed (reached : (lifeMachine env).Reaches (fun _ _ => True) life)
    (member : frame ∈ life.disk.frames) :
    frame.body.event.Backed env life.disk.blobs ∧
      ∀ reference ∈ frame.body.event.references, ∃ content,
        (content, reference) ∈ life.disk.blobs ∧
          readDataBlob life.disk reference =
            if BLOB_DEPTH_LIMIT < jsonDepth content.value then
              .error (.publicContract "data_spool_blob" "exceeds maximum depth 12")
            else .ok content := by
  have sound := spool_reached reached
  have backed := sound.backed frame member
  refine ⟨backed, fun reference refers => ?_⟩
  obtain ⟨content, held⟩ := backed.held refers
  refine ⟨content, held, ?_⟩
  obtain ⟨newer, older, stands⟩ := List.append_of_mem member
  have chained := journal_reached reached
  rw [stands] at chained
  obtain ⟨_, _, rest⟩ := bind_ok.mp chained.extends_at.parses
  obtain ⟨_, _, parses⟩ := bind_ok.mp rest
  have passes := parseJournalEvent_references parses refers "blob_ref"
  have inside : reference.offset + reference.length ≤ life.disk.spoolBytes := by
    rw [Disk.spoolBytes_eq]
    exact (sound.segmented.within held).1
  have found := sound.segmented.find held
  unfold readDataBlob
  rw [passes, found]
  simp only [bind, Except.bind, if_neg (Nat.not_lt.mpr inside)]
  split
  · rfl
  · rfl

/-- The last frame of the listing is backed by its spool. -/
theorem spool_backed_listing : ∃ (execution : ExecutionV1) (frame : JournalFrameV1),
    frame ∈ execution.world.disk.frames ∧
      frame.body.event.Backed onePageListing execution.world.disk.blobs := by
  obtain ⟨execution, _, _, frame, older, reached, _, _, frames, _⟩ := listing_reached
  have member : frame ∈ execution.world.disk.frames := by rw [frames]; exact List.mem_cons_self
  exact ⟨execution, frame, member, (spool_backed reached member).1⟩

/-- Whatever a recovery reads at any point of a life, it knows each node that the journal has made
known exactly once, knows no other, and takes none for done that no frame closes. -/
theorem recovered_nodes {recovered : RecoveredRunStateV1}
    (reached : (lifeMachine env).Reaches (fun _ _ => True) life)
    (recovers : recoverRunState env life.disk = .ok recovered) :
    (recovered.nodes.map fun known => known.node.nodeId).Nodup ∧
      (∀ nodeId ordinal, (∃ known ∈ recovered.nodes, known.node.nodeId = nodeId ∧
          known.node.outputOrdinal = ordinal) ↔
        ∃ node, Created life.disk node ∧ node.nodeId = nodeId ∧ node.outputOrdinal = ordinal) ∧
      (∀ known ∈ recovered.nodes, known.done = true →
        Closed life.disk.frames known.node.nodeId) ∧
      ∀ frame ∈ life.disk.frames, ∀ nodeId, frame.body.event = .nodeCompleted nodeId →
        ∃ known ∈ recovered.nodes, known.node.nodeId = nodeId ∧ known.state = .completed := by
  obtain ⟨recovery, reads⟩ := recoverRunState_reads recovered recovers
  have nodes := recoverFrames_nodes (spool_reached reached).segmented life.disk.frames recovery
    reads.frames
  rw [reads.nodes]
  refine ⟨nodes.distinct, fun nodeId ordinal => ⟨?_, ?_⟩, nodes.closed, nodes.completed⟩
  · rintro ⟨known, member, rfl, rfl⟩
    exact nodes.created known member
  · rintro ⟨node, ⟨frame, member, creates⟩, rfl, rfl⟩
    exact nodes.known frame member node creates

/-- The nodes that are recovered of the listing are distinct. -/
theorem recovered_nodes_listing : ∃ (execution : ExecutionV1) (recovered : RecoveredRunStateV1),
    recoverRunState onePageListing execution.world.disk = .ok recovered ∧
      (recovered.nodes.map fun known => known.node.nodeId).Nodup := by
  obtain ⟨execution, _, recovered, _, _, reached, _, recovers, _⟩ := listing_reached
  exact ⟨execution, recovered, recovers, (recovered_nodes reached recovers).1⟩

end Klura
