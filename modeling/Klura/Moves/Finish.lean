import Klura.Moves.Attempt
import Klura.Moves.Run

/-! Ending a run is a sequence of elementary moves that records at most one terminal frame. -/

namespace Klura

open Program

variable {env : RunEnvironment} {permits : TurnPermissionV1}

/-! Only the sink raises the sink's errors. -/

/-- A check that never raises an error of the output sink. -/
def SinkFree {α : Type} (check : Except RunError α) : Prop :=
  ∀ error, check = .error error → error.isRunOutputSinkError = false

theorem SinkFree.ok {α : Type} (value : α) : SinkFree (.ok value) := nofun

theorem SinkFree.error {α : Type} {error : RunError} (other : error.isRunOutputSinkError = false) :
    SinkFree (.error error : Except RunError α) := by
  rintro _ ⟨⟩
  exact other

theorem SinkFree.bind {α β : Type} {first : Except RunError α} {second : α → Except RunError β}
    (head : SinkFree first) (tail : ∀ value, SinkFree (second value)) :
    SinkFree (first >>= second) := by
  cases first with
  | error error => exact SinkFree.error (head error rfl)
  | ok value => exact tail value

theorem SinkFree.ite {α : Type} {test : Prop} [Decidable test] {left right : Except RunError α}
    (onTrue : SinkFree left) (onFalse : SinkFree right) :
    SinkFree (if test then left else right) := by
  split
  · exact onTrue
  · exact onFalse

theorem parseInteger_sinkFree (value : Int) (field : String) (minimum maximum : Nat) :
    SinkFree (parseInteger value field minimum maximum) :=
  SinkFree.ite (SinkFree.ok _) (SinkFree.error rfl)

theorem parseBlobRef_sinkFree (reference : BlobRefV1) (field : String) :
    SinkFree (parseBlobRef reference field) :=
  (parseInteger_sinkFree _ _ _ _).bind fun _ => parseInteger_sinkFree _ _ _ _

theorem parseItemLogicalOrder_sinkFree (order : ItemLogicalOrderV1) (field : String) :
    SinkFree (parseItemLogicalOrder order field) :=
  (parseInteger_sinkFree _ _ _ _).bind fun _ =>
    (parseInteger_sinkFree _ _ _ _).bind fun _ => parseInteger_sinkFree _ _ _ _

theorem parseTerminalResultDescriptor_sinkFree (descriptor : TerminalResultDescriptorV1)
    (field : String) : SinkFree (parseTerminalResultDescriptor descriptor field) := by
  unfold parseTerminalResultDescriptor
  refine SinkFree.bind ?_ fun _ => SinkFree.bind ?_ fun _ => SinkFree.bind ?_ fun _ => ?_
  · unfold parseTerminalRunStop
    split
    · exact SinkFree.ok _
    · exact SinkFree.error rfl
    · exact SinkFree.ok _
    · exact SinkFree.error rfl
  · unfold parseTerminalSummary
    exact (parseInteger_sinkFree _ _ _ _).bind fun _ => (parseInteger_sinkFree _ _ _ _).bind fun _ =>
      (parseInteger_sinkFree _ _ _ _).bind fun _ => (parseInteger_sinkFree _ _ _ _).bind fun _ =>
        parseInteger_sinkFree _ _ _ _
  · unfold parseTerminalOutput
    split
    · exact SinkFree.ite (SinkFree.error rfl) (SinkFree.ok _)
    · exact SinkFree.ok _
  · exact SinkFree.ite (SinkFree.error rfl) (SinkFree.ok _)

theorem calculateTerminalDescriptorDigest_ok {descriptor : TerminalResultDescriptorV1}
    {digest : Sha256DigestV1} (calculates : calculateTerminalDescriptorDigest env descriptor =
      .ok digest) : digest = env.digestOf descriptor.value := by
  unfold calculateTerminalDescriptorDigest at calculates
  cases parses : parseTerminalResultDescriptor descriptor "terminal_descriptor" with
  | error error => rw [parses] at calculates; cases calculates
  | ok value =>
    rw [parses] at calculates
    exact (Except.ok.inj calculates).symm

theorem calculateTerminalDescriptorDigest_sinkFree (descriptor : TerminalResultDescriptorV1) :
    SinkFree (calculateTerminalDescriptorDigest env descriptor) :=
  (parseTerminalResultDescriptor_sinkFree _ _).bind fun _ => SinkFree.ok _

theorem parseBoundDescriptor_sinkFree (descriptor : TerminalResultDescriptorV1)
    (digest : Sha256DigestV1) (descriptorField digestField : String) :
    SinkFree (parseBoundDescriptor env descriptor digest descriptorField digestField) := by
  unfold parseBoundDescriptor
  refine (parseTerminalResultDescriptor_sinkFree _ _).bind fun _ =>
    (calculateTerminalDescriptorDigest_sinkFree _).bind fun expected => ?_
  exact SinkFree.ite (SinkFree.error rfl) (SinkFree.ok _)

theorem SinkFree.forIn {α : Type} {check : α → Except RunError Unit}
    (each : ∀ value, SinkFree (check value)) (values : List α) :
    SinkFree (forIn values PUnit.unit fun value _ => do
      check value
      pure (ForInStep.yield PUnit.unit)) := by
  induction values with
  | nil => exact SinkFree.ok _
  | cons value rest ih =>
    rw [List.forIn_cons]
    refine SinkFree.bind ((each value).bind fun _ => SinkFree.ok _) fun step => ?_
    cases step with
    | done _ => exact SinkFree.ok _
    | yield _ => exact ih

/-- An event is refused with contract errors. -/
theorem parseJournalEvent_sinkFree (event : JournalEventV1) (field : String) :
    SinkFree (parseJournalEvent env event field) := by
  cases event with
  | runCreated metaDigest initialNodes =>
    cases initialNodes with
    | none => exact SinkFree.ok _
    | some references =>
      unfold parseJournalEvent
      dsimp only
      split
      · exact SinkFree.error rfl
      · exact (SinkFree.forIn (fun _ => parseBlobRef_sinkFree _ _) references).bind
          fun _ => SinkFree.ok _
  | stateChanged state =>
    cases state with
    | queued => exact SinkFree.ok _
    | running epoch => exact parseInteger_sinkFree _ _ _ _
  | nodeEnqueued nodeId digest nodeState taskKindId rootOrdinal seedOrdinal depth outputOrdinal =>
    unfold parseJournalEvent
    refine (parseBlobRef_sinkFree _ _).bind fun _ => (parseInteger_sinkFree _ _ _ _).bind fun _ => ?_
    have rest : SinkFree (do
        parseInteger depth (field ++ ".depth") 0 3
        parseInteger outputOrdinal (field ++ ".output_ordinal") 0 JsonNumber.maxSafeInteger) :=
      (parseInteger_sinkFree _ _ _ _).bind fun _ => parseInteger_sinkFree _ _ _ _
    cases seedOrdinal with
    | none => exact rest
    | some seed => exact (parseInteger_sinkFree _ _ _ _).bind fun _ => rest
  | nodeProgressed nodeId nodeState => exact parseBlobRef_sinkFree _ _
  | attemptObserved nodeId taskKindId kind attempts => exact parseInteger_sinkFree _ _ _ _
  | itemBuffered nodeId identityDigest data logicalOrder =>
    exact (parseBlobRef_sinkFree _ _).bind fun _ => parseItemLogicalOrder_sinkFree _ _
  | itemCommitted nodeId identityDigest logicalOrder itemSequence =>
    exact (parseItemLogicalOrder_sinkFree _ _).bind fun _ => parseInteger_sinkFree _ _ _ _
  | itemDuplicate nodeId identityDigest logicalOrder => exact parseItemLogicalOrder_sinkFree _ _
  | sinkCommitted through byteOffset prefixDigest =>
    exact (parseInteger_sinkFree _ _ _ _).bind fun _ => parseInteger_sinkFree _ _ _ _
  | outputPrepared pathDigest contentDigest byteLength descriptor descriptorDigest =>
    exact (parseBoundDescriptor_sinkFree _ _ _ _).bind fun _ => parseInteger_sinkFree _ _ _ _
  | outputCommitted contentDigest byteLength descriptorDigest =>
    exact parseInteger_sinkFree _ _ _ _
  | stopReason nodeId taskKindId stop message =>
    exact SinkFree.ite (SinkFree.ok _) (SinkFree.error rfl)
  | terminal descriptor descriptorDigest => exact parseBoundDescriptor_sinkFree _ _ _ _
  | nodeReplayAuthorized _ _ | attemptIntent _ _ | taskCompleted _ _ | nodeCompleted _
  | taskSkipped _ _ _ | interrupted _ | cancelRequested _ => exact SinkFree.ok _

theorem parseJournalFrameBody_sinkFree (body : JournalFrameBodyV1) (field : String) :
    SinkFree (parseJournalFrameBody env body field) :=
  (parseInteger_sinkFree _ _ _ _).bind fun _ => (parseInteger_sinkFree _ _ _ _).bind fun _ =>
    parseJournalEvent_sinkFree _ _

theorem encodeJournalFrame_sinkFree (body : JournalFrameBodyV1) :
    SinkFree (encodeJournalFrame env body) := by
  unfold encodeJournalFrame
  refine (parseJournalFrameBody_sinkFree _ _).bind fun _ => ?_
  dsimp only
  split
  · exact SinkFree.error rfl
  · exact SinkFree.ok _

theorem appendJournalFrame_sinkFree (disk : Disk) (body : JournalFrameBodyV1)
    (maximumBytes maximumFrames reservedBytes : Nat) :
    SinkFree (appendJournalFrame env disk body maximumBytes maximumFrames reservedBytes) := by
  unfold appendJournalFrame
  dsimp only
  split
  · exact SinkFree.error rfl
  refine (parseJournalFrameBody_sinkFree _ _).bind fun _ => ?_
  split
  · exact SinkFree.error rfl
  split
  · exact SinkFree.error rfl
  refine (encodeJournalFrame_sinkFree _).bind fun _ => ?_
  split
  · exact SinkFree.error rfl
  · exact SinkFree.ok _

theorem appendEmergencyJournalFrame_sinkFree (disk : Disk) (maximumBytes : Nat)
    (body : JournalFrameBodyV1) (maximumFrames : Nat) :
    SinkFree (appendEmergencyJournalFrame env disk maximumBytes body maximumFrames) := by
  unfold appendEmergencyJournalFrame
  dsimp only
  split
  · exact SinkFree.error rfl
  refine (encodeJournalFrame_sinkFree _).bind fun _ => ?_
  split
  · exact SinkFree.error rfl
  · exact appendJournalFrame_sinkFree _ _ _ _ _

theorem appendEmergency_sinkFree (event : JournalEventV1) (world : World) :
    wp (appendEmergency env event) (fun _ next => RecordedEmergency env event world next)
      (fun error next => next = world ∧ error.isRunOutputSinkError = false) world := by
  unfold appendEmergency
  rw [wp_bind, wp_get]
  cases appended : appendEmergencyJournalFrame env world.disk world.state.maximumJournalBytes
    (world.state.nextBody env event) world.state.maximumJournalFrames with
  | error error => exact ⟨rfl, appendEmergencyJournalFrame_sinkFree _ _ _ _ error appended⟩
  | ok frame => exact ⟨frame, appended, rfl⟩

/-! What the end of a run records. -/

/-- A prepared publication that its run can only go on with. -/
def Publishing (env : RunEnvironment) (permits : TurnPermissionV1) (start : RunPointV1) (next : World)
    (slots : List (BatchEntryV1 × SlotV1)) (descriptor : TerminalResultDescriptorV1) : Prop :=
  ∃ finalization, finalization.terminalDescriptor = descriptor ∧
    finalization.terminalDescriptorDigest = env.digestOf descriptor.value ∧
    RunMoves env permits start ⟨next, slots, .published finalization⟩

theorem RecordedEmergency.summary {event : JournalEventV1} {world next : World}
    (recorded : RecordedEmergency env event world next) :
    next.state.summary = world.state.summary := by
  obtain ⟨frame, _, rfl⟩ := recorded
  rfl

theorem orThrow_sinkFree {α : Type} {check : Except RunError α} (free : SinkFree check)
    (world : World) :
    wp (orThrow check) (fun value next => next = world ∧ check = .ok value)
      (fun error next => next = world ∧ error.isRunOutputSinkError = false) world := by
  cases check with
  | error error => exact ⟨rfl, free error rfl⟩
  | ok value => exact ⟨rfl, rfl⟩

/-- A prepared file is put in place with its sink closed, or its publication stays pending. -/
theorem putInPlace_spec (world : World) (slots : List (BatchEntryV1 × SlotV1))
    (finalization : OutputFinalizationV1) :
    wp (tryCatch commitPrepared fun error =>
        if !error.isRunOutputSinkError then throw error
        else tryCatch completePrepared fun _ => throw .outputPublicationPending)
      (fun _ next => RunMoves env permits ⟨world, slots, .prepared finalization⟩
          ⟨next, slots, .prepared finalization⟩ ∧ next.state.summary = world.state.summary)
      (fun error next => error.isRunOutputSinkError = false ∧
        RunMoves env permits ⟨world, slots, .prepared finalization⟩
          ⟨next, slots, .prepared finalization⟩) world := by
  -- A sink that cannot be completed leaves only the pending publication to report.
  have pending (after : World) (sink : FileRunOutputSinkV1) (holds : after.sink = some sink)
      (closed : sink.closed = true)
      (reached : RunMoves env permits ⟨world, slots, .prepared finalization⟩
        ⟨after, slots, .prepared finalization⟩) :
      wp (tryCatch completePrepared fun _ => throw .outputPublicationPending)
        (fun _ next => RunMoves env permits ⟨world, slots, .prepared finalization⟩
            ⟨next, slots, .prepared finalization⟩ ∧ next.state.summary = world.state.summary)
        (fun error next => error.isRunOutputSinkError = false ∧
          RunMoves env permits ⟨world, slots, .prepared finalization⟩
            ⟨next, slots, .prepared finalization⟩) after := by
    rw [wp_tryCatch]
    unfold completePrepared
    rw [wp_bind, wp_get, holds]
    dsimp only
    rw [if_pos closed]
    exact ⟨rfl, reached⟩
  rw [wp_tryCatch]
  unfold commitPrepared
  rw [wp_bind, wp_get]
  cases holds : world.sink with
  | none => exact ⟨.refl, rfl⟩
  | some sink =>
    dsimp only
    by_cases closed : sink.closed = true
    · rw [if_pos closed]
      exact pending world sink holds closed .refl
    · rw [if_neg closed, wp_bind, wp_set]
      have moved : RunMoves env permits ⟨world, slots, .prepared finalization⟩ _ :=
        .single (.closed (.inr ⟨finalization, rfl⟩) holds)
      split
      · exact ⟨moved, rfl⟩
      · exact pending _ _ rfl rfl moved

/-- The reason's descriptor is published with its file, or an error says at which point it failed. -/
theorem publishFileOutput_spec (reason : RunReasonV1) (world : World)
    (slots : List (BatchEntryV1 × SlotV1)) :
    wp (publishFileOutput env (reason.descriptor env world.state.summary world.sink))
      (fun _ next => (next = world ∧ world.sink = none) ∨
        (Publishing env permits ⟨world, slots, .finishing reason⟩ next slots
          (reason.descriptor env world.state.summary world.sink) ∧
            next.state.summary = world.state.summary))
      (fun error next => if error.isRunOutputSinkError then next = world
        else ∃ mode, RunMoves env permits ⟨world, slots, .finishing reason⟩ ⟨next, slots, mode⟩)
      world := by
  unfold publishFileOutput
  rw [wp_bind, wp_get]
  cases holds : world.sink with
  | none => exact .inl ⟨rfl, rfl⟩
  | some sink =>
    dsimp only
    split
    case h_2 => rfl
    case h_1 path format isPartial names =>
      by_cases closed : sink.closed = true
      · rw [if_pos closed]
        rfl
      rw [if_neg closed]
      by_cases wrong : path ≠ (if isPartial then partialOutputPath sink.requestedPath env.runId
          else sink.requestedPath)
      · rw [if_pos wrong]
        rfl
      rw [if_neg wrong, wp_bind]
      refine wp_mono (orThrow_sinkFree (calculateTerminalDescriptorDigest_sinkFree _) world) ?_ ?_
      · rintro digest next ⟨same, calculates⟩
        subst next
        have digests := calculateTerminalDescriptorDigest_ok calculates
        subst digests
        rw [wp_bind]
        refine wp_mono (appendEmergency_sinkFree _ world) (fun _ after recorded => ?_) ?_
        · have prepared : RunMoves env permits ⟨world, slots, .finishing reason⟩ ⟨after, slots,
              .prepared (World.finalization env sink
                (reason.descriptor env world.state.summary world.sink))⟩ :=
            .single (.prepared holds (holds ▸ names) (holds ▸ recorded))
          rw [holds] at prepared
          rw [wp_bind]
          refine wp_mono (@putInPlace_spec env permits after slots (World.finalization env sink
            (reason.descriptor env world.state.summary (some sink)))) ?_ ?_
          · rintro _ linked ⟨moves, counted⟩
            refine wp_mono (appendEmergency_sinkFree _ linked) (fun _ final committed => ?_) ?_
            · refine .inr ⟨⟨_, rfl, rfl, (prepared.trans moves).tail (.published committed)⟩, ?_⟩
              rw [committed.summary, counted, recorded.summary]
            · rintro error _ ⟨rfl, free⟩
              rw [if_neg (by simp [free])]
              exact ⟨_, prepared.trans moves⟩
          · rintro error next ⟨free, moves⟩
            rw [if_neg (by simp [free])]
            exact ⟨_, prepared.trans moves⟩
        · rintro error _ ⟨rfl, free⟩
          rw [if_neg (by simp [free])]
          exact ⟨_, .refl⟩
      · rintro error next ⟨same, free⟩
        rw [if_neg (by simp [free]), same]
        exact ⟨_, .refl⟩

theorem appendTerminal_spec (descriptor : TerminalResultDescriptorV1) (world : World) :
    wp (appendTerminal env descriptor)
      (fun _ next => RecordedEmergency env
        (.terminal descriptor (env.digestOf descriptor.value)) world next)
      (fun error next => next = world ∧ error.isRunOutputSinkError = false) world := by
  unfold appendTerminal
  rw [wp_bind]
  refine wp_mono (orThrow_sinkFree (calculateTerminalDescriptorDigest_sinkFree _) world) ?_
    (fun _ _ fails => fails)
  rintro digest next ⟨same, calculates⟩
  subst next
  rw [calculateTerminalDescriptorDigest_ok calculates]
  exact appendEmergency_sinkFree _ world

theorem discardSink_spec (world : World) (slots : List (BatchEntryV1 × SlotV1))
    (reason : RunReasonV1) :
    wp discardSink
      (fun _ next => RunMoves env permits ⟨world, slots, .finishing reason⟩
          ⟨next, slots, .finishing reason⟩ ∧ next.state.summary = world.state.summary)
      (fun _ _ => False) world := by
  unfold discardSink
  rw [wp_modify]
  refine ⟨?_, rfl⟩
  cases holds : world.sink with
  | none =>
    have same : { world with sink := none } = world := by rw [← holds]
    simp only [Option.map_none, same]
    exact .refl
  | some sink => exact .single (.closed (.inl ⟨reason, rfl⟩) holds)

theorem discardAndTerminate_spec (world : World) (slots : List (BatchEntryV1 × SlotV1))
    (stop : RunStopV1) :
    wp (do
        discardSink
        appendTerminal env (createTerminalDescriptor env world.state.summary
          (incompleteKind world.state.summary) (.stopped stop) none)
        return RunReasonV1.result world.state.summary (.stopped stop))
      (fun result next => RunMoves env permits ⟨world, slots, .finishing (.stopped stop)⟩
        ⟨next, slots, .ended (.ok result)⟩)
      (fun _ next => ∃ mode, RunMoves env permits ⟨world, slots, .finishing (.stopped stop)⟩
        ⟨next, slots, mode⟩) world := by
  rw [wp_bind]
  refine wp_mono (@discardSink_spec env permits world slots (.stopped stop)) ?_ (fun _ _ => False.elim)
  rintro _ next ⟨moves, counted⟩
  rw [wp_bind]
  refine wp_mono (appendTerminal_spec _ next) (fun _ final recorded => ?_) ?_
  · rw [← counted] at recorded ⊢
    exact moves.tail (.terminated recorded)
  · rintro _ _ ⟨rfl, _⟩
    exact ⟨_, moves⟩

/-- A run that stops early records its terminal frame, or breaks. -/
theorem finalizeIncompleteOutput_spec (world : World) (slots : List (BatchEntryV1 × SlotV1))
    (stop : RunStopV1) :
    wp (finalizeIncompleteOutput env stop)
      (fun result next => RunMoves env permits ⟨world, slots, .finishing (.stopped stop)⟩
        ⟨next, slots, .ended (.ok result)⟩)
      (fun _ next => ∃ mode, RunMoves env permits ⟨world, slots, .finishing (.stopped stop)⟩
        ⟨next, slots, mode⟩) world := by
  unfold finalizeIncompleteOutput
  rw [wp_bind, wp_get]
  dsimp only
  split
  · exact discardAndTerminate_spec world slots stop
  · -- What was committed is published, and a sink that fails is discarded instead.
    rw [wp_tryCatch, wp_bind]
    refine wp_mono (@publishFileOutput_spec env permits (.stopped stop) world slots) ?_ ?_
    · rintro _ next (⟨same, empty⟩ | ⟨⟨finalization, names, digests, moves⟩, counted⟩)
      · subst next
        rw [wp_bind]
        refine wp_mono (appendTerminal_spec _ world) (fun _ final recorded => ?_) ?_
        · rw [empty] at recorded
          exact .single (.terminated recorded)
        · rintro error next ⟨same, free⟩
          simp only [free, Bool.not_false, if_true]
          exact same ▸ ⟨_, .refl⟩
      · rw [wp_bind]
        refine wp_mono (appendTerminal_spec _ next) (fun _ final recorded => ?_) ?_
        · refine moves.tail (.publishedTerminal ?_ ?_ ?_ ?_)
          · rw [names, digests]
            exact recorded
          · rw [names]; rfl
          · rw [names]; rfl
          · rw [names]; rfl
        · rintro error final ⟨same, free⟩
          simp only [free, Bool.not_false, if_true]
          exact same ▸ ⟨_, moves⟩
    · intro error next fails
      by_cases ofSink : error.isRunOutputSinkError = true
      · simp only [ofSink, if_true] at fails
        subst next
        simp only [ofSink, Bool.not_true, Bool.false_eq_true, if_false]
        have again : RunMoves env permits ⟨world, slots, .finishing (.stopped stop)⟩
            ⟨world, slots, .finishing (.stopped .outputSinkFailure)⟩ := .single (.stopped rfl)
        refine wp_mono (@discardAndTerminate_spec env permits world slots .outputSinkFailure)
          (fun _ _ moves => again.trans moves) ?_
        rintro _ _ ⟨mode, moves⟩
        exact ⟨mode, again.trans moves⟩
      · simp only [ofSink, Bool.false_eq_true, if_false] at fails
        simp only [ofSink, Bool.not_false, if_true]
        exact fails

theorem finish_spec (world : World) (slots : List (BatchEntryV1 × SlotV1)) (mode : RunModeV1)
    (stop : RunStopV1) (may : mode.stoppable = true) :
    wp (finish env stop)
      (fun result next => RunMoves env permits ⟨world, slots, mode⟩
        ⟨next, slots, .ended (.ok result)⟩)
      (fun _ next => ∃ after, RunMoves env permits ⟨world, slots, mode⟩ ⟨next, slots, after⟩)
      world := by
  have stops : RunMoves env permits ⟨world, slots, mode⟩ ⟨world, slots, .finishing (.stopped stop)⟩ :=
    .single (.stopped may)
  refine wp_mono (@finalizeIncompleteOutput_spec env permits world slots stop)
    (fun _ _ moves => stops.trans moves) ?_
  rintro _ _ ⟨after, moves⟩
  exact ⟨after, stops.trans moves⟩

/-- A run that finished its work records its terminal frame, stops early for its sink, or breaks. -/
theorem finalizeSuccessfulRun_spec (world : World) (slots : List (BatchEntryV1 × SlotV1))
    (stop : RunCompletionStopV1) :
    wp (finalizeSuccessfulRun env stop)
      (fun result next => RunMoves env permits ⟨world, slots, .finishing (.completed stop)⟩
        ⟨next, slots, .ended (.ok result)⟩)
      (fun _ next => ∃ mode, RunMoves env permits ⟨world, slots, .finishing (.completed stop)⟩
        ⟨next, slots, mode⟩) world := by
  unfold finalizeSuccessfulRun finalizeSuccessfulOutput
  rw [wp_tryCatch, wp_bind, wp_bind, wp_get]
  dsimp only
  rw [wp_bind]
  refine wp_mono (@publishFileOutput_spec env permits (.completed stop) world slots) ?_ ?_
  · rintro _ next (⟨same, empty⟩ | ⟨⟨finalization, names, digests, moves⟩, counted⟩)
    · subst next
      refine wp_mono (appendTerminal_spec _ world) (fun _ final recorded => ?_) ?_
      · rw [wp_bind, wp_get]
        have unchanged := recorded.summary
        rw [empty] at recorded
        rw [wp_pure, unchanged]
        exact .single (.terminated recorded)
      · rintro error next ⟨same, free⟩
        simp only [free, Bool.not_false, if_true]
        exact same ▸ ⟨_, .refl⟩
    · refine wp_mono (appendTerminal_spec _ next) (fun _ final recorded => ?_) ?_
      · rw [wp_bind, wp_get, wp_pure]
        refine moves.tail (.publishedTerminal ?_ ?_ ?_ ?_)
        · rw [names, digests]
          exact recorded
        · rw [names]; rfl
        · rw [names]; rfl
        · rw [names, recorded.summary, counted]; rfl
      · rintro error final ⟨same, free⟩
        simp only [free, Bool.not_false, if_true]
        exact same ▸ ⟨_, moves⟩
  · intro error next fails
    by_cases ofSink : error.isRunOutputSinkError = true
    · simp only [ofSink, if_true] at fails
      subst next
      simp only [ofSink, Bool.not_true, Bool.false_eq_true, if_false]
      exact finish_spec world slots _ .outputSinkFailure rfl
    · simp only [ofSink, Bool.false_eq_true, if_false] at fails
      simp only [ofSink, Bool.not_false, if_true]
      exact fails

end Klura
