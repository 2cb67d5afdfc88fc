import Klura.Moves.Stage

/-! The stretch of a chain up to its commit turn is a sequence of elementary moves. -/

namespace Klura

open Program

variable {env : RunEnvironment} {entry : BatchEntryV1} {permits : TurnPermissionV1}

/-! What the appends do. -/

theorem append_spec (event : JournalEventV1) (world : World) :
    wp (append env event)
      (fun recorded next => if recorded then Recorded env event world next
        else next = world ∧ hasOrdinaryJournalCapacity world.state 1 = false)
      (fun _ next => next = world) world := by
  unfold append
  rw [wp_bind, wp_get]
  by_cases capacity : hasOrdinaryJournalCapacity world.state 1 = true
  · simp only [capacity, Bool.not_true, Bool.false_eq_true, if_false]
    -- The capacity is there, so what remains is decided by the journal itself.
    cases appended : appendJournalFrame env world.disk (world.state.nextBody env event)
      env.policy.durable.maxJournalBytes world.state.maximumJournalFrames
      JOURNAL_EMERGENCY_BYTE_RESERVE_V1 with
    | error error => rfl
    | ok frame => exact ⟨capacity, frame, appended, rfl⟩
  · simp only [Bool.not_eq_true] at capacity
    simp [capacity]

theorem append_raises (event : JournalEventV1) (world : World) :
    wp (append env event) (fun _ _ => True)
      (fun _ _ => hasOrdinaryJournalCapacity world.state 1 = true ∧
        ∀ next, ¬Recorded env event world next) world := by
  unfold append
  rw [wp_bind, wp_get]
  by_cases capacity : hasOrdinaryJournalCapacity world.state 1 = true
  · simp only [capacity, Bool.not_true, Bool.false_eq_true, if_false]
    cases appended : appendJournalFrame env world.disk (world.state.nextBody env event)
      env.policy.durable.maxJournalBytes world.state.maximumJournalFrames
      JOURNAL_EMERGENCY_BYTE_RESERVE_V1 with
    | ok frame => trivial
    | error error =>
      refine ⟨trivial, fun next recorded => ?_⟩
      -- A recorded frame would be one that the journal took.
      obtain ⟨_, frame, took, _⟩ := recorded
      rw [took] at appended
      cases appended
  · simp only [Bool.not_eq_true] at capacity
    simp [capacity]

theorem appendEmergency_spec (event : JournalEventV1) (world : World) :
    wp (appendEmergency env event) (fun _ next => RecordedEmergency env event world next)
      (fun _ next => next = world) world := by
  unfold appendEmergency
  rw [wp_bind, wp_get]
  cases appended : appendEmergencyJournalFrame env world.disk world.state.maximumJournalBytes
    (world.state.nextBody env event) world.state.maximumJournalFrames with
  | error error => rfl
  | ok frame => exact ⟨frame, appended, rfl⟩

theorem appendDataBlob_spec (content : BlobContentV1) (maximumBytes : Nat) (world : World) :
    wp (appendDataBlob env content maximumBytes)
      (fun reference next => reference = world.disk.nextReference env content ∧
        next = world.spooled env content ∧
          world.disk.spoolBytes + canonicalBytes content.value ≤ maximumBytes)
      (fun _ next => next = world) world := by
  unfold appendDataBlob
  rw [wp_bind, wp_get]
  by_cases full : maximumBytes < world.disk.spoolBytes + (canonicalJson content.value).length
  · simp [full]
  · simp only [full, if_false]
    exact ⟨rfl, rfl, Nat.not_lt.mp full⟩

/-! What the looks at the stops do. -/

theorem Quiet.refl (world : World) : Quiet world world :=
  ⟨world.semanticStops, world.controlStop, world.batchStop, world.clock, world.linkSucceeds, rfl⟩

theorem controlStop_spec (world : World) :
    wp controlStop (fun stop next => Quiet world next ∧
      stop.isSome = (world.controlStop.isSome || world.clock.headD false)) (fun _ _ => False)
      world := by
  unfold controlStop
  rw [wp_bind, wp_get]
  split
  · rename_i latched
    exact ⟨Quiet.refl world, by simp [latched]⟩
  · rename_i unlatched still
    exact ⟨Quiet.refl world, by simp [unlatched, still]⟩
  · rename_i late clock unlatched looks
    split
    · rename_i isLate
      exact ⟨⟨_, _, _, _, _, rfl⟩, by simp [unlatched, looks, isLate]⟩
    · rename_i inTime
      exact ⟨⟨_, _, _, _, _, rfl⟩, by simp [unlatched, looks, inTime]⟩

theorem chainStop_spec (world : World) :
    wp chainStop (fun stop next => Quiet world next ∧ stop.isSome = world.stopped)
      (fun _ _ => False) world := by
  unfold chainStop
  rw [wp_bind, wp_get]
  split
  · rename_i stop reported
    exact ⟨Quiet.refl world, by simp [World.stopped, reported]⟩
  · rename_i unreported
    refine wp_mono (controlStop_spec world) ?_ (fun _ _ impossible => impossible)
    rintro stop next ⟨quiet, found⟩
    exact ⟨quiet, by simp [World.stopped, unreported, found]⟩

theorem observeItem_spec (item : JsonValueV1) (world : World) :
    wp (observeItem item) (fun _ next => Quiet world next) (fun _ next => Quiet world next)
      world := by
  unfold observeItem
  rw [wp_bind, wp_get, wp_bind, wp_set]
  cases (world.semanticStops.observe item).1 with
  | error error => exact ⟨_, _, _, _, _, rfl⟩
  | ok reached => exact ⟨_, _, _, _, _, rfl⟩

/-! What a chain does between two points where it waits. -/

/-- The stage a chain has come to where it waits or has ended. -/
def ChainPhaseV1.stage : ChainPhaseV1 → StageV1
  | .calling chain => .calling chain
  | .claiming chain continuation => .claiming chain continuation
  | .returned result => .ended (.ok result)
  | .thrown error => .ended (.error error)

/-- The stage one stretch of a chain has come to, before its outermost cleanup. -/
def ChainFlowV1.stage : ChainFlowV1 → StageV1
  | .await phase => phase.stage
  | .done chain result => .leaving chain (.ok result)
  | .raised chain error => .leaving chain (.error error)

/-- A stretch that a chain goes through by elementary moves, without failing. -/
def Stretches (env : RunEnvironment) (entry : BatchEntryV1) (permits : TurnPermissionV1)
    (stretch : RunProgram ChainFlowV1) (point : ChainPoint) : Prop :=
  wp stretch (fun flow next => ChainMoves env entry permits point (next, flow.stage))
    (fun _ _ => False) point.1

variable {stage : StageV1}

variable {stretch : RunProgram ChainFlowV1} {world : World}

theorem Stretches.after {start : ChainPoint}
    (reached : ChainMoves env entry permits start (world, stage))
    (stretches : Stretches env entry permits stretch (world, stage)) :
    wp stretch (fun flow next => ChainMoves env entry permits start (next, flow.stage))
      (fun _ _ => False) world :=
  wp_mono stretches (fun _ _ moves => reached.trans moves) (fun _ _ impossible => impossible)

theorem Stretches.afterQuiet {next : World} (quiet : Quiet world next)
    (stretches : Stretches env entry permits stretch (next, stage)) :
    wp stretch (fun flow final => ChainMoves env entry permits (world, stage) (final, flow.stage))
      (fun _ _ => False) next :=
  Stretches.after (.single (.quiet quiet)) stretches

theorem failTaskChain_spec (chain : TaskChainV1) (stop : RunStopV1) (world : World) :
    wp (failTaskChain env chain stop none)
      (fun result next => result = .failed stop ∧ Quiet world next) (fun _ _ => False) world := by
  unfold failTaskChain
  dsimp only
  split
  · exact ⟨rfl, _, _, _, _, _, rfl⟩
  · exact ⟨rfl, Quiet.refl world⟩

theorem failTaskChain_explained (chain : TaskChainV1) (stop : RunStopV1) (cause : StopCauseV1)
    (world : World) :
    wp (failTaskChain env chain stop (some cause))
      (fun result next => result = .failed stop ∧ ∃ recorded,
        RecordedEmergency env (.stopReason (some chain.node.nodeId) (some chain.task.id) stop
          (boundStopReasonMessage (causeText cause))) world recorded ∧ Quiet recorded next)
      (fun _ next => next = world) world := by
  unfold failTaskChain recordStopReason
  dsimp only
  rw [wp_bind]
  refine wp_mono (appendEmergency_spec _ world) (fun _ recorded append => ?_) (fun _ _ same => same)
  split
  · exact ⟨rfl, recorded, append, _, _, _, _, _, rfl⟩
  · exact ⟨rfl, recorded, append, Quiet.refl recorded⟩

theorem Quiet.gaveBack {next : World} (quiet : Quiet world next) (chain : TaskChainV1) :
    Quiet (world.gaveBack chain) (next.gaveBack chain) := by
  obtain ⟨stops, control, batch, clock, link, rfl⟩ := quiet
  exact ⟨stops, control, batch, clock, link, rfl⟩

variable {chain : TaskChainV1}

theorem failAttempt_stretch (stop : RunStopV1) (world : World)
    (leaves : ∀ world, ChainMove env entry permits (world, stage) (world.gaveBack chain, .leaving chain.gaveBack (.ok (.failed stop)))) :
    Stretches env entry permits (failAttempt env chain stop none) (world, stage) := by
  unfold Stretches failAttempt
  simp only [wp_bind]
  refine wp_mono (failTaskChain_spec chain stop world) ?_ (fun _ _ impossible => impossible)
  rintro _ next ⟨rfl, quiet⟩
  exact .head (.quiet quiet) (.single (leaves next))

theorem failAttempt_gaveUp (stop : RunStopV1) (world : World) (may : stage.mayGiveUp = some chain) :
    Stretches env entry permits (failAttempt env chain stop none) (world, stage) :=
  failAttempt_stretch stop world fun _ => .gaveUp may

theorem failAttempt_explained {chain : TaskChainV1} {stage : StageV1} (stop : RunStopV1)
    (cause : StopCauseV1) (world : World) (may : stage.mayExplain = some chain) :
    wp (failAttempt env chain stop (some cause))
      (fun flow next => ChainMoves env entry permits (world, stage) (next, flow.stage))
      (fun _ next => next = world) world := by
  unfold failAttempt
  simp only [wp_bind]
  refine wp_mono (failTaskChain_explained chain stop cause world) ?_ (fun _ _ same => same)
  rintro _ next ⟨rfl, recorded, append, quiet⟩
  exact .head (.explained may append) (.single (.quiet (quiet.gaveBack chain)))

/-- A chain asks for its turn, which its order may refuse. -/
theorem claimCommitTurn_spec (chain : TaskChainV1) (continuation : ClaimContinuationV1)
    (world : World) (asks : chain.ownsCommitTurn = false → permits.asks) :
    wp (claimCommitTurn chain continuation)
      (fun flow next => ChainMoves env entry permits (world, .asking chain continuation)
        (next, flow.stage))
      (fun error next => next = world ∧ world.attemptOrder.refusal chain = some error) world := by
  unfold claimCommitTurn
  by_cases owns : chain.ownsCommitTurn = true
  · simp only [owns, if_true, wp_pure]
    have grants : world.attemptOrder.refusal chain = none := by
      simp [AttemptOrderV1.refusal, owns]
    have moves : ChainMove env entry permits (world, .asking chain continuation) _ :=
      .asked asks grants
    simp only [AttemptOrderV1.asked, owns, if_true] at moves
    exact .single moves
  · simp only [Bool.not_eq_true] at owns
    simp only [owns, Bool.false_eq_true, if_false]
    -- Out of turn, the order itself decides.
    cases held : chain.chainOrdinal with
    | none => exact ⟨rfl, by simp [AttemptOrderV1.refusal, owns, held]⟩
    | some ordinal =>
      dsimp only
      rw [wp_bind, waitForTurn, wp_bind, wp_get]
      cases waits : world.attemptOrder.waitForTurn ordinal with
      | error error => exact ⟨rfl, by simp [AttemptOrderV1.refusal, owns, held, waits]⟩
      | ok order =>
        have grants : world.attemptOrder.refusal chain = none := by
          simp [AttemptOrderV1.refusal, owns, held, waits]
        have moves : ChainMove env entry permits (world, .asking chain continuation) _ :=
          .asked asks grants
        simp only [AttemptOrderV1.asked, owns, held, waits, Bool.false_eq_true,
          if_false] at moves
        exact .single moves

theorem handleAttemptError_stretch (chain : TaskChainV1) (error : RunError) (world : World)
    (asks : chain.ownsCommitTurn = false → chainStopForError error ≠ none → permits.asks) :
    Stretches env entry permits (handleAttemptError chain error) (world, .erring chain error) := by
  unfold Stretches handleAttemptError
  cases stops : chainStopForError error with
  | none => exact .single (.aborted stops)
  | some stop =>
    simp only [wp_tryCatch]
    have asked : chain.ownsCommitTurn = false → permits.asks := by
      intro owns
      exact asks owns (by rw [stops]; exact Option.some_ne_none stop)
    refine wp_mono (claimCommitTurn_spec chain (.failed stop error) world asked)
      (fun _ _ moves => .head (.classified stops) moves) ?_
    rintro refused _ ⟨rfl, refusal⟩
    refine .head (.classified stops) (.single (.raised rfl ?_ ?_))
    · rintro _ ⟨⟩; exact refusal
    · rintro _ ⟨⟩

theorem handleAttemptError_inside (error : RunError) (world : World)
    (inside : stage.inAttempt = some chain)
    (asks : chain.ownsCommitTurn = false → chainStopForError error ≠ none → permits.asks) :
    Stretches env entry permits (handleAttemptError chain error) (world, stage) :=
  Stretches.after (.single (.erred inside)) (handleAttemptError_stretch chain error world asks)

theorem placeAttempt_stretch (chain : TaskChainV1) (world : World) :
    Stretches env entry permits (placeAttempt env chain) (world, .intended chain) := by
  unfold Stretches placeAttempt
  rw [wp_bind, wp_get]
  by_cases full : (env.policy.durable.maxReorderBufferBytes : Int) <
      world.state.reservedReorderBufferBytes + chain.reorderBytes env world
  · rw [if_pos full]
    exact failAttempt_gaveUp _ world rfl
  · rw [if_neg full]
    have placed : ChainMove env entry permits (world, .intended chain) _ :=
      .placed (Int.not_lt.mp full)
    simp only [TaskChainV1.placed, World.placed] at placed
    cases held : chain.chainOrdinal with
    | some ordinal =>
      simp only [held, Option.getD_some, Option.isNone_some, Bool.false_eq_true, if_false] at placed
      exact .single placed
    | none =>
      simp only [held, Option.getD_none, Option.isNone_none, if_true] at placed
      exact .single placed

/-- A chain's next attempt is begun by elementary moves, or leaves the chain where it was. -/
theorem beginAttempt_spec (chain : TaskChainV1) (world : World) :
    wp (beginAttempt env chain)
      (fun flow next => ChainMoves env entry permits (world, .attempting chain) (next, flow.stage))
      (fun _ next => Quiet world next) world := by
  unfold beginAttempt
  rw [wp_bind]
  refine wp_mono (chainStop_spec world) ?_ (fun _ _ => False.elim)
  rintro stop next ⟨quiet, _⟩
  have gives (stop : RunStopV1) : wp (failAttempt env chain stop none)
      (fun flow final => ChainMoves env entry permits (world, .attempting chain) (final, flow.stage))
      (fun _ final => Quiet world final) next :=
    wp_mono (Stretches.afterQuiet quiet (failAttempt_gaveUp stop next rfl))
      (fun _ _ moves => moves) (fun _ _ => False.elim)
  cases stop with
  | some stop => exact gives stop
  | none =>
    rw [wp_bind, wp_get]
    by_cases forbidden : attemptForbidden env next.state chain = true
    · rw [if_pos forbidden]
      exact gives _
    · rw [if_neg forbidden, wp_bind]
      refine wp_mono (append_spec _ next) (fun recorded final append => ?_)
        (fun _ final same => same ▸ quiet)
      cases recorded with
      | false =>
        obtain ⟨rfl, _⟩ := append
        exact gives _
      | true =>
        -- From here on nothing fails any more.
        have moves : ChainMoves env entry permits (world, .attempting chain)
            (final, .intended chain) :=
          .head (.quiet quiet) (.single (.intended (Bool.not_eq_true _ ▸ forbidden) append))
        exact wp_mono (Stretches.after moves (placeAttempt_stretch chain final))
          (fun _ _ reached => reached) (fun _ _ => False.elim)

theorem nextAttempt_stretch (chain : TaskChainV1) (world : World) :
    Stretches env entry permits (nextAttempt env chain) (world, .attempting chain) := by
  unfold Stretches nextAttempt
  rw [wp_tryCatch]
  refine wp_mono (beginAttempt_spec chain world) (fun _ _ reached => reached) ?_
  intro error next quiet
  exact .head (.quiet quiet) (.single .unintended)

/-! Buffering the items of a page. -/

/-- An error inside an attempt was raised at a stage that elementary moves lead to. -/
def FailsInside (env : RunEnvironment) (entry : BatchEntryV1) (permits : TurnPermissionV1) (chain : TaskChainV1)
    (point : ChainPoint) (next : World) : Prop :=
  ∃ stage : StageV1, stage.inAttempt = some chain ∧
    ChainMoves env entry permits point (next, stage)

variable {α : Type}

theorem orRaise_spec (check : Except ContractIssueV1 α) (world : World) :
    wp (orRaise check) (fun value next => next = world ∧ check = .ok value)
      (fun _ next => next = world) world := by
  cases check with
  | error issue => rfl
  | ok value => exact ⟨rfl, rfl⟩

theorem orItemInvalid_spec (check : Except ContractIssueV1 α) (world : World) :
    wp (orItemInvalid check) (fun value next => next = world ∧ check = .ok value)
      (fun _ next => next = world) world := by
  cases check with
  | error issue => rfl
  | ok value => exact ⟨rfl, rfl⟩

theorem orThrow_spec (check : Except RunError α) (world : World) :
    wp (orThrow check) (fun value next => next = world ∧ check = .ok value)
      (fun _ next => next = world) world := by
  cases check with
  | error error => rfl
  | ok value => exact ⟨rfl, rfl⟩

theorem projectItem_spec (input : ItemBufferInputV1) (rawItem : JsonValueV1) (world : World) :
    wp (projectItem env input rawItem) (fun value next => next = world ∧
      projectItem env input rawItem world = .ok value world) (fun _ next => next = world) world := by
  have frame : wp (projectItem env input rawItem) (fun _ next => next = world)
      (fun _ next => next = world) world := by
    unfold projectItem
    rw [wp_bind]
    refine wp_mono (orRaise_spec _ world) ?_ (fun _ _ same => same)
    rintro item _ ⟨rfl, _⟩
    rw [wp_bind]
    refine wp_mono (orItemInvalid_spec _ _) ?_ (fun _ _ same => same)
    rintro _ _ ⟨rfl, _⟩
    split
    · rfl
    · rw [wp_bind]
      refine wp_mono (orItemInvalid_spec _ _) ?_ (fun _ _ same => same)
      rintro _ _ ⟨rfl, _⟩
      rfl
  refine wp_mono (wp_ran frame) ?_ ?_
  · rintro value next ⟨rfl, ran⟩
    exact ⟨rfl, ran⟩
  · rintro _ next ⟨rfl, _⟩
    rfl

variable {context : PageContextV1} {items : List BufferedRunItemV1} {emit : ScrapeEmitV1}
  {taskData : JsonValueV1}

/-- One new item is made durable, or its page fails at the point its moves had reached. -/
theorem bufferNewItem_spec (live : chain.isTerminal context = false)
    (emits : chain.task.emit = some emit) (data : context.taskData = some taskData)
    (item : JsonValueV1) (digest : Sha256DigestV1) (world : World)
    (projected : Projected env (chain.page emit taskData) world item digest)
    (fresh : ∀ entry ∈ world.state.bufferedItems, entry.logicalOrder ≠ (chain.page emit taskData).position items.length) :
    wp (bufferNewItem env chain.node.nodeId digest
        ((chain.page emit taskData).position items.length) item)
      (fun buffered next => ChainMoves env entry permits (world, .buffering chain context items)
        (next, .buffering chain context (items ++ [buffered])))
      (fun _ next => FailsInside env entry permits chain
        (world, .buffering chain context items) next) world := by
  have stays : FailsInside env entry permits chain (world, .buffering chain context items) world :=
    ⟨_, rfl, .refl⟩
  unfold bufferNewItem
  rw [wp_bind, wp_get]
  dsimp only
  -- Each budget either refuses before anything is written or becomes a fact about the item.
  split
  · exact stays
  · rename_i itemRoom
    rw [wp_bind]
    refine wp_mono (orThrow_spec _ world) ?_ (fun _ _ same => same ▸ stays)
    rintro reserved next ⟨same, preview⟩
    subst next
    split
    · exact stays
    · rename_i outputRoom
      split
      · exact stays
      · rename_i identityRoom
        split
        · exact stays
        · rename_i capacity
          rw [wp_bind]
          refine wp_mono (appendDataBlob_spec _ _ _) ?_ (fun _ _ same => same ▸ stays)
          rintro _ _ ⟨rfl, rfl, spoolRoom⟩
          let buffered : BufferedRunItemV1 :=
            { nodeId := chain.node.nodeId, identityDigest := digest
              logicalOrder := (chain.page emit taskData).position items.length
              item, itemBytes := canonicalBytes item, reservedOutputBytes := reserved }
          have may : Bufferable env (chain.page emit taskData) world items.length buffered :=
            { node := rfl, position := rfl, projected, fresh, items := Int.not_le.mp itemRoom
              bytes := rfl, preview := ⟨reserved, preview, rfl⟩
              output := Int.not_lt.mp outputRoom, identityState := Int.not_lt.mp identityRoom
              capacity := by simpa using capacity, spool := spoolRoom }
          have spooled : ChainMoves env entry permits (world, .buffering chain context items) _ :=
            .single (.spooled live emits data may)
          rw [wp_bind]
          refine wp_mono (append_spec _ _) (fun recorded next append => ?_)
            ?_
          · cases recorded with
            | false =>
              rw [append.1]
              exact ⟨_, rfl, spooled⟩
            | true => exact spooled.tail (.buffered append)
          · rintro _ _ rfl
            exact ⟨_, rfl, spooled⟩

/-- The item at a page's next position is buffered, or its page fails. -/
theorem bufferItem_spec (live : chain.isTerminal context = false)
    (emits : chain.task.emit = some emit) (data : context.taskData = some taskData)
    (rawItem : JsonValueV1) (world : World) :
    wp (bufferItem env (chain.page emit taskData) items.length rawItem)
      (fun buffered next => ChainMoves env entry permits (world, .buffering chain context items)
        (next, .buffering chain context (items ++ [buffered])))
      (fun _ next => FailsInside env entry permits chain
        (world, .buffering chain context items) next) world := by
  have stays : FailsInside env entry permits chain (world, .buffering chain context items) world :=
    ⟨_, rfl, .refl⟩
  unfold bufferItem
  rw [wp_bind]
  refine wp_mono (projectItem_spec _ rawItem world) ?_ (fun _ _ same => same ▸ stays)
  rintro ⟨item, digest⟩ next ⟨same, projected⟩
  subst next
  dsimp only
  rw [wp_bind, wp_get]
  -- A replayed page finds its position taken, any other page finds it free.
  split
  · rename_i existing found
    have member := List.mem_of_find?_eq_some found
    have position := List.find?_some found
    split
    · exact stays
    · rename_i unchanged
      have node : existing.nodeId = chain.node.nodeId := by
        by_contra different
        exact unchanged (.inl different)
      exact .single (.repeated live emits data member node (of_decide_eq_true position))
  · rename_i absent
    have fresh := List.find?_eq_none.mp absent
    exact bufferNewItem_spec live emits data item digest world ⟨rawItem, projected⟩
      fun entry member taken => fresh entry member (decide_eq_true taken)

theorem bufferItems_spec (live : chain.isTerminal context = false)
    (emits : chain.task.emit = some emit) (data : context.taskData = some taskData)
    (rawItems : List JsonValueV1) (items : List BufferedRunItemV1) (world : World) :
    wp (bufferItems env (chain.page emit taskData) items.length rawItems)
      (fun buffered next => ChainMoves env entry permits (world, .buffering chain context items)
        (next, .buffering chain context (items ++ buffered)))
      (fun _ next => FailsInside env entry permits chain
        (world, .buffering chain context items) next) world := by
  -- The induction follows the raw items, with the buffered ones in front growing.
  induction rawItems generalizing items world with
  | nil =>
    have done : ChainMoves env entry permits (world, .buffering chain context items)
        (world, .buffering chain context (items ++ [])) := by rw [List.append_nil]
    exact done
  | cons rawItem rest ih =>
    unfold bufferItems
    rw [wp_bind]
    refine wp_mono (bufferItem_spec live emits data rawItem world) (fun buffered next moves => ?_)
      (fun _ _ fails => fails)
    rw [wp_bind]
    have later := ih (items ++ [buffered]) next
    rw [List.length_append, List.length_singleton] at later
    refine wp_mono later (fun others final rest => ?_) ?_
    · have together := moves.trans rest
      rw [List.append_assoc] at together
      exact together
    · rintro error final ⟨stage, inside, rest⟩
      exact ⟨stage, inside, moves.trans rest⟩

theorem bufferPage_spec (chain : TaskChainV1) (context : PageContextV1) (world : World) :
    wp (bufferPage env chain context)
      (fun items next => ChainMoves env entry permits (world, .buffering chain context [])
        (next, .buffering chain context items))
      (fun _ next => FailsInside env entry permits chain (world, .buffering chain context []) next)
      world := by
  have stays : FailsInside env entry permits chain (world, .buffering chain context []) world :=
    ⟨_, rfl, .refl⟩
  unfold bufferPage
  split
  · exact .refl
  · rename_i live
    unfold bufferRunItems
    cases emits : chain.task.emit with
    | none => exact .refl
    | some emit =>
      cases data : context.taskData with
      | none => exact .refl
      | some taskData =>
        dsimp only
        rw [wp_bind]
        refine wp_mono (orItemInvalid_spec _ world) ?_ (fun _ _ same => same ▸ stays)
        rintro raw _ ⟨rfl, _⟩
        rw [wp_bind]
        refine wp_mono (orThrow_spec _ _) ?_ (fun _ _ same => same ▸ stays)
        rintro rawItems _ ⟨rfl, _⟩
        exact bufferItems_spec (decide_eq_false live) emits data rawItems [] _

/-! What follows a call. -/

theorem Recorded.stopped {event : JournalEventV1} {world next : World}
    (recorded : Recorded env event world next) : next.stopped = world.stopped := by
  obtain ⟨_, frame, _, rfl⟩ := recorded
  rfl

theorem failAttempt_afterCall (stop : RunStopV1) (world : World)
    (gives : stage.mayGiveUp = some chain ∨ (permits.early ∧ stage.leavesEarly = some chain)) :
    Stretches env entry permits (failAttempt env chain stop none) (world, stage) := by
  rcases gives with may | ⟨allowed, leaves⟩
  · exact failAttempt_gaveUp stop world may
  · exact failAttempt_stretch stop world fun _ => .leftEarly allowed leaves

/-- What a call returned is recorded and its items buffered, or the attempt fails. -/
theorem observeResult_spec (chain : TaskChainV1) (result : PublicCallResultV1) (world : World)
    (leaves : chain.ownsCommitTurn = false → EndsUnasked env world chain result → permits.early)
    (asks : chain.ownsCommitTurn = false → ¬EndsUnasked env world chain result → permits.asks) :
    wp (observeResult env chain result)
      (fun flow next => ChainMoves env entry permits (world, .received chain result)
        (next, flow.stage))
      (fun _ next => FailsInside env entry permits chain (world, .received chain result) next ∧
        ¬EndsUnasked env world chain result) world := by
  have gives (ends : EndsUnasked env world chain result) (stage : StageV1)
      (either : stage = .received chain result ∨ stage = .observed chain result) :
      stage.mayGiveUp = some chain ∨ (permits.early ∧ stage.leavesEarly = some chain) := by
    cases owns : chain.ownsCommitTurn with
    | true => rcases either with rfl | rfl <;> simp [StageV1.mayGiveUp, owns]
    | false =>
      have allowed := leaves owns ends
      rcases either with rfl | rfl <;> simp [StageV1.leavesEarly, owns, allowed]
  unfold observeResult
  rw [wp_bind]
  refine wp_mono (wp_and (append_spec _ world) (append_raises _ world))
    (fun recorded next append => ?_) (fun error next raised => ?_)
  · obtain ⟨append, _⟩ := append
    cases recorded with
    | false =>
      obtain ⟨same, refused⟩ := append
      subst next
      exact wp_mono (failAttempt_afterCall _ world (gives (.inl refused) _ (.inl rfl)))
        (fun _ _ moves => moves) (fun _ _ => False.elim)
    | true =>
      have recorded : Recorded env (.attemptObserved chain.node.nodeId chain.task.id result.kind
        result.attempts) world next := append
      have observed : ChainMoves env entry permits (world, .received chain result)
          (next, .observed chain result) := .single (.observed recorded)
      simp only [Bool.not_true, Bool.false_eq_true, if_false]
      rw [wp_bind]
      refine wp_mono (chainStop_spec next) ?_ (fun _ _ => False.elim)
      rintro stop final ⟨quiet, found⟩
      have moves : ChainMoves env entry permits (world, .received chain result)
          (final, .observed chain result) := observed.tail (.quiet quiet)
      cases stop with
      | some stop =>
        have stopped : world.stopped = true := by rw [← recorded.stopped, ← found]; rfl
        have ends : EndsUnasked env world chain result := .inr ⟨stopped, next, recorded⟩
        exact wp_mono (Stretches.after moves
          (failAttempt_afterCall stop final (gives ends _ (.inr rfl))))
          (fun _ _ reached => reached) (fun _ _ => False.elim)
      | none =>
        -- No stop stands and the frame is there, so the chain goes on to ask for its turn.
        have goesOn : ¬EndsUnasked env world chain result := by
          rintro (refused | ⟨stopped, _⟩)
          · rw [recorded.1] at refused
            cases refused
          · rw [← recorded.stopped, ← found] at stopped
            cases stopped
        have asked : chain.ownsCommitTurn = false → permits.asks := fun owns => asks owns goesOn
        dsimp only
        -- An accepted outcome is a page to buffer, any other result is settled in turn.
        cases page : result.acceptedPage chain.task with
        | none =>
          refine wp_mono (claimCommitTurn_spec chain (.rejected result) final asked)
            (fun _ _ claims => (moves.tail (.refused page)).trans claims) ?_
          rintro _ _ ⟨rfl, _⟩
          exact ⟨⟨_, rfl, moves.tail (.refused page)⟩, goesOn⟩
        | some context =>
          have accepted := moves.tail (.accepted page)
          dsimp only
          rw [wp_bind]
          refine wp_mono (@bufferPage_spec env entry permits chain context final)
            (fun items last buffers => ?_) ?_
          · have filled := (accepted.trans buffers).tail .filled
            refine wp_mono (claimCommitTurn_spec chain (.page context items) last asked)
              (fun _ _ claims => filled.trans claims) ?_
            rintro _ _ ⟨rfl, _⟩
            exact ⟨⟨_, rfl, filled⟩, goesOn⟩
          · rintro error last ⟨stage, inside, buffers⟩
            exact ⟨⟨stage, inside, accepted.trans buffers⟩, goesOn⟩
  · obtain ⟨same, capacity, unrecorded⟩ := raised
    subst same
    refine ⟨⟨_, rfl, .refl⟩, ?_⟩
    rintro (refused | ⟨_, next, recorded⟩)
    · rw [capacity] at refused
      cases refused
    · exact unrecorded next recorded

/-- The stretch after a call is one of elementary moves. -/
theorem afterCall_stretch (chain : TaskChainV1) (answer : Except RunError PublicCallResultV1)
    (world : World) (leaves : ∀ result, answer = .ok result → chain.ownsCommitTurn = false →
      EndsUnasked env world chain result → permits.early)
    (asks : chain.ownsCommitTurn = false →
      (∀ result, answer = .ok result → ¬EndsUnasked env world chain result) →
      (∀ error, answer = .error error → chainStopForError error ≠ none) → permits.asks) :
    Stretches env entry permits (afterCall env chain answer) (world, .calling chain) := by
  unfold Stretches afterCall
  cases answer with
  | error error =>
    refine handleAttemptError_inside error world rfl fun owns stops => asks owns nofun ?_
    rintro _ ⟨⟩
    exact stops
  | ok result =>
    dsimp only
    rw [modifyState, wp_bind, wp_modify, wp_tryCatch]
    have answered : ChainMoves env entry permits (world, .calling chain)
        (world.answered chain result, .received { chain with heldTargetRequests := 0 } result) :=
      .single .answered
    -- Counting the call's requests touches nothing that the append looks at.
    have same : EndsUnasked env (world.answered chain result)
        { chain with heldTargetRequests := 0 } result ↔ EndsUnasked env world chain result := by
      refine or_congr Iff.rfl (and_congr Iff.rfl ⟨?_, ?_⟩)
      · rintro ⟨_, capacity, frame, appended, _⟩
        exact ⟨_, capacity, frame, appended, rfl⟩
      · rintro ⟨_, capacity, frame, appended, _⟩
        exact ⟨_, capacity, frame, appended, rfl⟩
    have goesOn : chain.ownsCommitTurn = false → ¬EndsUnasked env world chain result →
        permits.asks := by
      intro owns unended
      refine asks owns ?_ nofun
      rintro _ ⟨⟩
      exact unended
    refine wp_mono (observeResult_spec _ result _ (fun owns ends => leaves result rfl owns
      (same.mp ends)) (fun owns ends => goesOn owns (mt same.mpr ends)))
      (fun _ _ moves => answered.trans moves) ?_
    rintro error next ⟨⟨stage, inside, moves⟩, unended⟩
    exact Stretches.after (answered.trans moves)
      (handleAttemptError_inside error next inside fun owns _ => goesOn owns (mt same.mpr unended))

end Klura
