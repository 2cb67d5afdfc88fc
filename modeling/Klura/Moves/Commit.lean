import Klura.Moves.Attempt

/-! The stretch of a chain in its commit turn is a sequence of elementary moves. -/

namespace Klura

open Program

variable {env : RunEnvironment} {entry : BatchEntryV1} {permits : TurnPermissionV1}

/-! What follows a granted turn. -/

theorem appendOrThrow_spec (event : JournalEventV1) (world : World) :
    wp (appendOrThrow env event) (fun _ next => Recorded env event world next)
      (fun _ next => next = world) world := by
  unfold appendOrThrow
  rw [wp_bind]
  refine wp_mono (append_spec event world) (fun recorded next append => ?_) (fun _ _ same => same)
  cases recorded with
  | false => exact append.1
  | true => exact append

theorem releaseBufferedItem_spec (item : BufferedRunItemV1) (identity : Bool) (world : World) :
    wp (releaseBufferedItem item identity)
      (fun _ next => (world.state.bufferedItems.any fun entry =>
          entry.logicalOrder = item.logicalOrder) = true ∧
        next = { world with state := world.state.released item identity })
      (fun _ next => next = world) world := by
  unfold releaseBufferedItem
  rw [wp_bind, wp_get]
  split
  · rename_i pending
    exact ⟨pending, rfl⟩
  · rfl

section Commit

variable {chain : TaskChainV1} {context : PageContextV1}

theorem releasing_spec (item : BufferedRunItemV1) (isNew : Bool) (items : List BufferedRunItemV1)
    (emission : ItemEmissionV1) (world : World) :
    wp (releaseBufferedItem item !isNew)
      (fun _ next => ChainMoves env entry permits
        (world, .releasing chain context item isNew items emission)
        (next, .committing chain context items
          (if isNew then emission.extended chain.hasFanout item else emission)))
      (fun _ next => FailsInside env entry permits chain
        (world, .releasing chain context item isNew items emission) next) world := by
  refine wp_mono (releaseBufferedItem_spec item _ world) ?_ ?_
  · rintro _ _ ⟨pending, rfl⟩
    exact .single (.released pending)
  · rintro _ _ rfl
    exact ⟨_, rfl, .refl⟩

theorem commitDuplicateItem_spec (item : BufferedRunItemV1) (items : List BufferedRunItemV1)
    (emission : ItemEmissionV1) (world : World)
    (known : item.identityDigest ∈ world.state.identityDigests) :
    wp (commitDuplicateItem env item)
      (fun _ next => ChainMoves env entry permits
        (world, .committing chain context (item :: items) emission)
        (next, .committing chain context items emission))
      (fun _ next => FailsInside env entry permits chain
        (world, .committing chain context (item :: items) emission) next) world := by
  unfold commitDuplicateItem
  rw [wp_bind]
  refine wp_mono (appendOrThrow_spec _ world) (fun _ next recorded => ?_) ?_
  · rw [modifyState, wp_bind, wp_modify]
    have moves : ChainMoves env entry permits
        (world, .committing chain context (item :: items) emission) _ :=
      .single (.duplicated known recorded)
    refine wp_mono (releasing_spec item false items emission _) (fun _ _ rest => moves.trans rest) ?_
    rintro error final ⟨stage, inside, rest⟩
    exact ⟨stage, inside, moves.trans rest⟩
  · rintro _ _ rfl
    exact ⟨_, rfl, .refl⟩

theorem commitItemOutput_spec (item : BufferedRunItemV1) (itemSequence : Nat)
    (items : List BufferedRunItemV1) (emission : ItemEmissionV1) (world : World) :
    wp (commitItemOutput env item itemSequence)
      (fun _ next => ChainMoves env entry permits
        (world, .outputting chain context item itemSequence items emission)
        (next, .releasing chain context item true items emission))
      (fun _ next => FailsInside env entry permits chain
        (world, .outputting chain context item itemSequence items emission) next) world := by
  unfold commitItemOutput
  rw [wp_bind, wp_get]
  -- An inline output is only charged, a file is written and its progress recorded.
  cases holds : world.sink with
  | none => exact .single (.charged holds)
  | some sink =>
    dsimp only
    rw [wp_bind]
    refine wp_mono (orThrow_spec _ world) ?_ ?_
    · rintro sunk _ ⟨rfl, writes⟩
      have written : ChainMoves env entry permits
          (_, .outputting chain context item itemSequence items emission) _ :=
        .single (.written holds writes)
      rw [wp_bind, wp_set, wp_bind]
      refine wp_mono (appendOrThrow_spec _ _) (fun _ next recorded => ?_) ?_
      · exact written.tail (.sunk rfl recorded)
      · rintro _ _ rfl
        exact ⟨_, rfl, written⟩
    · rintro _ _ rfl
      exact ⟨_, rfl, .refl⟩

/-- A new item is committed, output and released, or its page fails. -/
theorem commitNewItem_spec (item : BufferedRunItemV1) (items : List BufferedRunItemV1)
    (emission : ItemEmissionV1) (world : World)
    (fresh : item.identityDigest ∉ world.state.identityDigests) :
    wp (commitNewItem env chain.hasFanout item)
      (fun _ next => ChainMoves env entry permits
        (world, .committing chain context (item :: items) emission)
        (next, .committing chain context items (emission.extended chain.hasFanout item)))
      (fun _ next => FailsInside env entry permits chain
        (world, .committing chain context (item :: items) emission) next) world := by
  have stays : FailsInside env entry permits chain
      (world, .committing chain context (item :: items) emission) world := ⟨_, rfl, .refl⟩
  unfold commitNewItem
  rw [wp_bind, wp_get]
  split
  · exact stays
  · rename_i room
    by_cases capacity : hasOrdinaryJournalCapacity world.state
        (if world.sink.isNone then 1 else 2) = true
    case neg =>
      simp only [capacity, Bool.not_false, if_true]
      exact stays
    case pos =>
      simp only [capacity, Bool.not_true, Bool.false_eq_true, if_false]
      rw [wp_bind]
      refine wp_mono (appendOrThrow_spec _ world) (fun _ next recorded => ?_)
        (fun _ _ same => same ▸ stays)
      have roomy (fans : chain.hasFanout = true) := Int.not_lt.mp fun full => room ⟨fans, full⟩
      have committed : ChainMoves env entry permits
          (world, .committing chain context (item :: items) emission) _ :=
        .single (.committed fresh roomy capacity recorded)
      rw [modifyState, wp_bind, wp_modify, wp_bind]
      refine wp_mono (@commitItemOutput_spec env entry permits chain context item _ items emission _)
        (fun _ last output => ?_) ?_
      · refine wp_mono (releasing_spec item true items emission last)
          (fun _ _ rest => committed.trans (output.trans rest)) ?_
        rintro error final ⟨stage, inside, rest⟩
        exact ⟨stage, inside, committed.trans (output.trans rest)⟩
      · rintro error final ⟨stage, inside, rest⟩
        exact ⟨stage, inside, committed.trans rest⟩

theorem commitBufferedItem_spec (item : BufferedRunItemV1) (items : List BufferedRunItemV1)
    (emission : ItemEmissionV1) (world : World) :
    wp (commitBufferedItem env chain.hasFanout item)
      (fun isNew next => ChainMoves env entry permits
        (world, .committing chain context (item :: items) emission)
        (next, .committing chain context items
          (if isNew then emission.extended chain.hasFanout item else emission)))
      (fun _ next => FailsInside env entry permits chain
        (world, .committing chain context (item :: items) emission) next) world := by
  unfold commitBufferedItem
  rw [wp_bind, wp_get]
  split
  · rename_i known
    rw [wp_bind]
    exact wp_mono (commitDuplicateItem_spec item items emission world known)
      (fun _ _ moves => moves) (fun _ _ fails => fails)
  · rename_i fresh
    rw [wp_bind]
    exact wp_mono (commitNewItem_spec item items emission world fresh)
      (fun _ _ moves => moves) (fun _ _ fails => fails)

/-- One emission after another. -/
def ItemEmissionV1.followed (emission later : ItemEmissionV1) : ItemEmissionV1 :=
  { emission with
    items := emission.items ++ later.items
    retainedItemBytes := emission.retainedItemBytes + later.retainedItemBytes }

/-- A page's items are committed in order up to a reached stop, or the page fails. -/
theorem commitBufferedRunItems_spec (items : List BufferedRunItemV1) (emission : ItemEmissionV1)
    (world : World) :
    wp (commitBufferedRunItems env chain.hasFanout items)
      (fun later next => ∃ rest, (later.semanticStopId = none → rest = []) ∧
        ChainMoves env entry permits (world, .committing chain context items emission)
          (next, .committing chain context rest (emission.followed later)))
      (fun _ next => FailsInside env entry permits chain
        (world, .committing chain context items emission) next) world := by
  -- The induction follows the items, with the emission of those in front growing.
  induction items generalizing emission world with
  | nil =>
    refine ⟨[], fun _ => rfl, ?_⟩
    simp only [ItemEmissionV1.followed, List.append_nil, Int.add_zero]
    exact .refl
  | cons item items ih =>
    unfold commitBufferedRunItems
    rw [wp_bind]
    refine wp_mono (observeItem_spec item.item world) (fun reached next quiet => ?_)
      (fun _ _ quiet => ⟨_, rfl, .single (.quiet quiet)⟩)
    cases reached with
    | some stopId =>
      refine ⟨item :: items, nofun, ?_⟩
      simp only [ItemEmissionV1.followed, List.append_nil, Int.add_zero]
      exact .single (.quiet quiet)
    | none =>
      dsimp only
      rw [wp_bind]
      refine wp_mono (@commitBufferedItem_spec env entry permits chain context item items emission next)
        (fun isNew final moves => ?_) ?_
      · have observed := Relation.ReflTransGen.head (.quiet quiet) moves
        rw [wp_bind]
        refine wp_mono (ih (if isNew then emission.extended chain.hasFanout item else emission) final)
          ?_ ?_
        · rintro later last ⟨rest, complete, commits⟩
          have together := observed.trans commits
          split
          · rename_i both
            refine ⟨rest, complete, ?_⟩
            simpa only [both.2, if_true, ItemEmissionV1.extended, both.1, ItemEmissionV1.followed,
              List.append_assoc, List.singleton_append, Int.add_assoc, Int.add_comm,
              Int.add_left_comm] using together
          · rename_i unmoved
            refine ⟨rest, complete, ?_⟩
            have same : (if isNew then emission.extended chain.hasFanout item else emission) =
                emission := by
              cases isNew with
              | false => rfl
              | true =>
                have bare : ¬ chain.hasFanout = true := fun fans => unmoved ⟨fans, rfl⟩
                simp only [if_true, ItemEmissionV1.extended, bare]
                rfl
            rw [same] at together
            exact together
        · rintro error last ⟨stage, inside, rest⟩
          exact ⟨stage, inside, observed.trans rest⟩
      · rintro error final ⟨stage, inside, rest⟩
        exact ⟨stage, inside, .head (.quiet quiet) rest⟩

/-- A page's task is completed and its items committed, or the page fails. -/
theorem commitPage_spec (items : List BufferedRunItemV1) (world : World) :
    wp (commitPage env chain context items)
      (fun committed next => match committed with
        | .leave flow => ChainMoves env entry permits (world, .turned chain (.page context items))
            (next, flow.stage)
        | .exhausted => ∃ emission, chain.isTerminal context = true ∧
            ChainMoves env entry permits (world, .turned chain (.page context items))
              (next, .committing chain context items emission)
        | .emitted later => ∃ rest emission, chain.isTerminal context = false ∧
            (later.semanticStopId = none → rest = []) ∧
            chain.emitted emission = chain.emitted later ∧
            ChainMoves env entry permits (world, .turned chain (.page context items))
              (next, .committing chain context rest emission)
        | .next _ => False)
      (fun _ next => FailsInside env entry permits chain
        (world, .turned chain (.page context items)) next) world := by
  unfold commitPage
  rw [wp_bind]
  refine wp_mono (chainStop_spec world) ?_ (fun _ _ => False.elim)
  rintro stop next ⟨quiet, _⟩
  have looked : ChainMoves env entry permits (world, .turned chain (.page context items))
      (next, .turned chain (.page context items)) := .single (.quiet quiet)
  cases stop with
  | some stop =>
    rw [wp_bind]
    exact wp_mono (Stretches.after looked (failAttempt_gaveUp stop next rfl))
      (fun _ _ moves => moves) (fun _ _ => False.elim)
  | none =>
    rw [wp_bind]
    refine wp_mono (append_spec _ next) (fun recorded final append => ?_) ?_
    · cases recorded with
      | false =>
        obtain ⟨same, _⟩ := append
        subst final
        simp only [Bool.not_false, if_true, wp_bind]
        exact wp_mono (Stretches.after looked (failAttempt_gaveUp _ next rfl))
          (fun _ _ moves => moves) (fun _ _ => False.elim)
      | true =>
        have completed : ChainMoves env entry permits (world, .turned chain (.page context items)) _ :=
          looked.tail (.completed append)
        simp only [Bool.not_true, Bool.false_eq_true, if_false]
        rw [modifyState, wp_bind, wp_modify]
        split
        · rename_i last
          exact ⟨_, decide_eq_true last, completed⟩
        · rename_i live
          rw [wp_bind]
          refine wp_mono (@commitBufferedRunItems_spec env entry permits chain context items
            { items := [], retainedItemBytes := 0, semanticStopId := none } _) ?_ ?_
          · rintro later _ ⟨rest, complete, commits⟩
            refine ⟨rest, _, decide_eq_false live, complete, ?_, completed.trans commits⟩
            simp [TaskChainV1.emitted, ItemEmissionV1.followed]
          · rintro _ _ ⟨stage, inside, commits⟩
            exact ⟨stage, inside, completed.trans commits⟩
    · rintro _ _ rfl
      exact ⟨_, rfl, looked⟩

theorem appendNodeState_spec (node : ScrapeNodeV1) (world : World) :
    wp (appendNodeState env node)
      (fun state next => match state with
        | none => next = world
        | some reference => reference = world.disk.nextReference env (.node node) ∧
          next = world.spooled env (.node node) ∧ world.disk.spoolBytes +
            canonicalBytes (BlobContentV1.node node).value ≤ env.policy.durable.maxDataSpoolBytes)
      (fun _ next => next = world) world := by
  unfold appendNodeState
  rw [wp_tryCatch, wp_bind]
  refine wp_mono (appendDataBlob_spec _ _ world) (fun _ _ spooled => spooled) ?_
  rintro error _ rfl
  split
  · rfl
  · rfl

theorem persistDurableNodeProgress_spec (node : ScrapeNodeV1) (world : World) :
    wp (persistDurableNodeProgress env node)
      (fun recorded next => if recorded then world.disk.spoolBytes +
            canonicalBytes (BlobContentV1.node node).value ≤ env.policy.durable.maxDataSpoolBytes ∧
          Recorded env (.nodeProgressed node.nodeId (world.disk.nextReference env (.node node)))
            (world.spooled env (.node node)) next
        else next = world ∨ (next = world.spooled env (.node node) ∧ world.disk.spoolBytes +
            canonicalBytes (BlobContentV1.node node).value ≤ env.policy.durable.maxDataSpoolBytes))
      (fun _ next => next = world ∨ (next = world.spooled env (.node node) ∧
        world.disk.spoolBytes + canonicalBytes (BlobContentV1.node node).value ≤
          env.policy.durable.maxDataSpoolBytes)) world := by
  unfold persistDurableNodeProgress
  rw [wp_bind]
  refine wp_mono (appendNodeState_spec node world) (fun state next spools => ?_)
    (fun _ _ same => .inl same)
  cases state with
  | none => exact .inl spools
  | some reference =>
    obtain ⟨rfl, rfl, room⟩ := spools
    refine wp_mono (append_spec _ _) (fun recorded final append => ?_)
      (fun _ _ same => .inr ⟨same, room⟩)
    cases recorded with
    | true => exact ⟨room, append⟩
    | false => exact .inr ⟨append.1, room⟩

/-- The chain's progress to a found next page is made durable, or the chain ends. -/
theorem continueChain_spec (continuation : JsonValueV1) (world : World)
    (found : nextPaginationInput chain.task chain.taskInput context = .ok (some continuation)) :
    wp (continueChain env chain continuation)
      (fun continued next => match continued with
        | .leave flow => ChainMoves env entry permits (world, .advancing chain context)
            (next, flow.stage)
        | .next advanced => ChainMoves env entry permits (world, .advancing chain context)
            (next, .attempting advanced)
        | _ => False)
      (fun _ next => FailsInside env entry permits chain (world, .advancing chain context) next)
      world := by
  have stays : FailsInside env entry permits chain (world, .advancing chain context) world :=
    ⟨_, rfl, .refl⟩
  unfold continueChain
  cases canonical : canonicalIssue continuation "$" 0 with
  | some field => exact stays
  | none =>
    dsimp only
    -- An input the chain has used, or that its capability refuses, fails the chain with a reason.
    split
    · rw [wp_bind]
      refine wp_mono (failAttempt_explained _ _ world rfl) (fun _ _ moves => moves) ?_
      rintro _ _ rfl
      exact stays
    · rename_i fresh
      split
      · rw [wp_bind]
        refine wp_mono (failAttempt_explained _ _ world rfl) (fun _ _ moves => moves) ?_
        rintro _ _ rfl
        exact stays
      · -- The next page's input is spooled before the frame that refers to it.
        rw [wp_bind]
        have advances : (chain.advanced env continuation).node = { chain.node with
            input := continuation
            seenInputDigests := chain.seenInputs ++ [env.digestOf continuation] } := rfl
        rw [← advances]
        have spooled (room : world.disk.spoolBytes + canonicalBytes
            (BlobContentV1.node (chain.advanced env continuation).node).value ≤
              env.policy.durable.maxDataSpoolBytes) :
            ChainMoves env entry permits (world, .advancing chain context) _ :=
          .single (.continued fresh canonical found room)
        refine wp_mono (persistDurableNodeProgress_spec _ world) (fun recorded next persists => ?_) ?_
        · cases recorded with
          | true =>
            obtain ⟨room, recorded⟩ := persists
            exact (spooled room).tail (.progressed recorded)
          | false =>
            simp only [Bool.not_false, if_true, wp_bind]
            rcases persists with same | ⟨same, room⟩
            · subst next
              exact wp_mono (failAttempt_stretch _ world fun _ => .unspooled)
                (fun _ _ moves => moves) (fun _ _ => False.elim)
            · subst next
              exact wp_mono (Stretches.after (spooled room) (failAttempt_gaveUp _ _ rfl))
                (fun _ _ moves => moves) (fun _ _ => False.elim)
        · rintro _ next (same | ⟨same, room⟩)
          · subst next
            exact stays
          · subst next
            exact ⟨_, rfl, spooled room⟩

/-- A committed page leads to the next one, or the chain ends. -/
theorem continuePage_spec (world : World) :
    wp (continuePage env chain context)
      (fun continued next => match continued with
        | .leave flow => ChainMoves env entry permits (world, .advancing chain context)
            (next, flow.stage)
        | .next advanced => ChainMoves env entry permits (world, .advancing chain context)
            (next, .attempting advanced)
        | .exhausted => nextPaginationInput chain.task chain.taskInput context = .ok none ∧
            ChainMoves env entry permits (world, .advancing chain context)
              (next, .advancing chain context)
        | .emitted _ => False)
      (fun _ next => FailsInside env entry permits chain (world, .advancing chain context) next)
      world := by
  unfold continuePage
  rw [wp_bind]
  refine wp_mono (orThrow_spec _ world) ?_ (fun _ _ same => same ▸ ⟨_, rfl, .refl⟩)
  rintro continuation next ⟨same, found⟩
  subst next
  cases continuation with
  | none => exact ⟨found, .refl⟩
  | some continuation =>
    dsimp only
    rw [wp_bind]
    refine wp_mono (chainStop_spec world) ?_ (fun _ _ => False.elim)
    rintro stop next ⟨quiet, _⟩
    have looked : ChainMoves env entry permits (world, .advancing chain context)
        (next, .advancing chain context) := .single (.quiet quiet)
    rw [wp_bind, wp_get]
    split
    · rw [wp_bind]
      exact wp_mono (Stretches.after looked (failAttempt_gaveUp _ next rfl))
        (fun _ _ moves => moves) (fun _ _ => False.elim)
    · refine wp_mono (@continueChain_spec env entry permits chain context continuation next found)
        ?_ ?_
      · intro continued final moves
        cases continued with
        | leave flow => exact looked.trans moves
        | next advanced => exact looked.trans moves
        | exhausted => exact moves.elim
        | emitted _ => exact moves.elim
      · rintro _ final ⟨stage, inside, moves⟩
        exact ⟨stage, inside, looked.trans moves⟩

/-- The stretch that commits a page in turn is one of elementary moves. -/
theorem commitChainPage_stretch (items : List BufferedRunItemV1) (world : World)
    (owns : chain.ownsCommitTurn = true) :
    Stretches env entry permits (commitChainPage env chain context items)
      (world, .turned chain (.page context items)) := by
  have inTurn : chain.ownsCommitTurn = false → ∀ error,
      chainStopForError error ≠ none → permits.asks := by
    intro unowned
    rw [owns] at unowned
    cases unowned
  unfold Stretches commitChainPage
  rw [wp_bind, wp_tryCatch]
  refine wp_mono (@commitPage_spec env entry permits chain context items world) ?_ ?_
  · intro committed next moves
    cases committed with
    | leave flow => exact moves
    | next _ => exact moves.elim
    | exhausted =>
      obtain ⟨emission, last, moves⟩ := moves
      exact moves.tail (.finished last)
    | emitted later =>
      obtain ⟨rest, emission, live, complete, same, moves⟩ := moves
      cases reached : later.semanticStopId with
      | some stopId =>
        have cut : ChainMoves env entry permits (world, .turned chain (.page context items))
            (next, .leaving (chain.emitted emission)
              (.ok (.completed (.dateCutoffReached stopId)))) := moves.tail .cut
        rw [same] at cut
        dsimp only
        rw [reached]
        exact cut
      | none =>
        have emptied := complete reached
        subst emptied
        have emitted : ChainMoves env entry permits (world, .turned chain (.page context items)) _ :=
          moves.tail (.emitted live)
        rw [same] at emitted
        dsimp only
        rw [reached]
        dsimp only
        rw [wp_bind, wp_tryCatch]
        refine wp_mono (@continuePage_spec env entry permits (chain.emitted later) context next) ?_ ?_
        · intro continued final moves
          cases continued with
          | leave flow => exact emitted.trans moves
          | next advanced => exact Stretches.after (emitted.trans moves) (nextAttempt_stretch _ final)
          | exhausted => exact (emitted.trans moves.2).tail (.exhausted moves.1)
          | emitted _ => exact moves.elim
        · rintro error final ⟨stage, inside, moves⟩
          rw [wp_bind]
          exact wp_mono (Stretches.after (emitted.trans moves)
            (handleAttemptError_inside error final inside fun unowned => inTurn unowned error))
            (fun _ _ reached => reached)
            (fun _ _ => False.elim)
  · rintro error next ⟨stage, inside, moves⟩
    rw [wp_bind]
    exact wp_mono (Stretches.after moves
      (handleAttemptError_inside error next inside fun unowned => inTurn unowned error))
      (fun _ _ reached => reached) (fun _ _ => False.elim)

end Commit

/-- The stretch after a settled turn is one of elementary moves. -/
theorem afterTurn_stretch (chain : TaskChainV1) (continuation : ClaimContinuationV1)
    (settlement : TurnSettlement) (world : World)
    (settled : world.attemptOrder.turnOf chain = some settlement)
    (asks : ∀ reason, settlement = .rejected reason → permits.asks)
    (turns : settlement = .resolved → permits.turns (world, .claiming chain continuation)) :
    Stretches env entry permits (afterTurn env chain continuation settlement)
      (world, .claiming chain continuation) := by
  unfold Stretches afterTurn
  cases settlement with
  | rejected reason =>
    cases continuation with
    | failed stop error =>
      refine .single (.raised rfl ?_ ?_)
      · rintro _ ⟨⟩
      · rintro _ ⟨⟩; exact settled
    | rejected result =>
      have rejected : ChainMove env entry permits (world, .claiming chain (.rejected result))
          (world, .erring chain reason) := .rejected (by rintro _ _ ⟨⟩) settled
      exact Stretches.after (.single rejected)
        (handleAttemptError_stretch chain reason world fun _ _ => asks reason rfl)
    | page context items =>
      have rejected : ChainMove env entry permits (world, .claiming chain (.page context items))
          (world, .erring chain reason) := .rejected (by rintro _ _ ⟨⟩) settled
      exact Stretches.after (.single rejected)
        (handleAttemptError_stretch chain reason world fun _ _ => asks reason rfl)
  | resolved =>
    have granted : ChainMoves env entry permits (world, .claiming chain continuation) _ :=
      .single (.granted (turns rfl) settled)
    rw [modifyState]
    dsimp only
    rw [wp_bind, wp_modify]
    cases continuation with
    | page context items => exact Stretches.after granted (commitChainPage_stretch items _ rfl)
    | failed stop error =>
      dsimp only
      rw [wp_tryCatch]
      refine wp_mono (@failAttempt_explained env entry permits _ _ stop (.raised error) _ rfl)
        (fun _ _ moves => granted.trans moves) ?_
      rintro _ _ rfl
      refine granted.tail (.raised rfl ?_ ?_)
      · rintro _ ⟨⟩
      · rintro _ ⟨⟩
    | rejected result =>
      dsimp only
      rw [wp_tryCatch]
      split
      · exact wp_mono (Stretches.after granted (failAttempt_gaveUp .cancelled _ rfl))
          (fun _ _ moves => moves) (fun _ _ => False.elim)
      · refine wp_mono (@failAttempt_explained env entry permits _ _ .taskFailed _ _ rfl)
          (fun _ _ moves => granted.trans moves) ?_
        rintro error _ rfl
        exact Stretches.after granted (handleAttemptError_inside error _ rfl (by rintro ⟨⟩))

/-- A chain gives back what it retained and releases its turn, or is stranded with it. -/
theorem leaveChain_spec (chain : TaskChainV1) (outcome : ChainOutcomeV1) (world : World) :
    wp (leaveChain chain (transfersRetention outcome))
      (fun _ next => ChainMoves env entry permits (world, .leaving chain outcome)
        (next, .ended outcome))
      (fun error next => ChainMoves env entry permits (world, .leaving chain outcome)
        (next, .ended (.error error))) world := by
  have release (left : World) (same : left = world.left chain outcome)
      (kept : left.attemptOrder = world.attemptOrder) :
      wp (releaseOwnedAttemptTurn chain.chainOrdinal chain.ownsCommitTurn)
        (fun _ next => ChainMoves env entry permits (world, .leaving chain outcome)
          (next, .ended outcome))
        (fun error next => ChainMoves env entry permits (world, .leaving chain outcome)
          (next, .ended (.error error))) left := by
    unfold releaseOwnedAttemptTurn
    split
    · rename_i ordinal held owns
      rw [wp_bind, wp_get]
      cases releases : left.attemptOrder.releaseTurn ordinal with
      | ok order =>
        have released : world.attemptOrder.released chain = .ok order := by
          simp only [AttemptOrderV1.released, held, owns, ← kept, releases]
        subst same
        exact .single (.left released)
      | error error =>
        have released : world.attemptOrder.released chain = .error error := by
          simp only [AttemptOrderV1.released, held, owns, ← kept, releases]
        subst same
        exact .single (.stranded released)
    · rename_i unowned
      have released : world.attemptOrder.released chain = .ok world.attemptOrder := by
        unfold AttemptOrderV1.released
        split
        · rename_i ordinal held owns
          exact absurd owns (unowned ordinal held)
        · rfl
      have moves : ChainMoves env entry permits (world, .leaving chain outcome) _ :=
        .single (.left released)
      rw [← kept, ← same] at moves
      exact moves
  unfold leaveChain
  dsimp only
  split
  · rename_i retains
    rw [modifyState, wp_bind, wp_modify]
    exact release _ (by simp only [World.left, retains, and_self, if_true]) rfl
  · rename_i retainsNot
    exact release world (by simp only [World.left, retainsNot, if_false]) rfl

theorem settleFlow_spec (flow : ChainFlowV1) (world : World) :
    wp (settleFlow flow)
      (fun phase next => ChainMoves env entry permits (world, flow.stage) (next, phase.stage))
      (fun error next => ChainMoves env entry permits (world, flow.stage) (next, .ended (.error error)))
      world := by
  cases flow with
  | await phase => exact .refl
  | done chain result =>
    unfold settleFlow
    dsimp only
    rw [wp_bind]
    exact leaveChain_spec chain (.ok result) world
  | raised chain error =>
    unfold settleFlow
    dsimp only
    rw [wp_bind]
    exact leaveChain_spec chain (.error error) world

theorem settle_stretch {stretch : RunProgram ChainFlowV1} {world : World} {stage : StageV1}
    (stretches : Stretches env entry permits stretch (world, stage)) :
    wp (do settleFlow (← stretch))
      (fun phase next => ChainMoves env entry permits (world, stage) (next, phase.stage))
      (fun error next => ChainMoves env entry permits (world, stage) (next, .ended (.error error)))
      world := by
  rw [wp_bind]
  refine wp_mono stretches (fun flow next moves => ?_) (fun _ _ => False.elim)
  exact wp_mono (@settleFlow_spec env entry permits flow next) (fun _ _ settles => moves.trans settles)
    (fun _ _ settles => moves.trans settles)

theorem reserveRetainedFanoutItems_spec (items : List JsonValueV1) (world : World) :
    wp (reserveRetainedFanoutItems env items)
      (fun retained next => match retained with
        | none => next = world
        | some bytes => bytes = itemsBytes items ∧ next = world.retained (itemsBytes items) ∧
          world.state.localStateBytes + world.state.retainedFanoutItemBytes +
            world.state.reservedIdentityStateBytes + itemsBytes items ≤
              (env.policy.durable.maxLocalStateBytes : Int))
      (fun _ _ => False) world := by
  unfold reserveRetainedFanoutItems
  rw [wp_bind, wp_get]
  dsimp only
  split
  · rfl
  · rename_i room
    exact ⟨rfl, rfl, Int.not_lt.mp room⟩

theorem gaveBack_initial (maximum : Option Nat) (items : List JsonValueV1) (world : World) :
    world.gaveBack (initialChain entry maximum items) = world := by
  simp only [World.gaveBack, initialChain, Int.sub_zero]

/-- A chain whose page limit is known is opened by elementary moves. -/
theorem openChain_spec (maximum : Option Nat) (world : World) :
    wp (openChain env entry maximum)
      (fun phase next => ChainMoves env entry permits (world, .opening) (next, phase.stage))
      (fun error next => ChainMoves env entry permits (world, .opening) (next, .ended (.error error)))
      world := by
  unfold openChain
  rw [wp_bind, wp_get]
  by_cases plain : entry.task.fanout.isEmpty = true
  · rw [if_pos plain]
    exact settle_stretch (Stretches.after (.single (.opened plain)) (nextAttempt_stretch _ world))
  · simp only [Bool.not_eq_true] at plain
    simp only [plain, Bool.false_eq_true, if_false]
    cases read : readCommittedNodeItems world.disk entry.node.nodeId with
    | error error =>
      have unopened : ChainMove env entry permits (world, .opening)
          (world, .leaving (initialChain entry maximum []) (.error error)) := .unopened nofun
      refine .head unopened (.single ?_)
      have released : world.attemptOrder.released (initialChain entry maximum []) =
        .ok world.attemptOrder := rfl
      exact .left released
    | ok items =>
      dsimp only
      rw [wp_bind]
      refine wp_mono (reserveRetainedFanoutItems_spec items world) ?_ (fun _ _ => False.elim)
      intro retained next reserves
      cases retained with
      | none =>
        have same : next = world := reserves
        subst next
        dsimp only
        refine settle_stretch ?_
        unfold Stretches
        rw [wp_tryCatch]
        refine wp_mono (failAttempt_stretch _ world fun after => ?_) (fun _ _ moves => moves)
          (fun _ _ => False.elim)
        rw [gaveBack_initial]
        refine .unopened fun result ends => ⟨.runBudgetExhausted, ?_⟩
        exact (Except.ok.inj ends).symm
      | some bytes =>
        obtain ⟨rfl, rfl, room⟩ := reserves
        have reopened : ChainMoves env entry permits (world, .opening) _ :=
          .single (@ChainMove.reopened env entry permits world maximum items plain read room)
        exact wp_mono (settle_stretch (nextAttempt_stretch _ _))
          (fun _ _ moves => reopened.trans moves) (fun _ _ moves => reopened.trans moves)

theorem enterChain_spec (world : World) :
    wp (enterChain env entry)
      (fun phase next => ChainMoves env entry permits (world, .opening) (next, phase.stage))
      (fun error next => ChainMoves env entry permits (world, .opening) (next, .ended (.error error)))
      world := by
  unfold enterChain
  split
  · exact openChain_spec none world
  · split
    · exact openChain_spec _ world
    · rw [wp_tryCatch, wp_bind]
      have released (after : World) :
          after.attemptOrder.released (initialChain entry none []) = .ok after.attemptOrder := rfl
      refine wp_mono (failTaskChain_explained _ _ _ world) ?_ ?_
      · rintro _ next ⟨rfl, recorded, append, quiet⟩
        exact .head (.limitless append) (.head (.quiet quiet) (.single (.left (released next))))
      · rintro error next rfl
        have unopened : ChainMove env entry permits (next, .opening)
            (next, .leaving (initialChain entry none []) (.error error)) := .unopened nofun
        exact .head unopened (.single (.left (released next)))

end Klura
