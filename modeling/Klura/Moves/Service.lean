import Klura.Moves.Commit
import Klura.Moves.Finish

/-! The service around the chains is a sequence of elementary moves. -/

namespace Klura

open Program

variable {env : RunEnvironment} {permits : TurnPermissionV1}

/-- A run that moves lead to breaks with an error. -/
def Breaks (env : RunEnvironment) (permits : TurnPermissionV1) (start : RunPointV1) (error : RunError)
    (next : World) : Prop :=
  ∃ slots, RunMoves env permits start ⟨next, slots, .ended (.error error)⟩

/-- A run that moves lead to ends with a result. -/
def Ends (env : RunEnvironment) (permits : TurnPermissionV1) (start : RunPointV1)
    (result : LocalScrapeRunResultV1) (next : World) : Prop :=
  ∃ slots, RunMoves env permits start ⟨next, slots, .ended (.ok result)⟩

variable {start : RunPointV1} {next : World}

theorem RunMoves.breaks {slots : List (BatchEntryV1 × SlotV1)} {mode : RunModeV1} (error : RunError)
    (moves : RunMoves env permits start ⟨next, slots, mode⟩) :
    Breaks env permits start error next :=
  ⟨slots, moves.tail .broken⟩

variable {middle : RunPointV1}

theorem Breaks.after {error : RunError} (moves : RunMoves env permits start middle)
    (breaks : Breaks env permits middle error next) :
    Breaks env permits start error next := by
  obtain ⟨slots, rest⟩ := breaks
  exact ⟨slots, moves.trans rest⟩

theorem Ends.after {result : LocalScrapeRunResultV1} (moves : RunMoves env permits start middle)
    (ends : Ends env permits middle result next) :
    Ends env permits start result next := by
  obtain ⟨slots, rest⟩ := ends
  exact ⟨slots, moves.trans rest⟩

theorem ChainMoves.lift {entry : BatchEntryV1} {point next : ChainPoint}
    (moves : ChainMoves env entry permits point next) (left right : List (BatchEntryV1 × SlotV1))
    (mode : RunModeV1) :
    RunMoves env permits ⟨point.1, left ++ (entry, .chain point.2) :: right, mode⟩
      ⟨next.1, left ++ (entry, .chain next.2) :: right, mode⟩ := by
  induction moves with
  | refl => exact .refl
  | tail _ move ih => exact ih.tail (.chain move)

/-! Carrying a chain's result over into the run. -/

/-- The world once a node's fan-out retains nothing any more. -/
def World.relinquished (world : World) (bytes : Int) : World :=
  { world with state := { world.state with
      retainedFanoutItemBytes := world.state.retainedFanoutItemBytes - bytes } }

/-- The result of carrying over one slot: the slot is gone, or the run has come to its end with the
bytes that the slot's fan-out retains still held. -/
def CarriesOver (env : RunEnvironment) (permits : TurnPermissionV1) (entry : BatchEntryV1) (retained : Int)
    (slots : List (BatchEntryV1 × SlotV1)) (start : RunPointV1)
    (outcome : Option LocalScrapeRunResultV1) (next : World) : Prop :=
  match outcome with
  | none => RunMoves env permits start ⟨next.relinquished retained, slots, .serving⟩
  | some result => ∃ slot : SlotV1, slot.retained = retained ∧
    RunMoves env permits start ⟨next, (entry, slot) :: slots, .ended (.ok result)⟩

/-- A slot is left at some stage with the bytes its fan-out retains still held. -/
def LeavesSlot (env : RunEnvironment) (permits : TurnPermissionV1) (entry : BatchEntryV1) (retained : Int)
    (slots : List (BatchEntryV1 × SlotV1)) (start : RunPointV1) (next : World) : Prop :=
  ∃ (slot : SlotV1) (mode : RunModeV1), slot.retained = retained ∧
    RunMoves env permits start ⟨next, (entry, slot) :: slots, mode⟩

section Slot

variable {entry : BatchEntryV1} {slots : List (BatchEntryV1 × SlotV1)}

theorem finishSlot_spec (world : World) (slot : SlotV1) (stop : RunStopV1) :
    wp (do return some (← finish env stop))
      (CarriesOver env permits entry slot.retained slots
        ⟨world, (entry, slot) :: slots, .serving⟩)
      (fun _ => LeavesSlot env permits entry slot.retained slots
        ⟨world, (entry, slot) :: slots, .serving⟩) world := by
  rw [wp_bind]
  refine wp_mono (finish_spec world _ .serving stop rfl) (fun _ _ moves => ⟨slot, rfl, moves⟩) ?_
  rintro _ _ ⟨mode, moves⟩
  exact ⟨slot, mode, rfl, moves⟩

theorem skipTask_spec (world : World) (slot : SlotV1) (stop : RunStopV1)
    (failed : slot = .chain (.ended (.ok (.failed stop))) ∨
      ∃ items retained, slot = .chain (.ended (.ok (.ok items retained)))) :
    wp (skipTask env entry stop)
      (CarriesOver env permits entry slot.retained slots
        ⟨world, (entry, slot) :: slots, .serving⟩)
      (fun _ => LeavesSlot env permits entry slot.retained slots
        ⟨world, (entry, slot) :: slots, .serving⟩) world := by
  unfold skipTask
  rw [modifyState, wp_bind, wp_modify, wp_bind]
  have skipping : RunMoves env permits ⟨world, (entry, slot) :: slots, .serving⟩ _ :=
    .single (@RunMove.skipping env permits world entry slot slots stop failed)
  refine wp_mono (append_spec _ _) (fun recorded next append => ?_) ?_
  · cases recorded with
    | true => exact skipping.tail (.skipped append)
    | false =>
      obtain ⟨same, _⟩ := append
      subst next
      refine wp_mono (@finishSlot_spec env permits entry slots _ (.skipping stop slot.retained)
        .runBudgetExhausted) ?_ ?_
      · intro outcome final carries
        cases outcome with
        | none => exact skipping.trans carries
        | some result =>
          obtain ⟨after, kept, moves⟩ := carries
          exact ⟨after, kept, skipping.trans moves⟩
      · rintro _ final ⟨after, mode, kept, moves⟩
        exact ⟨after, mode, kept, skipping.trans moves⟩
  · rintro _ _ rfl
    exact ⟨.skipping stop slot.retained, .serving, rfl, skipping⟩

/-- A node has room in the frontier and in the spool. -/
def HasRoom (env : RunEnvironment) (world : World) (node : ScrapeNodeV1) : Prop :=
  world.frontier.canEnqueue node = true ∧ world.disk.spoolBytes +
    canonicalBytes (BlobContentV1.node node).value ≤ env.policy.durable.maxDataSpoolBytes

theorem enqueueFrontier_spec (node : ScrapeNodeV1) (world : World) :
    wp (enqueueFrontier node)
      (fun enqueued next => if enqueued then
          ∃ frontier, world.frontier.enqueue node = some frontier ∧ next = { world with frontier }
        else next = world ∧ world.frontier.enqueue node = none) (fun _ _ => False) world := by
  unfold enqueueFrontier
  rw [wp_bind, wp_get]
  cases fits : world.frontier.enqueue node with
  | none => exact ⟨rfl, rfl⟩
  | some frontier => exact ⟨frontier, rfl, rfl⟩

/-- A node is spooled, recorded and enqueued, or one of the three finds no room. -/
theorem enqueueDurableNode_spec (node : ScrapeNodeV1) (world : World) :
    wp (enqueueDurableNode env node)
      (fun enqueued next => if enqueued then ∃ after frontier, HasRoom env world node ∧
          Recorded env (.nodeEnqueued node.nodeId (env.digestOf node.logicalKey.value)
            (world.disk.nextReference env (.node node)) node.taskKindId node.rootOrdinal
            node.seedOrdinal node.depth node.outputOrdinal) (world.spooled env (.node node)) after ∧
          after.frontier.enqueue node = some frontier ∧ next = { after with frontier }
        else next = world ∨ (HasRoom env world node ∧ next = world.spooled env (.node node)))
      (fun _ next => next = world ∨ (HasRoom env world node ∧ next = world.spooled env (.node node)))
      world := by
  unfold enqueueDurableNode
  rw [wp_bind, wp_get]
  by_cases fits : world.frontier.canEnqueue node = true
  case neg => simp [fits]
  case pos =>
    simp only [fits, Bool.not_true, Bool.false_eq_true, if_false]
    rw [wp_bind]
    refine wp_mono (appendNodeState_spec node world) (fun state next spools => ?_)
      (fun _ _ same => .inl same)
    cases state with
    | none => exact .inl spools
    | some reference =>
      obtain ⟨rfl, rfl, room⟩ := spools
      dsimp only
      rw [wp_bind]
      refine wp_mono (append_spec _ _) (fun recorded after append => ?_)
        (fun _ _ same => .inr ⟨⟨fits, room⟩, same⟩)
      cases recorded with
      | false => exact .inr ⟨⟨fits, room⟩, append.1⟩
      | true =>
        refine wp_mono (enqueueFrontier_spec node after) (fun enqueued final enqueues => ?_)
          (fun _ _ => False.elim)
        have recorded : Recorded env _ (world.spooled env (.node node)) after := append
        have kept : after.frontier = world.frontier := by
          obtain ⟨_, frame, _, rfl⟩ := recorded
          rfl
        cases enqueued with
        | true =>
          obtain ⟨frontier, enqueues, same⟩ := enqueues
          exact ⟨after, frontier, ⟨fits, room⟩, recorded, enqueues, same⟩
        | false =>
          -- The frontier had room before the append and has not changed since.
          have full := enqueues.2
          rw [kept] at full
          simp only [FrontierV1.enqueue, FrontierV1.canEnqueue, decide_eq_true_eq] at full fits
          rw [if_neg (Int.not_lt.mpr fits)] at full
          cases full

/-- One child is known or becomes durable, or there is no room for it. -/
theorem enqueueNode_spec (world : World) (child : ScrapeNodeV1) (children : List ScrapeNodeV1)
    (retained : Int) :
    wp (enqueueNode env child)
      (fun enqueued next => if enqueued then
          RunMoves env permits ⟨world, (entry, .expanding (child :: children) retained) :: slots, .serving⟩
            ⟨next, (entry, .expanding children retained) :: slots, .serving⟩
        else ∃ slot : SlotV1, slot.retained = retained ∧
          RunMoves env permits ⟨world, (entry, .expanding (child :: children) retained) :: slots, .serving⟩
            ⟨next, (entry, slot) :: slots, .serving⟩)
      (fun _ => LeavesSlot env permits entry retained slots
        ⟨world, (entry, .expanding (child :: children) retained) :: slots, .serving⟩) world := by
  have spools (unknown : child.nodeId ∉ world.state.knownNodeIds) (room : HasRoom env world child) :
      RunMoves env permits ⟨world, (entry, .expanding (child :: children) retained) :: slots, .serving⟩
        ⟨world.spooled env (.node child), (entry, .enqueueing child
          (world.disk.nextReference env (.node child)) children retained) :: slots, .serving⟩ :=
    .single (.spooled unknown room.1 room.2)
  unfold enqueueNode
  rw [wp_bind, wp_get]
  split
  · rename_i known
    exact .single (.repeated known)
  · rename_i unknown
    rw [wp_bind]
    refine wp_mono (enqueueDurableNode_spec child world) (fun enqueued next enqueues => ?_) ?_
    · cases enqueued with
      | true =>
        obtain ⟨after, frontier, room, recorded, fits, same⟩ := enqueues
        subst next
        have enqueued := @RunMove.enqueued env permits _ after frontier entry child _ children retained
          slots recorded fits
        exact (spools unknown room).tail enqueued
      | false =>
        rcases enqueues with same | ⟨room, same⟩
        · subst next
          exact ⟨_, rfl, .refl⟩
        · subst next
          exact ⟨_, rfl, spools unknown room⟩
    · rintro _ next (same | ⟨room, same⟩)
      · subst next
        exact ⟨_, .serving, rfl, .refl⟩
      · subst next
        exact ⟨_, .serving, rfl, spools unknown room⟩

/-- All children are known or become durable, or the run ends around their slot. -/
theorem enqueueChildren_spec (children : List ScrapeNodeV1) (retained : Int) (world : World) :
    wp (enqueueChildren env children)
      (fun outcome next => match outcome with
        | none => RunMoves env permits ⟨world, (entry, .expanding children retained) :: slots, .serving⟩
            ⟨next, (entry, .expanding [] retained) :: slots, .serving⟩
        | some result => ∃ slot : SlotV1, slot.retained = retained ∧
          RunMoves env permits ⟨world, (entry, .expanding children retained) :: slots, .serving⟩
            ⟨next, (entry, slot) :: slots, .ended (.ok result)⟩)
      (fun _ => LeavesSlot env permits entry retained slots
        ⟨world, (entry, .expanding children retained) :: slots, .serving⟩) world := by
  -- The induction follows the children in the order they are enqueued.
  induction children generalizing world with
  | nil => exact .refl
  | cons child children ih =>
    have ends (start : RunPointV1) (here : World) (slot : SlotV1) (stop : RunStopV1)
        (kept : slot.retained = retained)
        (reached : RunMoves env permits start ⟨here, (entry, slot) :: slots, .serving⟩) :
        wp (do return some (← finish env stop))
          (fun outcome next => match outcome with
            | none => RunMoves env permits start ⟨next, (entry, .expanding [] retained) :: slots, .serving⟩
            | some result => ∃ slot : SlotV1, slot.retained = retained ∧
              RunMoves env permits start ⟨next, (entry, slot) :: slots, .ended (.ok result)⟩)
          (fun _ => LeavesSlot env permits entry retained slots start) here := by
      rw [wp_bind]
      refine wp_mono (finish_spec here _ .serving stop rfl)
        (fun _ _ moves => ⟨slot, kept, reached.trans moves⟩) ?_
      rintro _ _ ⟨mode, moves⟩
      exact ⟨slot, mode, kept, reached.trans moves⟩
    unfold enqueueChildren
    rw [wp_bind]
    refine wp_mono (controlStop_spec world) ?_ (fun _ _ => False.elim)
    rintro stop next ⟨quiet, _⟩
    have looked : RunMoves env permits
        ⟨world, (entry, .expanding (child :: children) retained) :: slots, .serving⟩
        ⟨next, (entry, .expanding (child :: children) retained) :: slots, .serving⟩ :=
      .single (.quiet quiet)
    cases stop with
    | some stop => exact ends _ next _ stop rfl looked
    | none =>
      dsimp only
      rw [wp_bind]
      refine wp_mono (@enqueueNode_spec env permits entry slots next child children retained)
        (fun enqueued final enqueues => ?_) ?_
      · cases enqueued with
        | false =>
          obtain ⟨slot, kept, moves⟩ := enqueues
          exact ends _ final slot _ kept (looked.trans moves)
        | true =>
          have reached := looked.trans enqueues
          refine wp_mono (ih final) (fun outcome last moves => ?_) ?_
          · cases outcome with
            | none => exact reached.trans moves
            | some result =>
              obtain ⟨slot, kept, moves⟩ := moves
              exact ⟨slot, kept, reached.trans moves⟩
          · rintro _ last ⟨slot, mode, kept, moves⟩
            exact ⟨slot, mode, kept, reached.trans moves⟩
      · rintro _ final ⟨slot, mode, kept, moves⟩
        exact ⟨slot, mode, kept, looked.trans moves⟩

end Slot

/-! Fanning a node's items out. -/

/-- Only node ordinals were handed out. -/
def Numbered (world next : World) : Prop :=
  ∃ ordinal, world.state.nextNodeOrdinal ≤ ordinal ∧
    next = { world with state := { world.state with nextNodeOrdinal := ordinal } }

/-- Handing out no ordinal is handing out ordinals. -/
instance : Std.Refl Numbered := ⟨fun world => ⟨world.state.nextNodeOrdinal, Nat.le_refl _, rfl⟩⟩

/-- Handing out ordinals twice is handing out ordinals. -/
instance : IsTrans World Numbered := by
  refine ⟨?_⟩
  rintro first _ _ ⟨middle, left, rfl⟩ ⟨last, right, rfl⟩
  exact ⟨last, Nat.le_trans left right, rfl⟩

theorem orRaise_numbers {α : Type} (check : Except ContractIssueV1 α) :
    Moves Numbered (orRaise check) := by
  cases check with
  | error issue => exact Moves.throw _
  | ok value => exact Moves.pure _

theorem expandEdge_numbers (node : ScrapeNodeV1) (parentItem : JsonValueV1)
    (edge : ScrapeFanoutV1) : Moves Numbered (expandEdge env node parentItem edge) := by
  unfold expandEdge
  have numbers : Moves Numbered allocateOutputOrdinal := fun world =>
    ⟨world.state.nextNodeOrdinal + 1, Nat.le_succ _, rfl⟩
  have applies : Moves Numbered (edgeApplies env parentItem edge) := by
    unfold edgeApplies
    split
    · exact Moves.pure _
    · exact orRaise_numbers _
  refine Moves.bind applies fun wants => ?_
  split
  · exact Moves.pure _
  · split
    · exact Moves.throw _
    · split
      · exact Moves.throw _
      · refine Moves.ite (Moves.throw _) ?_
        exact (orRaise_numbers _).bind fun input => (orRaise_numbers _).bind fun _ =>
          numbers.bind fun ordinal => Moves.pure _

theorem expandEdges_numbers (node : ScrapeNodeV1) (parentItem : JsonValueV1)
    (edges : List ScrapeFanoutV1) : Moves Numbered (expandEdges env node parentItem edges) := by
  induction edges with
  | nil => exact Moves.pure _
  | cons edge rest ih =>
    exact (expandEdge_numbers node parentItem edge).bind fun _ => ih.bind fun _ => Moves.pure _

theorem expandScrapeFanout_numbers (task : ScrapeTaskKindV1) (node : ScrapeNodeV1)
    (items : List JsonValueV1) : Moves Numbered (expandScrapeFanout env task node items) := by
  induction items with
  | nil => exact Moves.pure _
  | cons item rest ih =>
    exact (expandEdges_numbers node item task.fanout).bind fun _ => ih.bind fun _ => Moves.pure _

theorem expanded_numbered {task : ScrapeTaskKindV1} {node : ScrapeNodeV1} {items : List JsonValueV1}
    {children : List ScrapeNodeV1} {world : World}
    (expands : expandScrapeFanout env task node items world = .ok children next) :
    Numbered world next := by
  have numbers := @expandScrapeFanout_numbers env task node items world
  unfold wp at numbers
  rw [expands] at numbers
  exact numbers

theorem Numbered.move {world next : World} (numbered : Numbered world next)
    (slots : List (BatchEntryV1 × SlotV1)) :
    RunMove env permits ⟨world, slots, .serving⟩ ⟨next, slots, .serving⟩ := by
  obtain ⟨ordinal, grows, rfl⟩ := numbered
  exact .numbered grows

section Slot

variable {entry : BatchEntryV1} {slots : List (BatchEntryV1 × SlotV1)}

theorem expandChildren_spec (items : List JsonValueV1) (world : World) :
    wp (expandChildren env entry items)
      (fun expanded next => match expanded with
        | .ok children => expandScrapeFanout env entry.task entry.node items world = .ok children next
        | .error _ => Numbered world next)
      (fun _ next => Numbered world next) world := by
  unfold expandChildren
  rw [wp_tryCatch, wp_bind]
  refine wp_mono (wp_ran (expandScrapeFanout_numbers entry.task entry.node items world)) ?_ ?_
  · rintro children next ⟨_, ran⟩
    exact ran
  · rintro error next ⟨numbered, _⟩
    split
    · exact numbered
    · exact numbered

/-- A node whose items fan out is completed, skipped, or ends the run around its slot. -/
theorem completeNode_spec (items : List JsonValueV1) (retained : Int) (world : World) :
    wp (completeNode env entry items)
      (CarriesOver env permits entry retained slots
        ⟨world, (entry, .chain (.ended (.ok (.ok items retained)))) :: slots, .serving⟩)
      (fun _ => LeavesSlot env permits entry retained slots
        ⟨world, (entry, .chain (.ended (.ok (.ok items retained)))) :: slots, .serving⟩) world := by
  unfold completeNode
  rw [wp_bind]
  refine wp_mono (expandChildren_spec items world) (fun expanded next expands => ?_) ?_
  · cases expanded with
    | error error =>
      have numbered : RunMoves env permits
          ⟨world, (entry, .chain (.ended (.ok (.ok items retained)))) :: slots, .serving⟩
          ⟨next, (entry, .chain (.ended (.ok (.ok items retained)))) :: slots, .serving⟩ :=
        .single (expands.move _)
      dsimp only
      split
      · -- The reason is recorded before the terminal frame.
        have stops := numbered.tail (@RunMove.stopped env permits next
          ((entry, .chain (.ended (.ok (.ok items retained)))) :: slots) .serving .taskFailed rfl)
        unfold recordStopReason
        rw [wp_bind]
        refine wp_mono (appendEmergency_spec _ next) (fun _ final recorded => ?_) ?_
        · rw [wp_bind]
          have explained := stops.tail (.explained recorded)
          refine wp_mono (finish_spec final _ _ .taskFailed rfl)
            (fun _ _ moves => ⟨_, rfl, explained.trans moves⟩) ?_
          rintro _ _ ⟨mode, moves⟩
          exact ⟨_, mode, rfl, explained.trans moves⟩
        · rintro _ _ rfl
          exact ⟨_, _, rfl, stops⟩
      · refine wp_mono (@skipTask_spec env permits entry slots next
          (.chain (.ended (.ok (.ok items retained)))) .taskFailed (.inr ⟨items, retained, rfl⟩)) ?_ ?_
        · intro outcome final carries
          cases outcome with
          | none => exact numbered.trans carries
          | some result =>
            obtain ⟨slot, kept, moves⟩ := carries
            exact ⟨slot, kept, numbered.trans moves⟩
        · rintro _ final ⟨slot, mode, kept, moves⟩
          exact ⟨slot, mode, kept, numbered.trans moves⟩
    | ok children =>
      have expanded : RunMoves env permits
          ⟨world, (entry, .chain (.ended (.ok (.ok items retained)))) :: slots, .serving⟩
          ⟨next, (entry, .expanding children retained) :: slots, .serving⟩ :=
        .single (.expanded expands)
      dsimp only
      rw [wp_bind]
      refine wp_mono (@enqueueChildren_spec env permits entry slots children retained next)
        (fun outcome final enqueues => ?_) ?_
      · cases outcome with
        | some result =>
          obtain ⟨slot, kept, moves⟩ := enqueues
          exact ⟨slot, kept, expanded.trans moves⟩
        | none =>
          have reached := expanded.trans enqueues
          dsimp only
          rw [wp_bind]
          refine wp_mono (append_spec _ final) (fun recorded last append => ?_) ?_
          · cases recorded with
            | true => exact reached.tail (.completed append)
            | false =>
              obtain ⟨same, _⟩ := append
              subst last
              refine wp_mono (@finishSlot_spec env permits entry slots final (.expanding [] retained)
                .runBudgetExhausted) ?_ ?_
              · intro outcome last carries
                cases outcome with
                | none => exact reached.trans carries
                | some result =>
                  obtain ⟨slot, kept, moves⟩ := carries
                  exact ⟨slot, kept, reached.trans moves⟩
              · rintro _ last ⟨slot, mode, kept, moves⟩
                exact ⟨slot, mode, kept, reached.trans moves⟩
          · rintro _ _ rfl
            exact ⟨_, _, rfl, reached⟩
      · rintro _ final ⟨slot, mode, kept, moves⟩
        exact ⟨slot, mode, kept, expanded.trans moves⟩
  · rintro _ next numbered
    exact ⟨_, .serving, rfl, .single (numbered.move _)⟩

/-- A chain's result is carried over, or the run ends or breaks with it. -/
theorem processResult_spec (result : TaskChainExecutionResultV1) (world : World) :
    wp (processResult env entry result)
      (fun outcome next => match outcome with
        | none => RunMoves env permits ⟨world, (entry, .chain (.ended (.ok result))) :: slots, .serving⟩
            ⟨next, slots, .serving⟩
        | some final => Ends env permits
            ⟨world, (entry, .chain (.ended (.ok result))) :: slots, .serving⟩ final next)
      (fun error => Breaks env permits
        ⟨world, (entry, .chain (.ended (.ok result))) :: slots, .serving⟩ error) world := by
  unfold processResult
  cases result with
  | completed stop =>
    have reached : RunMoves env permits
        ⟨world, (entry, .chain (.ended (.ok (.completed stop)))) :: slots, .serving⟩ _ :=
      .single .reached
    dsimp only
    rw [wp_bind]
    refine wp_mono (finalizeSuccessfulRun_spec world _ stop)
      (fun _ _ moves => ⟨_, reached.trans moves⟩) ?_
    rintro error _ ⟨mode, moves⟩
    exact RunMoves.breaks error (reached.trans moves)
  | failed stop =>
    dsimp only
    split
    · rw [wp_bind]
      refine wp_mono (finish_spec world _ .serving stop rfl) (fun _ _ moves => ⟨_, moves⟩) ?_
      rintro error _ ⟨mode, moves⟩
      exact moves.breaks error
    · refine wp_mono (@skipTask_spec env permits entry slots world
        (.chain (.ended (.ok (.failed stop)))) stop (.inl rfl)) ?_ ?_
      · intro outcome next carries
        cases outcome with
        | none =>
          have same : next.relinquished 0 = next := by
            simp only [World.relinquished, Int.sub_zero]
          have moves : RunMoves env permits _ ⟨next.relinquished 0, slots, .serving⟩ := carries
          rw [same] at moves
          exact moves
        | some result =>
          obtain ⟨slot, _, moves⟩ := carries
          exact ⟨_, moves⟩
      · rintro error _ ⟨slot, mode, _, moves⟩
        exact moves.breaks error
  | ok items retained =>
    dsimp only
    rw [wp_bind, wp_tryCatch]
    refine wp_mono (@completeNode_spec env permits entry slots items retained world) ?_ ?_
    · intro outcome next carries
      unfold releaseRetention modifyState
      rw [wp_bind, wp_modify]
      cases outcome with
      | none => exact carries
      | some result =>
        obtain ⟨slot, rfl, moves⟩ := carries
        exact ⟨slots, moves.tail (.relinquished nofun)⟩
    · rintro error next ⟨slot, mode, rfl, moves⟩
      unfold releaseRetention modifyState
      rw [wp_bind, wp_modify]
      exact ⟨slots, (moves.tail .broken).tail (.relinquished nofun)⟩

end Slot

/-! Dispatching batches of nodes. -/

/-- The slots of results that wait to be carried over. -/
def resultSlots (results : List (BatchEntryV1 × TaskChainExecutionResultV1)) :
    List (BatchEntryV1 × SlotV1) :=
  results.map fun result => (result.1, .chain (.ended (.ok result.2)))

/-- The slots of chains that wait or have ended. -/
def activeSlots (chains : List ActiveChainV1) : List (BatchEntryV1 × SlotV1) :=
  chains.map fun active => (active.entry, .chain active.phase.stage)

/-- The slots of nodes whose chains have not been entered. -/
def openingSlots (entries : List BatchEntryV1) : List (BatchEntryV1 × SlotV1) :=
  entries.map fun entry => (entry, .chain .opening)

theorem processResults_spec (results : List (BatchEntryV1 × TaskChainExecutionResultV1))
    (world : World) :
    wp (processResults env results)
      (fun outcome next => match outcome with
        | none => RunMoves env permits ⟨world, resultSlots results, .serving⟩ ⟨next, [], .serving⟩
        | some final => Ends env permits ⟨world, resultSlots results, .serving⟩ final next)
      (fun error => Breaks env permits ⟨world, resultSlots results, .serving⟩ error) world := by
  -- The induction follows the results in dispatch order.
  induction results generalizing world with
  | nil => exact .refl
  | cons result rest ih =>
    obtain ⟨entry, result⟩ := result
    unfold processResults
    rw [wp_bind]
    refine wp_mono (@processResult_spec env permits entry (resultSlots rest) result world)
      (fun outcome next carries => ?_) (fun _ _ breaks => breaks)
    cases outcome with
    | some final => exact carries
    | none =>
      refine wp_mono (ih next) (fun outcome final moves => ?_) (fun _ _ breaks => breaks.after carries)
      cases outcome with
      | none => exact carries.trans moves
      | some result => exact moves.after carries

/-- Nodes are taken from the frontier in order, or the run ends at one that cannot be executed. -/
theorem takeBatch_spec (workers : Nat) (taken : List BatchEntryV1) (world : World) :
    wp (takeBatch env workers)
      (fun plan next => match plan with
        | .entries entries => RunMoves env permits ⟨world, openingSlots taken, .serving⟩
            ⟨next, openingSlots (taken ++ entries), .serving⟩
        | .result result => Ends env permits ⟨world, openingSlots taken, .serving⟩ result next)
      (fun error => Breaks env permits ⟨world, openingSlots taken, .serving⟩ error) world := by
  induction workers generalizing taken world with
  | zero =>
    have done : RunMoves env permits ⟨world, openingSlots taken, .serving⟩
        ⟨world, openingSlots (taken ++ []), .serving⟩ := by rw [List.append_nil]
    exact done
  | succ workers ih =>
    unfold takeBatch
    rw [wp_bind, wp_get]
    cases found : world.frontier.dequeue with
    | none =>
      have done : RunMoves env permits ⟨world, openingSlots taken, .serving⟩
          ⟨world, openingSlots (taken ++ []), .serving⟩ := by rw [List.append_nil]
      exact done
    | some dequeued =>
      obtain ⟨node, frontier⟩ := dequeued
      dsimp only
      rw [wp_bind, wp_set]
      split
      · rename_i task capability isTask isCapability
        let entry : BatchEntryV1 := { node, task, capability }
        have fresh : ∀ slot ∈ openingSlots taken, slot.2 = .chain .opening := by
          intro slot member
          obtain ⟨_, _, rfl⟩ := List.mem_map.mp member
          rfl
        have moved : RunMove env permits ⟨world, openingSlots taken, .serving⟩
            ⟨{ world with frontier }, openingSlots taken ++ [(entry, .chain .opening)], .serving⟩ :=
          @RunMove.dequeued env permits world frontier _ entry fresh found isTask isCapability
        have taking : openingSlots taken ++ [(entry, .chain .opening)] =
            openingSlots (taken ++ [entry]) := by
          simp only [openingSlots, List.map_append, List.map_cons, List.map_nil]
        rw [taking] at moved
        rw [wp_bind]
        refine wp_mono (ih (taken ++ [entry]) { world with frontier }) (fun plan next moves => ?_)
          (fun _ _ breaks => breaks.after (.single moved))
        cases plan with
        | result result => exact moves.after (.single moved)
        | entries entries =>
          have reached := Relation.ReflTransGen.head moved moves
          rw [List.append_assoc] at reached
          exact reached
      · -- The cause is recorded before the run ends with it.
        have missed : RunMoves env permits ⟨world, openingSlots taken, .serving⟩ _ :=
          .single (.missing found)
        unfold recordStopReason
        rw [wp_bind]
        refine wp_mono (appendEmergency_spec _ { world with frontier })
          (fun _ final recorded => ?_) ?_
        · have explained := missed.tail (.explained recorded)
          rw [wp_bind]
          refine wp_mono (finish_spec final _ _ .taskFailed rfl)
            (fun _ _ moves => ⟨_, explained.trans moves⟩) ?_
          rintro error _ ⟨mode, moves⟩
          exact RunMoves.breaks error (explained.trans moves)
        · rintro error _ rfl
          exact RunMoves.breaks error missed

theorem startChains_spec (entries : List BatchEntryV1) (left : List (BatchEntryV1 × SlotV1))
    (mode : RunModeV1) (world : World) :
    wp (startChains env entries)
      (fun chains next => RunMoves env permits ⟨world, left ++ openingSlots entries, mode⟩
        ⟨next, left ++ activeSlots chains, mode⟩)
      (fun error => Breaks env permits ⟨world, left ++ openingSlots entries, mode⟩ error) world := by
  -- The induction follows the entries, with the entered chains on their left.
  induction entries generalizing left world with
  | nil => exact .refl
  | cons entry rest ih =>
    unfold startChains
    rw [wp_bind]
    refine wp_mono (@enterChain_spec env entry permits world) (fun phase next moves => ?_) ?_
    · have entered := ChainMoves.lift moves left (openingSlots rest) mode
      have shift (tail : List (BatchEntryV1 × SlotV1)) :
          left ++ (entry, SlotV1.chain phase.stage) :: tail =
            (left ++ [(entry, SlotV1.chain phase.stage)]) ++ tail := by
        rw [List.append_assoc, List.singleton_append]
      dsimp only at entered
      rw [shift (openingSlots rest)] at entered
      rw [wp_bind]
      refine wp_mono (ih (left ++ [(entry, .chain phase.stage)]) next) (fun chains final rest => ?_)
        (fun _ _ breaks => breaks.after entered)
      have reached := entered.trans rest
      rw [← shift (activeSlots chains)] at reached
      exact reached
    · intro error next moves
      exact RunMoves.breaks error (ChainMoves.lift moves left (openingSlots rest) mode)

/-- The next batch is dispatched, or the run ends or breaks. -/
theorem dispatchBatch_spec (world : World) :
    wp (dispatchBatch env)
      (fun flow next => match flow with
        | .batch chains => RunMoves env permits ⟨world, [], .serving⟩
            ⟨next, activeSlots chains, .serving⟩
        | .result result => Ends env permits ⟨world, [], .serving⟩ result next)
      (fun error => Breaks env permits ⟨world, [], .serving⟩ error) world := by
  unfold dispatchBatch
  rw [wp_bind, wp_get]
  split
  · rename_i empty
    rw [wp_bind]
    unfold finishExhausted
    rw [wp_bind, wp_get]
    split
    · refine wp_mono (finish_spec world [] .serving .taskFailed rfl)
        (fun _ _ moves => ⟨[], moves⟩) ?_
      rintro error _ ⟨mode, moves⟩
      exact RunMoves.breaks error moves
    · rename_i successful
      have exhausted : RunMoves env permits ⟨world, [], .serving⟩ _ :=
        .single (.exhausted (List.isEmpty_iff.mp empty) (Bool.not_eq_true _ ▸ successful))
      refine wp_mono (finalizeSuccessfulRun_spec world [] .sourceExhausted)
        (fun _ _ moves => ⟨[], exhausted.trans moves⟩) ?_
      rintro error _ ⟨mode, moves⟩
      exact RunMoves.breaks error (exhausted.trans moves)
  · rw [wp_bind]
    refine wp_mono (controlStop_spec world) ?_ (fun _ _ => False.elim)
    rintro stop next ⟨quiet, _⟩
    have looked : RunMoves env permits ⟨world, [], .serving⟩ ⟨next, [], .serving⟩ :=
      .single (.quiet quiet)
    cases stop with
    | some stop =>
      dsimp only
      rw [wp_bind]
      refine wp_mono (finish_spec next [] .serving stop rfl)
        (fun _ _ moves => ⟨[], looked.trans moves⟩) ?_
      rintro error _ ⟨mode, moves⟩
      exact RunMoves.breaks error (looked.trans moves)
    | none =>
      dsimp only
      rw [wp_bind]
      refine wp_mono (@takeBatch_spec env permits _ [] next) (fun plan final moves => ?_)
        (fun _ _ breaks => breaks.after looked)
      have reached (mid : RunPointV1) (moves : RunMoves env permits ⟨next, openingSlots [], .serving⟩
          mid) : RunMoves env permits ⟨world, [], .serving⟩ mid := looked.trans moves
      cases plan with
      | result result => exact moves.after looked
      | entries entries =>
        have dispatched := (reached _ moves).tail (.dispatched (fun slot member => by
          obtain ⟨_, _, rfl⟩ := List.mem_map.mp member
          rfl))
        dsimp only
        rw [wp_bind, wp_modify, wp_bind]
        exact wp_mono (@startChains_spec env permits entries [] .serving _)
          (fun chains _ starts => dispatched.trans starts)
          (fun _ _ breaks => breaks.after dispatched)

theorem settleBatch_spec (results : List (BatchEntryV1 × TaskChainExecutionResultV1))
    (world : World) :
    wp (settleBatch env results)
      (fun flow next => match flow with
        | .batch chains => RunMoves env permits ⟨world, resultSlots results, .serving⟩
            ⟨next, activeSlots chains, .serving⟩
        | .result result => Ends env permits ⟨world, resultSlots results, .serving⟩ result next)
      (fun error => Breaks env permits ⟨world, resultSlots results, .serving⟩ error) world := by
  unfold settleBatch
  rw [wp_bind]
  refine wp_mono (@processResults_spec env permits results world) (fun outcome next carries => ?_)
    (fun _ _ breaks => breaks)
  cases outcome with
  | some result => exact carries
  | none =>
    refine wp_mono (@dispatchBatch_spec env permits next) (fun flow final moves => ?_)
      (fun _ _ breaks => breaks.after carries)
    cases flow with
    | batch chains => exact carries.trans moves
    | result result => exact moves.after carries

theorem executeFrontier_spec (world : World) :
    wp (executeFrontier env)
      (fun flow next => match flow with
        | .batch chains => RunMoves env permits ⟨world, [], .serving⟩
            ⟨next, activeSlots chains, .serving⟩
        | .result result => Ends env permits ⟨world, [], .serving⟩ result next)
      (fun error => Breaks env permits ⟨world, [], .serving⟩ error) world := by
  unfold executeFrontier
  rw [wp_bind, wp_get, wp_bind]
  refine wp_mono (orThrow_spec _ world) ?_ (fun error _ same => ?_)
  · rintro priorItems next ⟨same, _⟩
    subst next
    rw [wp_bind]
    refine wp_mono (orThrow_spec _ world) ?_ (fun error _ same => ?_)
    · rintro semanticStops next ⟨same, _⟩
      subst next
      rw [wp_bind, wp_set]
      have looked : RunMoves env permits ⟨world, [], .serving⟩ ⟨{ world with semanticStops }, [],
          .serving⟩ := .single (.quiet ⟨_, _, _, _, _, rfl⟩)
      refine wp_mono (@dispatchBatch_spec env permits { world with semanticStops })
        (fun flow final moves => ?_) (fun _ _ breaks => breaks.after looked)
      cases flow with
      | batch chains => exact looked.trans moves
      | result result => exact moves.after looked
    · subst same
      exact RunMoves.breaks error .refl
  · subst same
    exact RunMoves.breaks error .refl

end Klura
