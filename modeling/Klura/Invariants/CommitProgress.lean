import Klura.Invariants.CommitTurns
import Klura.Library.Check
import Klura.Moves.Machine

/-! Every dispatch batch goes on: no chain waits for a turn that no chain is left to release. -/

namespace Klura

variable {env : RunEnvironment} {permits : TurnPermissionV1}

/-- The status of the chain a slot holds, if it still holds one. -/
def SlotV1.turnStatus : SlotV1 → TurnStatusV1
  | .chain stage => stage.turnStatus
  | _ => .idle

/-- What a slot's chain has to do with its stage, if it still holds one. -/
def SlotV1.Seated : SlotV1 → Prop
  | .chain stage => stage.Seated
  | _ => True

/-- The statuses of the chains that a run has dispatched. -/
def turnStatuses (slots : List (BatchEntryV1 × SlotV1)) : List TurnStatusV1 :=
  slots.map fun slot => slot.2.turnStatus

/-- Whether a run is on its way to its first batch. -/
def RunModeV1.starting : RunModeV1 → Bool
  | .creating .. | .launching _ | .reopening .. | .announcing .. | .authorizing .. | .requeueing _ =>
    true
  | _ => false

/-- What a run keeps between its order and the chains it has dispatched, until it finishes. -/
structure BatchTurns (point : RunPointV1) : Prop where
  starting : point.mode.starting = true → point.slots = []
  seated : point.mode.starting = true ∨ point.mode = .serving →
    ∀ slot ∈ point.slots, slot.2.Seated
  kept : point.mode.starting = true ∨ point.mode = .serving →
    TurnsKept point.world.attemptOrder (turnStatuses point.slots)

theorem TurnsKept.fresh {statuses : List TurnStatusV1} (idle : ∀ status ∈ statuses, status = .idle) :
    TurnsKept AttemptOrderV1.initial statuses := by
  induction statuses with
  | nil =>
    refine ⟨fun _ => ?_, fun closed => absurd rfl closed⟩
    exact {
      bounded := Nat.le_refl _
      fresh := fun ordinal _ => ⟨List.not_mem_nil, rfl⟩
      allocated := fun ordinal member => by
        obtain ⟨status, member, _⟩ := member
        cases member
      distinct := List.nodup_nil
      owning := fun ordinal member => by cases member
      working := fun ordinal member => by cases member
      parked := fun ordinal member => by cases member }
  | cons status rest ih =>
    rw [idle status List.mem_cons_self]
    exact TurnsKept.idle.mpr (ih fun other member => idle other (List.mem_cons_of_mem _ member))

variable {point : RunPointV1}

theorem BatchTurns.finishing (starting : point.mode.starting = false)
    (serving : point.mode ≠ .serving) : BatchTurns point := by
  have finished : ¬(point.mode.starting = true ∨ point.mode = .serving) := by
    rw [starting]
    rintro (impossible | same)
    · cases impossible
    · exact serving same
  exact ⟨fun begins => absurd (.inl begins) finished, fun open_ => absurd open_ finished,
    fun open_ => absurd open_ finished⟩

variable {world : World}

theorem BatchTurns.start {mode : RunModeV1} (kept : TurnsKept world.attemptOrder []) :
    BatchTurns ⟨world, [], mode⟩ :=
  ⟨fun _ => rfl, fun _ _ member => absurd member List.not_mem_nil, fun _ => kept⟩

theorem BatchTurns.serve {world : World} {slots : List (BatchEntryV1 × SlotV1)}
    (seated : ∀ slot ∈ slots, slot.2.Seated)
    (kept : TurnsKept world.attemptOrder (turnStatuses slots)) :
    BatchTurns ⟨world, slots, .serving⟩ :=
  ⟨nofun, fun _ => seated, fun _ => kept⟩

theorem turnStatuses_around (left right : List (BatchEntryV1 × SlotV1)) (entry : BatchEntryV1)
    (stage : StageV1) : (turnStatuses (left ++ (entry, .chain stage) :: right)).Perm
      (stage.turnStatus :: turnStatuses (left ++ right)) := by
  simp only [turnStatuses, List.map_append, List.map_cons]
  exact List.perm_middle

variable {entry : BatchEntryV1}

theorem BatchTurns.head {next : World} {slot after : SlotV1} {slots : List (BatchEntryV1 × SlotV1)}
    (turns : BatchTurns ⟨world, (entry, slot) :: slots, .serving⟩)
    (order : next.attemptOrder = world.attemptOrder) (idle : slot.turnStatus = .idle)
    (idles : after.turnStatus = .idle) (seated : after.Seated) :
    BatchTurns ⟨next, (entry, after) :: slots, .serving⟩ := by
  refine BatchTurns.serve ?_ ?_
  · intro other member
    rcases List.mem_cons.mp member with same | member
    · rw [same]
      exact seated
    · exact turns.seated (.inr rfl) other (List.mem_cons_of_mem _ member)
  · have kept := turns.kept (.inr rfl)
    show TurnsKept next.attemptOrder (after.turnStatus :: turnStatuses slots)
    have kept : TurnsKept world.attemptOrder (slot.turnStatus :: turnStatuses slots) := kept
    rw [idle] at kept
    rw [idles, order]
    exact kept

theorem BatchTurns.tail {world next : World} {entry : BatchEntryV1} {slot : SlotV1}
    {slots : List (BatchEntryV1 × SlotV1)}
    (turns : BatchTurns ⟨world, (entry, slot) :: slots, .serving⟩)
    (order : next.attemptOrder = world.attemptOrder) (idle : slot.turnStatus = .idle) :
    BatchTurns ⟨next, slots, .serving⟩ := by
  refine BatchTurns.serve (fun other member =>
    turns.seated (.inr rfl) other (List.mem_cons_of_mem _ member)) ?_
  have kept : TurnsKept world.attemptOrder (slot.turnStatus :: turnStatuses slots) :=
    turns.kept (.inr rfl)
  rw [idle] at kept
  rw [order]
  exact TurnsKept.idle.mp kept

theorem BatchTurns.order {world next : World} {slots : List (BatchEntryV1 × SlotV1)}
    {mode : RunModeV1} (turns : BatchTurns ⟨world, slots, mode⟩)
    (order : next.attemptOrder = world.attemptOrder) : BatchTurns ⟨next, slots, mode⟩ := by
  refine ⟨turns.starting, turns.seated, fun open_ => ?_⟩
  show TurnsKept next.attemptOrder _
  rw [order]
  exact turns.kept open_

theorem BatchTurns.begin {next : World} {mode after : RunModeV1}
    (turns : BatchTurns ⟨world, [], mode⟩) (begins : mode.starting = true)
    (order : next.attemptOrder = world.attemptOrder) : BatchTurns ⟨next, [], after⟩ := by
  refine BatchTurns.start ?_
  rw [order]
  exact turns.kept (.inl begins)

/-- A move of the run in which no chain leaves early or asks for its turn keeps the turns. -/
theorem batchTurns_kept (early : ¬permits.early) (asks : ¬permits.asks) :
    Keeps (RunMove env permits) BatchTurns := by
  intro before next moves turns
  cases moves with
  | @chain world next left right mode entry stage after moves =>
    refine ⟨fun begins => ?_, fun open_ => ?_, fun open_ => ?_⟩
    · have none_ : left ++ (entry, .chain stage) :: right = [] := turns.starting begins
      simp at none_
    all_goals
      have seats := turns.seated open_
      have chain : ChainTurns permits (turnStatuses (left ++ right)) (world, stage) :=
        ⟨seats (entry, .chain stage) (by simp),
          (turns.kept open_).perm (turnStatuses_around left right entry stage),
          fun permitted => absurd permitted (not_or.mpr ⟨early, asks⟩),
          fun permitted => absurd permitted early, fun permitted => absurd permitted asks⟩
      have kept := chainTurns_kept _ moves chain
    · intro slot member
      rcases List.mem_append.mp member with inside | member
      · exact seats slot (List.mem_append_left _ inside)
      · rcases List.mem_cons.mp member with same | inside
        · rw [same]
          exact kept.seated
        · exact seats slot (List.mem_append_right _ (List.mem_cons_of_mem _ inside))
    · exact kept.kept.perm (turnStatuses_around left right entry after).symm
  | quiet quiet => exact turns.order quiet.order
  | cancelled unasked open_ recorded => exact turns.order recorded.order
  | rooted room => exact turns.begin rfl rfl
  | created recorded => exact turns.begin rfl recorded.order
  | opened opening => exact turns.order rfl
  | known => exact turns.begin rfl rfl
  | launched known fits => exact turns.begin rfl rfl
  | served ready => rcases ready with rfl | rfl <;> exact turns.begin rfl rfl
  | epochTaken => exact turns.begin rfl rfl
  | announced recorded => exact turns.begin rfl recorded.order
  | authorized recorded => exact turns.begin rfl recorded.order
  | allAuthorized => exact turns.begin rfl rfl
  | passedOver => exact turns.begin rfl rfl
  | requeued => exact turns.begin rfl rfl
  | @dequeued world frontier slots entry fresh found task capability =>
    refine BatchTurns.serve ?_ ?_
    · intro slot member
      rcases List.mem_append.mp member with inside | inside
      · exact turns.seated (.inr rfl) slot inside
      · rw [List.mem_singleton.mp inside]
        trivial
    · -- A chain that has not begun may stand anywhere in the batch.
      have kept : TurnsKept world.attemptOrder (.idle :: turnStatuses slots) :=
        TurnsKept.idle.mpr (turns.kept (.inr rfl))
      refine kept.perm ?_
      show List.Perm _ (turnStatuses (slots ++ [(entry, .chain .opening)]))
      simp only [turnStatuses, List.map_append, List.map_cons, List.map_nil]
      exact @List.perm_append_comm _ [TurnStatusV1.idle] (turnStatuses slots)
  | missing found => exact BatchTurns.finishing rfl nofun
  | dispatched fresh =>
    refine BatchTurns.serve (fun slot member => ?_) (TurnsKept.fresh fun status member => ?_)
    · rw [fresh slot member]
      trivial
    · obtain ⟨slot, standing, rfl⟩ := List.mem_map.mp member
      rw [fresh slot standing]
      rfl
  | skipping failed =>
    refine turns.head rfl ?_ rfl trivial
    rcases failed with rfl | ⟨_, _, rfl⟩ <;> rfl
  | skipped recorded => exact turns.tail recorded.order rfl
  | numbered grows => exact turns.order rfl
  | expanded expands =>
    obtain ⟨ordinal, _, rfl⟩ := expanded_numbered expands
    exact turns.head rfl rfl rfl trivial
  | repeated known => exact turns.head rfl rfl rfl trivial
  | spooled unknown fits room => exact turns.head rfl rfl rfl trivial
  | enqueued recorded fits => exact turns.head recorded.order rfl rfl trivial
  | completed recorded => exact turns.tail recorded.order rfl
  | @relinquished world entry slot slots mode stopped =>
    refine ⟨fun begins => ?_, fun open_ => ?_, fun open_ => ?_⟩
    all_goals
      have begins : mode.starting = true := by
        first | exact begins | exact open_.resolve_right stopped
      have none_ : (entry, slot) :: slots = [] := turns.starting begins
      cases none_
  | explained recorded => exact BatchTurns.finishing rfl nofun
  | stopped may => exact BatchTurns.finishing rfl nofun
  | exhausted => exact BatchTurns.finishing rfl nofun
  | reached => exact BatchTurns.finishing rfl nofun
  | closed ending holds =>
    rcases ending with ⟨_, rfl⟩ | ⟨_, rfl⟩ <;> exact BatchTurns.finishing rfl nofun
  | prepared holds names recorded => exact BatchTurns.finishing rfl nofun
  | published recorded => exact BatchTurns.finishing rfl nofun
  | terminated recorded => exact BatchTurns.finishing rfl nofun
  | publishedTerminal recorded => exact BatchTurns.finishing rfl nofun
  | broken => exact BatchTurns.finishing rfl nofun
  | dropped => exact BatchTurns.finishing rfl nofun

theorem Origin.turns (origin : Origin env point) : BatchTurns point := by
  rcases origin with ⟨roots, clock, linkSucceeds, rfl⟩ | ⟨disk, plan, clock, linkSucceeds, _, rfl⟩
  · exact BatchTurns.start (TurnsKept.fresh fun status member => by cases member)
  · exact BatchTurns.start (TurnsKept.fresh fun status member => by cases member)

/-! The steps of an execution. -/

namespace ExecutionV1

/-- A chain waits for the turn of this ordinal, and the turn has not been settled. -/
def Waits (execution : ExecutionV1) (ordinal : Nat) : Prop :=
  ∃ entry chain continuation, ⟨entry, .claiming chain continuation⟩ ∈ execution.batch ∧
    chain.chainOrdinal = some ordinal ∧ chain.ownsCommitTurn = false ∧
    execution.world.attemptOrder.settled.lookup ordinal = none

/-- A chain that was allocated this ordinal has not returned yet. -/
def Unreturned (execution : ExecutionV1) (ordinal : Nat) : Prop :=
  ∃ entry chain, chain.chainOrdinal = some ordinal ∧
    (⟨entry, .calling chain⟩ ∈ execution.batch ∨
      ∃ continuation, ⟨entry, .claiming chain continuation⟩ ∈ execution.batch)

/-- The statuses of the chains of the current batch. -/
def statuses (execution : ExecutionV1) : List TurnStatusV1 :=
  turnStatuses (activeSlots execution.batch)

/-- A returned call ends its chain unasked only when no chain waits behind it, and lets its chain
ask for its turn only when every turn before it is still to be released by a chain. -/
def KeepsTurns (env : RunEnvironment) (execution : ExecutionV1) (event : RunEventV1) : Prop :=
  ∀ index answer clock entry chain ordinal, event = .callReturned index answer clock →
    execution.batch[index]? = some ⟨entry, .calling chain⟩ →
    chain.chainOrdinal = some ordinal → chain.ownsCommitTurn = false →
    execution.world.attemptOrder.abortReason = none →
      (execution.endsUnasked env event → ∀ waiting, execution.Waits waiting → waiting < ordinal) ∧
      (execution.asksTurn env event → ∀ earlier,
        execution.world.attemptOrder.nextCommit ≤ earlier → earlier < ordinal →
          execution.Unreturned earlier)

/-- What an execution keeps between its order and its chains, while it has any. -/
structure TurnsHold (execution : ExecutionV1) : Prop where
  seated : execution.outcome = none ∨ execution.batch ≠ [] →
    ∀ active ∈ execution.batch, active.phase.stage.Seated
  kept : execution.outcome = none ∨ execution.batch ≠ [] →
    TurnsKept execution.world.attemptOrder execution.statuses

end ExecutionV1

theorem ExecutionV1.TurnsHold.of_point {flow : Except RunError FrontierFlowV1 × World}
    (turns : BatchTurns (ExecutionV1.afterFrontier flow).point) :
    (ExecutionV1.afterFrontier flow).TurnsHold := by
  -- A turn that ends the run leaves no chain behind.
  have serving (open_ : (ExecutionV1.afterFrontier flow).outcome = none ∨
      (ExecutionV1.afterFrontier flow).batch ≠ []) :
      (ExecutionV1.afterFrontier flow).outcome = none := by
    rcases open_ with open_ | chains
    · exact open_
    · by_contra ended
      exact chains (afterFrontier_closed flow ended)
  have mode (open_ : (ExecutionV1.afterFrontier flow).outcome = none) :
      (ExecutionV1.afterFrontier flow).point.mode = .serving := by
    show ExecutionV1.mode _ = _
    unfold ExecutionV1.mode
    rw [open_]
  refine ⟨fun open_ active member => ?_, fun open_ => turns.kept (.inr (mode (serving open_)))⟩
  exact turns.seated (.inr (mode (serving open_))) (active.entry, .chain active.phase.stage)
    (List.mem_map.mpr ⟨active, member, rfl⟩)

variable {execution : ExecutionV1}

theorem Begins.turnsHold (begins : Begins env execution) :
    execution.TurnsHold := by
  obtain ⟨flow, rfl⟩ := begins.turn
  obtain ⟨origin, originates, moves⟩ :=
    @Begins.moves env { early := False, asks := False, turns := fun _ => False } _ begins
  exact ExecutionV1.TurnsHold.of_point ((batchTurns_kept id id).many moves originates.turns)

variable {ordinal : Nat}

variable {active : ActiveChainV1}

/-- The chains beside one whose ordinal is smaller or larger have not returned when the batch says so. -/
theorem unreturned_beside {left right : List ActiveChainV1} {earlier : Nat}
    (split : execution.batch = left ++ active :: right)
    (held : active.phase.stage.turnStatus = .working ordinal)
    (unreturned : execution.Unreturned earlier) (different : earlier ≠ ordinal) :
    Unfinished (turnStatuses (activeSlots left ++ activeSlots right)) earlier := by
  obtain ⟨entry, chain, number, stands⟩ := unreturned
  obtain ⟨other, member, status⟩ : ∃ other ∈ execution.batch,
      other.phase.stage.turnStatus.ordinal = some earlier := by
    rcases stands with member | ⟨continuation, member⟩
    · refine ⟨_, member, ?_⟩
      show (chain.turnStatus .working).ordinal = _
      unfold TaskChainV1.turnStatus
      rw [number]
      dsimp only
      split <;> rfl
    · refine ⟨_, member, ?_⟩
      show (chain.turnStatus .parked).ordinal = _
      unfold TaskChainV1.turnStatus
      rw [number]
      dsimp only
      split <;> rfl
  have beside : other ∈ left ++ right := by
    rw [split] at member
    rcases List.mem_append.mp member with inside | member
    · exact List.mem_append_left _ inside
    · rcases List.mem_cons.mp member with same | inside
      · subst same
        rw [held] at status
        exact absurd (Option.some.inj status).symm different
      · exact List.mem_append_right _ inside
  refine ⟨_, List.mem_map.mpr ⟨(other.entry, .chain other.phase.stage), ?_, rfl⟩, status⟩
  unfold activeSlots
  rw [← List.map_append]
  exact List.mem_map.mpr ⟨other, beside, rfl⟩

theorem waits_parked {chains : List ActiveChainV1}
    (inside : ∀ active ∈ chains, active ∈ execution.batch)
    (parked : .parked ordinal ∈ turnStatuses (activeSlots chains))
    (unsettled : execution.world.attemptOrder.settled.lookup ordinal = none) :
    execution.Waits ordinal := by
  obtain ⟨slot, member, status⟩ := List.mem_map.mp parked
  unfold activeSlots at member
  obtain ⟨active, standing, rfl⟩ := List.mem_map.mp member
  have status : active.phase.stage.turnStatus = .parked ordinal := status
  obtain ⟨entry, phase⟩ := active
  cases phase with
  | calling chain =>
    exact absurd status (TaskChainV1.turnStatus_unparked chain ordinal)
  | returned result => cases status
  | thrown error => cases status
  | claiming chain continuation =>
    have status : chain.turnStatus .parked = .parked ordinal := status
    cases held : chain.chainOrdinal with
    | none =>
      unfold TaskChainV1.turnStatus at status
      rw [held] at status
      cases status
    | some number =>
      by_cases owns : chain.ownsCommitTurn = true
      · rw [TaskChainV1.turnStatus_owning held owns] at status
        cases status
      · rw [TaskChainV1.turnStatus_unowned held owns] at status
        cases status
        exact ⟨entry, chain, continuation, inside _ standing, held,
          Bool.eq_false_of_not_eq_true owns, unsettled⟩

/-- A stretch of one chain that its event permits keeps the turns of its batch. -/
theorem ExecutionV1.TurnsHold.stretch {execution : ExecutionV1} {event : RunEventV1} {index : Nat}
    {entry : BatchEntryV1} {phase : ChainPhaseV1} {stretch : RunProgram ChainFlowV1}
    (clock : List Bool) (holds : execution.TurnsHold)
    (found : execution.batch[index]? = some ⟨entry, phase⟩)
    (stretches : Stretches env entry (execution.permission env event) stretch
      ({ execution.world with clock }, phase.stage))
    (placed : execution.endsUnasked env event ∨ execution.asksTurn env event →
      phase.stage.Placed)
    (leaves : execution.endsUnasked env event → ∀ ordinal,
      phase.stage.turnStatus = .working ordinal →
      execution.world.attemptOrder.abortReason = none →
      ∀ waiting, execution.Waits waiting → waiting < ordinal)
    (asks : execution.asksTurn env event → ∀ ordinal,
      phase.stage.turnStatus = .working ordinal →
      execution.world.attemptOrder.abortReason = none →
      ∀ earlier, execution.world.attemptOrder.nextCommit ≤ earlier → earlier < ordinal →
        execution.Unreturned earlier) :
    (execution.afterChain index entry stretch clock).TurnsHold := by
  obtain ⟨after, batch, outcome, moves⟩ := afterChain_moves execution index clock stretches
  obtain ⟨left, right, before, sets⟩ := batch_split found
  have open_ : execution.outcome = none ∨ execution.batch ≠ [] := by
    right
    rw [before]
    simp
  have seats := holds.seated open_
  have kept := holds.kept open_
  unfold ExecutionV1.statuses at kept
  rw [before, activeSlots_split] at kept
  -- The chain's own turn comes first, and the others of the batch stand beside it.
  have chain : ChainTurns (execution.permission env event)
      (turnStatuses (activeSlots left ++ activeSlots right))
      ({ execution.world with clock }, phase.stage) := by
    refine ⟨?_, kept.perm (turnStatuses_around _ _ entry phase.stage), placed, ?_, ?_⟩
    · exact seats ⟨entry, phase⟩ (by rw [before]; simp)
    · intro permitted ordinal works aborted other parked unsettled
      refine leaves permitted ordinal works aborted other ?_
      unfold activeSlots at parked
      rw [← List.map_append] at parked
      refine waits_parked (fun active member => ?_) parked unsettled
      rw [before]
      rcases List.mem_append.mp member with inside | inside
      · exact List.mem_append_left _ inside
      · exact List.mem_append_right _ (List.mem_cons_of_mem _ inside)
    · intro permitted ordinal works aborted earlier above under
      exact unreturned_beside before works
        (asks permitted ordinal works aborted earlier above under) (by omega)
  have turns := (chainTurns_kept _).many moves chain
  have statuses : (execution.afterChain index entry stretch clock).statuses =
      turnStatuses (activeSlots left ++ (entry, .chain after.stage) :: activeSlots right) := by
    unfold ExecutionV1.statuses
    rw [batch, sets, activeSlots_split]
  refine ⟨fun _ active member => ?_, fun _ => ?_⟩
  · rw [batch, sets] at member
    rcases List.mem_append.mp member with inside | member
    · exact seats active (by rw [before]; exact List.mem_append_left _ inside)
    · rcases List.mem_cons.mp member with same | inside
      · rw [same]
        exact turns.seated
      · exact seats active (by
          rw [before]
          exact List.mem_append_right _ (List.mem_cons_of_mem _ inside))
  · rw [statuses]
    exact turns.kept.perm (turnStatuses_around _ _ entry after.stage).symm

variable {chain : TaskChainV1}

theorem TaskChainV1.turnStatus_working (works : chain.turnStatus .working = .working ordinal) :
    chain.chainOrdinal = some ordinal ∧ chain.ownsCommitTurn = false := by
  cases held : chain.chainOrdinal with
  | none =>
    unfold TaskChainV1.turnStatus at works
    rw [held] at works
    cases works
  | some number =>
    by_cases owns : chain.ownsCommitTurn = true
    · rw [TaskChainV1.turnStatus_owning held owns] at works
      cases works
    · rw [TaskChainV1.turnStatus_unowned held owns] at works
      cases works
      exact ⟨rfl, Bool.eq_false_of_not_eq_true owns⟩

theorem TaskChainV1.turnStatus_unworking (chain : TaskChainV1) (ordinal : Nat) :
    chain.turnStatus .parked ≠ .working ordinal := by
  unfold TaskChainV1.turnStatus
  cases held : chain.chainOrdinal with
  | none => simp
  | some other => by_cases owns : chain.ownsCommitTurn = true <;> simp [owns]

theorem ExecutionV1.TurnsHold.order {execution next : ExecutionV1} (holds : execution.TurnsHold)
    (order : next.world.attemptOrder = execution.world.attemptOrder)
    (batch : next.batch = execution.batch)
    (open_ : next.outcome = none ∨ next.batch ≠ [] →
      execution.outcome = none ∨ execution.batch ≠ []) : next.TurnsHold := by
  refine ⟨fun stands active member => ?_, fun stands => ?_⟩
  · exact holds.seated (open_ stands) active (batch ▸ member)
  · have kept := holds.kept (open_ stands)
    unfold ExecutionV1.statuses at kept ⊢
    rw [order, batch]
    exact kept

theorem ExecutionV1.TurnsHold.cancel (source : RunCancellationSourceV1)
    (holds : execution.TurnsHold) : (execution.cancel env source).TurnsHold := by
  unfold ExecutionV1.cancel
  dsimp only
  split
  · exact holds
  · have ends := wp_runProgram
      (@appendEmergency_spec env (.cancelRequested source) execution.world)
    cases ran : runProgram (appendEmergency env (.cancelRequested source)) execution.world with
    | mk outcome next =>
      rw [ran] at ends
      cases outcome with
      | error error =>
        have same : next = execution.world := ends
        exact holds.order (congrArg World.attemptOrder same) rfl id
      | ok value =>
        have recorded : RecordedEmergency env (.cancelRequested source) execution.world next :=
          ends
        exact holds.order recorded.order rfl id

theorem ExecutionV1.TurnsHold.settle {results : List (BatchEntryV1 × TaskChainExecutionResultV1)}
    (clock : List Bool) (linkSucceeds : Bool) (holds : execution.TurnsHold)
    (running : execution.outcome = none)
    (settled : ExecutionV1.batchResults execution.batch = some results) :
    (ExecutionV1.afterFrontier (runProgram (settleBatch env results)
      { execution.world with clock, linkSucceeds })).TurnsHold := by
  have slots := batchResults_slots settled
  have kept := holds.kept (.inl running)
  unfold ExecutionV1.statuses at kept
  rw [slots] at kept
  have turns : BatchTurns ⟨{ execution.world with clock, linkSucceeds }, resultSlots results,
      .serving⟩ := by
    refine BatchTurns.serve (fun slot member => ?_) kept
    -- A slot that holds a result has no turn to answer for.
    obtain ⟨result, _, rfl⟩ := List.mem_map.mp member
    trivial
  refine ExecutionV1.TurnsHold.of_point ?_
  exact (@batchTurns_kept env { early := False, asks := False, turns := fun _ => False } id id).many
    (afterFrontier_moves (settleBatch_spec results _)) turns

/-- A step that its condition allows keeps the turns of the batch. -/
theorem ExecutionV1.TurnsHold.step {next : ExecutionV1} {event : RunEventV1}
    (holds : execution.TurnsHold) (allowed : execution.KeepsTurns env event)
    (steps : execution.step env event = some next) : next.TurnsHold := by
  cases event with
  | callReturned index answer clock =>
    simp only [ExecutionV1.step] at steps
    split at steps
    · rename_i entry chain found
      cases steps
      have keeps (ordinal : Nat) (works : chain.turnStatus .working = .working ordinal) :=
        allowed index answer clock entry chain ordinal rfl found
          (TaskChainV1.turnStatus_working works).1 (TaskChainV1.turnStatus_working works).2
      exact holds.stretch clock found (callReturned_stretches answer clock found)
        (fun _ => trivial)
        (fun unasked ordinal works open_ => (keeps ordinal works open_).1 unasked)
        (fun asks ordinal works open_ => (keeps ordinal works open_).2 asks)
    · cases steps
  | turnSettled index clock =>
    simp only [ExecutionV1.step] at steps
    split at steps
    · rename_i entry chain continuation found
      simp only [Option.map_eq_some_iff] at steps
      obtain ⟨settlement, settled, rfl⟩ := steps
      -- The chain is parked, so it is not one that works.
      exact holds.stretch clock found (turnSettled_stretches clock found settled)
        (fun _ => trivial)
        (fun _ ordinal works => absurd works (TaskChainV1.turnStatus_unworking chain ordinal))
        (fun _ ordinal works => absurd works (TaskChainV1.turnStatus_unworking chain ordinal))
    · cases steps
  | batchSettled clock linkSucceeds =>
    simp only [ExecutionV1.step] at steps
    split at steps
    · cases steps
    · rename_i running
      simp only [Option.map_eq_some_iff] at steps
      obtain ⟨results, settled, rfl⟩ := steps
      refine holds.settle clock linkSucceeds ?_ settled
      cases ended : execution.outcome with
      | none => rfl
      | some outcome => simp [ended] at running
  | batchRejected index =>
    simp only [ExecutionV1.step] at steps
    split at steps
    · cases steps
    · split at steps
      · rename_i error found
        cases steps
        refine holds.order rfl rfl fun _ => .inr ?_
        intro none_
        rw [none_] at found
        cases found
      · cases steps
  | cancel source =>
    cases steps
    exact holds.cancel source
  | deadline =>
    simp only [ExecutionV1.step] at steps
    split at steps
    · cases steps
    · cases steps
      exact holds.order rfl rfl id

theorem reached_turnsHold
    (reached : (executionMachine env).Reaches (ExecutionV1.KeepsTurns env) execution) :
    execution.TurnsHold :=
  reached.invariant (fun _ begins => Begins.turnsHold begins)
    fun _ _ _ allowed steps holds => holds.step allowed steps

/-- What a run does next by itself: all but what its caller asks of it and its deadline. -/
def RunEventV1.isOwn : RunEventV1 → Bool
  | .cancel _ | .deadline => false
  | _ => true

theorem unreturned_status (member : active ∈ execution.batch)
    (status : active.phase.stage.turnStatus.ordinal = some ordinal) :
    execution.Unreturned ordinal := by
  obtain ⟨entry, phase⟩ := active
  have held {chain : TaskChainV1} {unowned : Nat → TurnStatusV1}
      (counts : ∀ number, (unowned number).ordinal = some number)
      (status : (chain.turnStatus unowned).ordinal = some ordinal) :
      chain.chainOrdinal = some ordinal := by
    unfold TaskChainV1.turnStatus at status
    cases number : chain.chainOrdinal with
    | none => rw [number] at status; cases status
    | some other =>
      rw [number] at status
      dsimp only at status
      split at status
      · exact status
      · rw [counts] at status
        exact status
  cases phase with
  | calling chain => exact ⟨entry, chain, held (fun _ => rfl) status, .inl member⟩
  | claiming chain continuation =>
    exact ⟨entry, chain, held (fun _ => rfl) status, .inr ⟨continuation, member⟩⟩
  | returned result => cases status
  | thrown error => cases status

theorem unreturned_unfinished (unfinished : Unfinished execution.statuses ordinal) :
    execution.Unreturned ordinal := by
  obtain ⟨status, member, number⟩ := unfinished
  obtain ⟨slot, inside, rfl⟩ := List.mem_map.mp member
  unfold activeSlots at inside
  obtain ⟨active, standing, rfl⟩ := List.mem_map.mp inside
  exact unreturned_status standing number

theorem ExecutionV1.Waits.parked (waits : execution.Waits ordinal) :
    .parked ordinal ∈ execution.statuses := by
  obtain ⟨entry, chain, continuation, member, held, unowned, _⟩ := waits
  refine List.mem_map.mpr ⟨(entry, .chain (.claiming chain continuation)), ?_, ?_⟩
  · exact List.mem_map.mpr ⟨_, member, rfl⟩
  · exact TaskChainV1.turnStatus_unowned held (by rw [unowned]; nofun)

/-- A chain that waits in an order that was not aborted waits for the next commit turn, or for one
after it, which a chain that has not returned holds. -/
theorem ExecutionV1.TurnsHold.waits {execution : ExecutionV1} {ordinal : Nat}
    (holds : execution.TurnsHold) (waits : execution.Waits ordinal)
    (open_ : execution.world.attemptOrder.abortReason = none) :
    execution.world.attemptOrder.nextCommit < ordinal ∧
      execution.Unreturned execution.world.attemptOrder.nextCommit := by
  have chains : execution.batch ≠ [] := by
    obtain ⟨entry, chain, continuation, member, _⟩ := waits
    exact List.ne_nil_of_mem member
  have turns := (holds.kept (.inr chains)).inOrder open_
  rcases turns.parked ordinal waits.parked with ready | waiting
  · obtain ⟨_, _, _, _, _, _, unsettled⟩ := waits
    rw [ready.2] at unsettled
    cases unsettled
  · obtain ⟨_, _, under, all⟩ := waiting
    exact ⟨under, unreturned_unfinished (all _ (Nat.le_refl _) under)⟩

theorem batchResults_returned {batch : List ActiveChainV1}
    (returned : ∀ active ∈ batch, ∃ result, active.phase = .returned result) :
    ∃ results, ExecutionV1.batchResults batch = some results := by
  induction batch with
  | nil => exact ⟨[], rfl⟩
  | cons active rest ih =>
    obtain ⟨others, settled⟩ := ih fun other member => returned other (List.mem_cons_of_mem _ member)
    obtain ⟨result, ended⟩ := returned active List.mem_cons_self
    refine ⟨(active.entry, result) :: others, ?_⟩
    unfold ExecutionV1.batchResults
    rw [ended, settled]
    rfl

variable {continuation : ClaimContinuationV1}

theorem ExecutionV1.TurnsHold.claims (holds : execution.TurnsHold)
    (member : ⟨entry, .claiming chain continuation⟩ ∈ execution.batch) :
    ∃ ordinal, chain.chainOrdinal = some ordinal :=
  Option.isSome_iff_exists.mp (holds.seated (.inr (List.ne_nil_of_mem member)) _ member)

/-- Some turn is settled when all the chains that have not returned have asked for theirs. -/
theorem ExecutionV1.TurnsHold.settles (holds : execution.TurnsHold)
    (member : ⟨entry, .claiming chain continuation⟩ ∈ execution.batch)
    (asked : ∀ active ∈ execution.batch, ∀ chain, active.phase ≠ .calling chain) :
    ∃ active ∈ execution.batch, ∃ chain continuation settlement,
      active.phase = .claiming chain continuation ∧ execution.turnOf chain = some settlement := by
  have kept := holds.kept (.inr (List.ne_nil_of_mem member))
  obtain ⟨ordinal, held⟩ := holds.claims member
  by_cases owns : chain.ownsCommitTurn = true
  · exact ⟨_, member, chain, continuation, .resolved, rfl, if_pos owns⟩
  have unowned : chain.ownsCommitTurn = false := Bool.eq_false_of_not_eq_true owns
  cases settled : execution.world.attemptOrder.settled.lookup ordinal with
  | some settlement =>
    refine ⟨_, member, chain, continuation, settlement, rfl, ?_⟩
    simp only [ExecutionV1.turnOf, unowned, held, Option.bind_some, settled, Bool.false_eq_true,
      if_false]
  | none =>
    -- A chain that waits has the chain of the next commit turn before it.
    have waits : execution.Waits ordinal :=
      ⟨entry, chain, continuation, member, held, unowned, settled⟩
    by_cases open_ : execution.world.attemptOrder.abortReason = none
    · obtain ⟨_, first, next, number, stands⟩ := holds.waits waits open_
      rcases stands with calls | ⟨other, claims⟩
      · exact absurd rfl (asked _ calls next)
      · refine ⟨_, claims, next, other, .resolved, rfl, ?_⟩
        by_cases owner : next.ownsCommitTurn = true
        · exact if_pos owner
        · have parked : .parked execution.world.attemptOrder.nextCommit ∈ execution.statuses := by
            refine List.mem_map.mpr ⟨(first, .chain (.claiming next other)), ?_, ?_⟩
            · exact List.mem_map.mpr ⟨_, claims, rfl⟩
            · exact TaskChainV1.turnStatus_unowned number owner
          rcases (kept.inOrder open_).parked _ parked with ready | waiting
          · simp only [ExecutionV1.turnOf, owner, number, Option.bind_some, ready.2,
              Bool.false_eq_true, if_false]
          · exact absurd waiting.2.2.1 (Nat.lt_irrefl _)
    · exact absurd settled (kept.aborted open_ ordinal waits.parked)

/-- A running execution always has a step of its own to take. -/
theorem ExecutionV1.TurnsHold.steps {execution : ExecutionV1} (holds : execution.TurnsHold)
    (running : execution.outcome = none) :
    ∃ event after, event.isOwn = true ∧ execution.step env event = some after := by
  have going : execution.outcome.isSome = false := by rw [running]; rfl
  -- A call, an error or a settled turn of some chain is a step to take.
  by_cases steps : ∃ active ∈ execution.batch, (∃ chain, active.phase = .calling chain) ∨
      (∃ error, active.phase = .thrown error) ∨
        ∃ chain continuation settlement, active.phase = .claiming chain continuation ∧
          execution.turnOf chain = some settlement
  · obtain ⟨⟨entry, phase⟩, member, kinds⟩ := steps
    obtain ⟨index, found⟩ := List.mem_iff_getElem?.mp member
    rcases kinds with ⟨chain, rfl⟩ | ⟨error, rfl⟩ | ⟨chain, continuation, settlement, rfl, settled⟩
    · let answer : CallAnswerV1 := .threw (.error "the call failed") 0
      refine ⟨.callReturned index answer [],
        execution.afterChain index entry (afterCall env chain answer.result) [], rfl, ?_⟩
      simp only [ExecutionV1.step, found]
    · refine ⟨.batchRejected index, { execution with outcome := some (.error error) }, rfl, ?_⟩
      simp only [ExecutionV1.step, found, going, Bool.false_eq_true, if_false]
    · refine ⟨.turnSettled index [], execution.afterChain index entry
        (afterTurn env chain continuation settlement) [], rfl, ?_⟩
      simp only [ExecutionV1.step, found, settled, Option.map_some]
  · -- Otherwise every chain has returned, and the batch settles.
    have returned : ∀ active ∈ execution.batch, ∃ result, active.phase = .returned result := by
      intro active member
      cases phase : active.phase with
      | returned result => exact ⟨result, rfl⟩
      | calling chain => exact absurd ⟨active, member, .inl ⟨chain, phase⟩⟩ steps
      | thrown error => exact absurd ⟨active, member, .inr (.inl ⟨error, phase⟩)⟩ steps
      | claiming chain continuation =>
        obtain ⟨entry, _⟩ := active
        subst phase
        obtain ⟨other, inside, settled⟩ := holds.settles member fun other inside chain calls =>
          steps ⟨other, inside, .inl ⟨chain, calls⟩⟩
        exact absurd ⟨other, inside, .inr (.inr settled)⟩ steps
    obtain ⟨results, settled⟩ := batchResults_returned returned
    refine ⟨.batchSettled [] true, ExecutionV1.afterFrontier (runProgram (settleBatch env results)
      { execution.world with clock := [], linkSucceeds := true }), rfl, ?_⟩
    simp only [ExecutionV1.step, going, settled, Option.map_some, Bool.false_eq_true, if_false]

/-- Whenever a chain waits for its turn, a chain before it has not returned or the order has been
aborted, and a running execution is never stuck. -/
theorem commit_turns_progress (env : RunEnvironment) (execution : ExecutionV1)
    (reached : (executionMachine env).Reaches (ExecutionV1.KeepsTurns env) execution) :
    (∀ ordinal, execution.Waits ordinal →
      (∃ earlier < ordinal, execution.Unreturned earlier) ∨
        execution.world.attemptOrder.abortReason ≠ none) ∧
    (execution.outcome = none →
      ∃ event after, event.isOwn = true ∧ execution.step env event = some after) := by
  have holds := reached_turnsHold reached
  refine ⟨fun ordinal waits => ?_, fun running => holds.steps running⟩
  by_cases open_ : execution.world.attemptOrder.abortReason = none
  · have waiting := holds.waits waits open_
    exact .inl ⟨_, waiting⟩
  · exact .inr open_

/-- Whether a batch has two chains whose calls are on their way, in the order of their turns. -/
def callsInOrder (execution : ExecutionV1) : Bool :=
  match execution.batch with
  | [⟨_, .calling first⟩, ⟨_, .calling second⟩] =>
    execution.outcome.isNone && first.chainOrdinal == some 0 && second.chainOrdinal == some 1 &&
      !second.ownsCommitTurn
  | _ => false

/-- The later of two pages may return first, and then the run goes on. -/
theorem commit_turns_progress_listing : ∃ started execution,
    startDetached onePageListing (listRoots 2) none [] true = .ok started ∧
      started.step onePageListing (.callReturned 1 (.returned (listedPage [3, 2] none)) []) =
        some execution ∧
      (∀ ordinal, execution.Waits ordinal →
        (∃ earlier < ordinal, execution.Unreturned earlier) ∨
          execution.world.attemptOrder.abortReason ≠ none) ∧
      (execution.outcome = none →
        ∃ event after, event.isOwn = true ∧ execution.step onePageListing event = some after) := by
  have calls : passesTest (startDetached onePageListing (listRoots 2) none [] true) callsInOrder =
      true := by decide +kernel
  obtain ⟨started, starts, inOrder⟩ := passesTest_spec calls
  unfold callsInOrder at inOrder
  split at inOrder
  · rename_i firstEntry first secondEntry second batch
    simp only [Bool.and_eq_true, beq_iff_eq] at inOrder
    obtain ⟨⟨⟨_, firstOrdinal⟩, secondOrdinal⟩, _⟩ := inOrder
    have found : started.batch[1]? = some ⟨secondEntry, .calling second⟩ := by rw [batch]; rfl
    let answer : CallAnswerV1 := .returned (listedPage [3, 2] none)
    have steps : started.step onePageListing (.callReturned 1 answer []) =
        some (started.afterChain 1 secondEntry
          (afterCall onePageListing second answer.result) []) := by
      simp only [ExecutionV1.step, found]
    refine ⟨started, _, starts, steps, ?_⟩
    refine commit_turns_progress onePageListing _
      (.next (.start (.inl ⟨listRoots 2, none, [], true, starts⟩)) ?_ steps)
    -- The first page has not returned, and no chain waits.
    intro index other clock entry chain ordinal same standing held _ _
    cases same
    rw [found] at standing
    cases standing
    rw [secondOrdinal] at held
    cases held
    refine ⟨fun _ waiting waits => ?_, fun _ earlier _ under => ?_⟩
    · obtain ⟨_, _, _, member, _⟩ := waits
      rw [batch] at member
      simp at member
    · have zero : earlier = 0 := by omega
      rw [zero]
      exact ⟨firstEntry, first, firstOrdinal, .inl (by rw [batch]; exact List.mem_cons_self)⟩
  · cases inOrder

/-- Whether the last chain of a batch waits for a turn that no chain is left to release. -/
def waitsForever (execution : ExecutionV1) : Bool :=
  match execution.batch with
  | [⟨_, .returned _⟩, ⟨_, .claiming chain _⟩] =>
    execution.outcome.isNone && chain.chainOrdinal == some 1 && !chain.ownsCommitTurn &&
      (execution.world.attemptOrder.settled.lookup 1).isNone &&
        execution.world.attemptOrder.abortReason.isNone
  | _ => false

/-- A chain that returns after its run was cancelled keeps the turn that a chain waits for. -/
theorem cancelled_listing_stuck : ∃ execution,
    (executionMachine onePageListing).Reaches (fun _ _ => True) execution ∧
      execution.outcome = none ∧ execution.Waits 1 ∧
      execution.world.attemptOrder.abortReason = none ∧
      (∀ earlier < 1, ¬execution.Unreturned earlier) ∧
      ∀ event, event.isOwn = true → execution.step onePageListing event = none := by
  let events : List RunEventV1 :=
    [.callReturned 1 (.returned (listedPage [3, 2] none)) [], .cancel .sdkCancel,
      .callReturned 0 (.returned (listedPage [1, 2] none)) []]
  have stuck : passesTest (startDetached onePageListing (listRoots 2) none [] true)
      (fun started => ((started.run onePageListing events).map waitsForever).getD false) =
        true := by decide +kernel
  obtain ⟨started, starts, stuck⟩ := passesTest_spec stuck
  cases ran : started.run onePageListing events with
  | none => rw [ran] at stuck; cases stuck
  | some execution =>
    rw [ran] at stuck
    have stuck : waitsForever execution = true := stuck
    refine ⟨execution, run_reaches ran
      (.start (.inl ⟨listRoots 2, none, [], true, starts⟩)), ?_⟩
    unfold waitsForever at stuck
    split at stuck
    · rename_i firstEntry result entry chain continuation batch
      simp only [Bool.and_eq_true, beq_iff_eq, Bool.not_eq_true', Option.isNone_iff_eq_none]
        at stuck
      obtain ⟨⟨⟨⟨running, held⟩, unowned⟩, unsettled⟩, open_⟩ := stuck
      refine ⟨running, ?_, open_, fun earlier under unreturned => ?_, fun event own => ?_⟩
      · refine ⟨entry, chain, continuation, ?_, held, unowned, unsettled⟩
        rw [batch]
        exact List.mem_cons_of_mem _ List.mem_cons_self
      · obtain ⟨_, other, number, stands⟩ := unreturned
        have same : other = chain := by
          rw [batch] at stands
          rcases stands with calls | ⟨_, claims⟩
          · simp at calls
          · rcases List.mem_cons.mp claims with impossible | last
            · cases impossible
            · cases List.mem_singleton.mp last
              rfl
        rw [same, held] at number
        cases number
        exact absurd under (Nat.lt_irrefl _)
      · -- No chain is calling, no turn is settled, and the batch has neither settled nor failed.
        cases event with
        | callReturned index answer clock =>
          rcases index with _ | _ | index <;> simp [ExecutionV1.step, batch]
        | turnSettled index clock =>
          rcases index with _ | _ | index <;>
            simp [ExecutionV1.step, batch, ExecutionV1.turnOf, unowned, held, unsettled]
        | batchSettled clock linkSucceeds =>
          simp [ExecutionV1.step, running, batch, ExecutionV1.batchResults]
        | batchRejected index =>
          rcases index with _ | _ | index <;> simp [ExecutionV1.step, running, batch]
        | cancel source => cases own
        | deadline => cases own
    · cases stuck

end Klura
