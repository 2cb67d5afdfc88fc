import Klura.Library.Check
import Klura.Moves.Life
import Klura.Run.Listing

/-! The emit limits of a collection: how many items a task kind commits, and when that is too many. -/

namespace Klura

variable {env : RunEnvironment} {permits : TurnPermissionV1}

/-- The task kind of a node's latest attempt, in a journal that is given newest first. -/
def attemptedTask : List JournalFrameV1 → RunNodeIdV1 → Option StableContractIdV1
  | [], _ => none
  | frame :: older, nodeId =>
    match frame.body.event with
    | .attemptIntent attempted task =>
      if attempted = nodeId then some task else attemptedTask older nodeId
    | _ => attemptedTask older nodeId

/-- Whether a commit of a node counts for a task kind, in one chain or in all of them. -/
def countsFor (task : StableContractIdV1) (chain : Option RunNodeIdV1)
    (frames : List JournalFrameV1) (nodeId : RunNodeIdV1) : Bool :=
  decide (attemptedTask frames nodeId = some task) && decide (chain = none ∨ chain = some nodeId)

/-- The items that a task kind has committed, in one chain or in all of them. -/
def committedItems (task : StableContractIdV1) (chain : Option RunNodeIdV1) :
    List JournalFrameV1 → Nat
  | [] => 0
  | frame :: older =>
    match frame.body.event with
    | .itemCommitted nodeId _ _ _ =>
      committedItems task chain older + (if countsFor task chain older nodeId then 1 else 0)
    | _ => committedItems task chain older

/-- The items of a page that committing it would add, once every known identity is left out. -/
def freshItems (task : StableContractIdV1) (chain : Option RunNodeIdV1)
    (frames : List JournalFrameV1) : List Sha256DigestV1 → List BufferedRunItemV1 → Nat
  | _, [] => 0
  | known, item :: rest =>
    if item.identityDigest ∈ known then freshItems task chain frames known rest
    else (if countsFor task chain frames item.nodeId then 1 else 0) +
      freshItems task chain frames (item.identityDigest :: known) rest

/-- A collection declares an emit limit of a scope for a task kind, which resolved to a number. -/
def EmitLimit (env : RunEnvironment) (task : StableContractIdV1) (scope : EmitScopeV1)
    (maximum : Nat) : Prop :=
  ∃ kind ∈ env.collection.taskKinds, kind.id = task ∧ ∃ emit limitId, kind.emit = some emit ∧
    emit.limit = some (scope, limitId) ∧ env.namedLimit limitId = some maximum

/-- What a scope counts in: the whole run, or each single chain. -/
def EmitScopeV1.countsIn : EmitScopeV1 → Option RunNodeIdV1 → Prop
  | .run, chain => chain = none
  | .taskChain, chain => ∃ nodeId, chain = some nodeId

/-- Committing these items too would keep every emit limit. -/
def EmitsWithin (env : RunEnvironment) (frames : List JournalFrameV1)
    (known : List Sha256DigestV1) (items : List BufferedRunItemV1) : Prop :=
  ∀ task scope maximum chain, EmitLimit env task scope maximum → scope.countsIn chain →
    committedItems task chain frames + freshItems task chain frames known items ≤ maximum

/-- Every emit limit is kept by what a journal commits. -/
def EmitLimitsHold (env : RunEnvironment) (frames : List JournalFrameV1) : Prop :=
  ∀ task scope maximum chain, EmitLimit env task scope maximum → scope.countsIn chain →
    committedItems task chain frames ≤ maximum

/-- A settled turn of a page is allowed when the emit limits leave room for the page's fresh
items. -/
def KeepsEmitLimits (env : RunEnvironment) (execution : ExecutionV1) (event : RunEventV1) : Prop :=
  ∀ index clock entry chain context items, event = .turnSettled index clock →
    execution.batch[index]? = some ⟨entry, .claiming chain (.page context items)⟩ →
    EmitsWithin env execution.world.disk.frames execution.world.state.identityDigests items

/-! What the moves of a chain do to the counts. -/

theorem EmitsWithin.nil {frames : List JournalFrameV1} {known : List Sha256DigestV1} :
    EmitsWithin env frames known [] ↔ EmitLimitsHold env frames := by
  unfold EmitsWithin EmitLimitsHold
  simp only [freshItems, Nat.add_zero]

theorem EmitsWithin.holds {frames : List JournalFrameV1} {known : List Sha256DigestV1}
    {items : List BufferedRunItemV1} (within : EmitsWithin env frames known items) :
    EmitLimitsHold env frames := by
  intro task scope maximum chain limited counts
  have bounded := within task scope maximum chain limited counts
  omega

/-- An event that commits no item. -/
def JournalEventV1.uncommitted : JournalEventV1 → Bool
  | .itemCommitted .. => false
  | _ => true

theorem committedItems_other {frame : JournalFrameV1} (other : frame.body.event.uncommitted = true)
    (task : StableContractIdV1) (chain : Option RunNodeIdV1) (older : List JournalFrameV1) :
    committedItems task chain (frame :: older) = committedItems task chain older := by
  rw [committedItems]
  cases event : frame.body.event with
  | itemCommitted => rw [event] at other; cases other
  | _ => rfl

theorem EmitLimitsHold.other {frame : JournalFrameV1} {older : List JournalFrameV1}
    (other : frame.body.event.uncommitted = true) (holds : EmitLimitsHold env older) :
    EmitLimitsHold env (frame :: older) := by
  intro task scope maximum chain limited counts
  rw [committedItems_other other]
  exact holds task scope maximum chain limited counts

/-- An event that begins no attempt. -/
def JournalEventV1.unattempting : JournalEventV1 → Bool
  | .attemptIntent .. => false
  | _ => true

theorem countsFor_other {frame : JournalFrameV1} (other : frame.body.event.unattempting = true)
    (task : StableContractIdV1) (chain : Option RunNodeIdV1) (older : List JournalFrameV1)
    (nodeId : RunNodeIdV1) :
    countsFor task chain (frame :: older) nodeId = countsFor task chain older nodeId := by
  have same : attemptedTask (frame :: older) nodeId = attemptedTask older nodeId := by
    rw [attemptedTask]
    cases event : frame.body.event with
    | attemptIntent => rw [event] at other; cases other
    | _ => rfl
  unfold countsFor
  rw [same]

theorem freshItems_other {frame : JournalFrameV1} (other : frame.body.event.unattempting = true)
    (task : StableContractIdV1) (chain : Option RunNodeIdV1) (older : List JournalFrameV1)
    (known : List Sha256DigestV1) (items : List BufferedRunItemV1) :
    freshItems task chain (frame :: older) known items =
      freshItems task chain older known items := by
  induction items generalizing known with
  | nil => rfl
  | cons item rest ih =>
    unfold freshItems
    rw [ih, ih, countsFor_other other]

theorem EmitsWithin.other {frame : JournalFrameV1} {older : List JournalFrameV1}
    {known : List Sha256DigestV1} {items : List BufferedRunItemV1}
    (uncommitted : frame.body.event.uncommitted = true)
    (unattempting : frame.body.event.unattempting = true)
    (within : EmitsWithin env older known items) :
    EmitsWithin env (frame :: older) known items := by
  intro task scope maximum chain limited counts
  rw [committedItems_other uncommitted, freshItems_other unattempting]
  exact within task scope maximum chain limited counts

theorem EmitsWithin.known {frames : List JournalFrameV1} {known : List Sha256DigestV1}
    {item : BufferedRunItemV1} {items : List BufferedRunItemV1}
    (member : item.identityDigest ∈ known) (within : EmitsWithin env frames known (item :: items)) :
    EmitsWithin env frames known items := by
  intro task scope maximum chain limited counts
  have bounded := within task scope maximum chain limited counts
  unfold freshItems at bounded
  rw [if_pos member] at bounded
  exact bounded

theorem EmitsWithin.committed {frame : JournalFrameV1} {older : List JournalFrameV1}
    {known : List Sha256DigestV1} {item : BufferedRunItemV1} {items : List BufferedRunItemV1}
    {itemSequence : Nat} (fresh : item.identityDigest ∉ known)
    (commits : frame.body.event =
      .itemCommitted item.nodeId item.identityDigest item.logicalOrder itemSequence)
    (within : EmitsWithin env older known (item :: items)) :
    EmitsWithin env (frame :: older) (item.identityDigest :: known) items := by
  intro task scope maximum chain limited counts
  have bounded := within task scope maximum chain limited counts
  unfold freshItems at bounded
  rw [if_neg fresh] at bounded
  have begun : frame.body.event.unattempting = true := by rw [commits]; rfl
  rw [freshItems_other begun]
  rw [committedItems, commits]
  dsimp only
  omega

/-- The items that a chain at this stage has still to commit. -/
def StageV1.uncommitted : StageV1 → List BufferedRunItemV1
  | .turned _ (.page _ items) | .committing _ _ items _ | .outputting _ _ _ _ items _
  | .sinking _ _ _ _ items _ | .releasing _ _ _ _ items _ => items
  | _ => []

/-- The limits leave room for what a chain has still to commit. -/
def EmitPoint (env : RunEnvironment) (point : ChainPoint) : Prop :=
  EmitsWithin env point.1.disk.frames point.1.state.identityDigests point.2.uncommitted

section Moves

variable {entry : BatchEntryV1} {world next : World} {stage after : StageV1}

theorem Recorded.frames {event : JournalEventV1} (recorded : Recorded env event world next) :
    ∃ frame, frame.body.event = event ∧ next.disk.frames = frame :: world.disk.frames ∧
      next.state.identityDigests = world.state.identityDigests := by
  obtain ⟨frame, carries, writes⟩ := recorded.write
  obtain ⟨_, _, _, rfl⟩ := recorded
  exact ⟨frame, carries, by rw [writes]; rfl, rfl⟩

theorem EmitPoint.idle (holds : EmitLimitsHold env next.disk.frames)
    (nothing : after.uncommitted = []) : EmitPoint env (next, after) := by
  unfold EmitPoint
  rw [nothing]
  exact EmitsWithin.nil.mpr holds

theorem EmitPoint.recorded {event : JournalEventV1} {middle : World}
    (point : EmitPoint env (world, stage)) (recorded : Recorded env event world middle)
    (uncommitted : event.uncommitted = true) (unattempting : event.unattempting = true)
    (disk : next.disk = middle.disk)
    (known : next.state.identityDigests = middle.state.identityDigests)
    (items : after.uncommitted = stage.uncommitted) : EmitPoint env (next, after) := by
  obtain ⟨frame, rfl, frames, digests⟩ := recorded.frames
  unfold EmitPoint
  rw [disk, frames, known, digests, items]
  exact EmitsWithin.other uncommitted unattempting point

theorem EmitPoint.past {event : JournalEventV1} {middle : World}
    (point : EmitPoint env (world, stage)) (recorded : Recorded env event world middle)
    (uncommitted : event.uncommitted = true) (disk : next.disk = middle.disk)
    (nothing : after.uncommitted = []) : EmitPoint env (next, after) := by
  refine EmitPoint.idle ?_ nothing
  obtain ⟨frame, rfl, frames, _⟩ := recorded.frames
  rw [disk, frames]
  exact (EmitsWithin.holds point).other uncommitted

theorem EmitPoint.explained {nodeId : Option RunNodeIdV1} {taskKindId : Option StableContractIdV1}
    {stop : RunStopV1} {message : String} {middle : World} (point : EmitPoint env (world, stage))
    (recorded : RecordedEmergency env (.stopReason nodeId taskKindId stop message) world middle)
    (disk : next.disk = middle.disk) (nothing : after.uncommitted = []) :
    EmitPoint env (next, after) := by
  refine EmitPoint.idle ?_ nothing
  obtain ⟨frame, carries, writes⟩ := recorded.write
  rw [disk, writes]
  exact (EmitsWithin.holds point).other (by rw [carries]; rfl)

/-- A chain that takes its turn only where there is room for its page keeps the limits. -/
theorem emitPoint_kept (turns : ∀ world chain context items,
      permits.turns (world, .claiming chain (.page context items)) →
      EmitsWithin env world.disk.frames world.state.identityDigests items) :
    Keeps (ChainMove env entry permits) (EmitPoint env) := by
  intro before after moves point
  have holds : EmitLimitsHold env before.1.disk.frames := EmitsWithin.holds point
  cases moves with
  | quiet quiet =>
    obtain ⟨_, _, _, _, _, rfl⟩ := quiet
    exact point
  | intended may recorded => exact point.past recorded rfl rfl rfl
  | observed recorded => exact point.past recorded rfl rfl rfl
  | buffered recorded => exact point.past recorded rfl rfl rfl
  | progressed recorded => exact point.past recorded rfl rfl rfl
  | limitless recorded => exact point.explained recorded rfl rfl
  | explained may recorded => exact point.explained recorded rfl rfl
  | @granted world chain continuation allowed resolved =>
    cases continuation with
    | page context items => exact turns world chain context items allowed
    | rejected result => exact EmitPoint.idle holds rfl
    | failed stop error => exact EmitPoint.idle holds rfl
  | completed recorded => exact point.recorded recorded rfl rfl rfl rfl rfl
  | @duplicated world next chain context item items emission known recorded =>
    have fewer : EmitPoint env (world, .committing chain context items emission) :=
      EmitsWithin.known known point
    exact fewer.recorded recorded rfl rfl rfl rfl rfl
  | @committed world next chain context item items emission fresh room capacity recorded =>
    obtain ⟨frame, commits, frames, digests⟩ := recorded.frames
    have within : EmitsWithin env world.disk.frames world.state.identityDigests (item :: items) :=
      point
    have kept := within.committed fresh commits
    rw [← frames, ← digests] at kept
    exact kept
  | charged inline => exact point
  | written holds writes => exact point
  | sunk holds recorded => exact point.recorded recorded rfl rfl rfl rfl rfl
  | released pending => exact point
  | left releases =>
    refine EmitPoint.idle ?_ rfl
    rw [World.left_disk]
    exact holds
  | stranded unreleased =>
    refine EmitPoint.idle ?_ rfl
    rw [World.left_disk]
    exact holds
  | _ => exact EmitPoint.idle holds rfl

end Moves

/-! What the service keeps while it dispatches and settles batches. -/

/-- The items that the chain of a slot has still to commit. -/
def SlotV1.uncommitted : SlotV1 → List BufferedRunItemV1
  | .chain stage => stage.uncommitted
  | _ => []

theorem uncommitted_kept {entry : BatchEntryV1} (never : ∀ point, ¬permits.turns point) :
    Keeps (ChainMove env entry permits) fun point => point.2.uncommitted = [] := by
  intro before after moves nothing
  cases moves with
  | quiet => exact nothing
  | granted allowed resolved => exact absurd allowed (never _)
  | completed recorded => exact nothing
  | duplicated known recorded => cases nothing
  | committed fresh room capacity recorded => cases nothing
  | charged inline => exact nothing
  | written holds writes => exact nothing
  | sunk holds recorded => exact nothing
  | released pending => exact nothing
  | _ => rfl

/-- The limits hold, and no chain has anything to commit. -/
structure EmitsNothing (env : RunEnvironment) (point : RunPointV1) : Prop where
  holds : EmitLimitsHold env point.world.disk.frames
  idle : ∀ slot ∈ point.slots, slot.2.uncommitted = []

theorem EmitsNothing.same {before after : RunPointV1} (nothing : EmitsNothing env before)
    (frames : after.world.disk.frames = before.world.disk.frames)
    (slots : ∀ slot ∈ after.slots, slot ∈ before.slots ∨ slot.2.uncommitted = []) :
    EmitsNothing env after := by
  refine ⟨by rw [frames]; exact nothing.holds, fun slot member => ?_⟩
  rcases slots slot member with inside | idle
  · exact nothing.idle slot inside
  · exact idle

theorem EmitsNothing.wrote {before after : RunPointV1} {event : JournalEventV1}
    (nothing : EmitsNothing env before)
    (writes : ∃ frame, frame.body.event = event ∧
      after.world.disk = .frame frame :: before.world.disk)
    (uncommitted : event.uncommitted = true)
    (slots : ∀ slot ∈ after.slots, slot ∈ before.slots ∨ slot.2.uncommitted = []) :
    EmitsNothing env after := by
  obtain ⟨frame, rfl, writes⟩ := writes
  refine ⟨?_, fun slot member => ?_⟩
  · rw [writes]
    exact nothing.holds.other uncommitted
  · rcases slots slot member with inside | idle
    · exact nothing.idle slot inside
    · exact idle

theorem replaced_slot {entry : BatchEntryV1} {slot after : SlotV1}
    {slots : List (BatchEntryV1 × SlotV1)} (idle : after.uncommitted = []) :
    ∀ other ∈ (entry, after) :: slots,
      other ∈ (entry, slot) :: slots ∨ other.2.uncommitted = [] := by
  intro other member
  rcases List.mem_cons.mp member with same | inside
  · rw [same]
    exact .inr idle
  · exact .inl (List.mem_cons_of_mem _ inside)

theorem dropped_slot {first : BatchEntryV1 × SlotV1} {slots : List (BatchEntryV1 × SlotV1)} :
    ∀ other ∈ slots, other ∈ first :: slots ∨ other.2.uncommitted = [] :=
  fun _ member => .inl (List.mem_cons_of_mem _ member)

/-- A move of a run in which no chain takes its turn keeps the limits. -/
theorem emitsNothing_kept (never : ∀ point, ¬permits.turns point) :
    Keeps (RunMove env permits) (EmitsNothing env) := by
  intro before after moves nothing
  have kept : ∀ slot ∈ before.slots, slot ∈ before.slots ∨ slot.2.uncommitted = [] :=
    fun _ member => .inl member
  cases moves with
  | @chain world next left right mode entry stage after moves =>
    have idle : stage.uncommitted = [] := nothing.idle (entry, .chain stage) (by simp)
    have point : EmitPoint env (world, stage) := EmitPoint.idle nothing.holds idle
    have moved := emitPoint_kept (fun _ _ _ _ turn => absurd turn (never _)) moves point
    refine ⟨EmitsWithin.holds moved, fun slot member => ?_⟩
    rcases List.mem_append.mp member with inside | member
    · exact nothing.idle slot (List.mem_append_left _ inside)
    · rcases List.mem_cons.mp member with same | inside
      · rw [same]
        exact uncommitted_kept never moves idle
      · exact nothing.idle slot (List.mem_append_right _ (List.mem_cons_of_mem _ inside))
  | quiet quiet =>
    refine nothing.same ?_ kept
    rw [quiet.disk]
  | cancelled unasked open_ recorded => exact nothing.wrote recorded.write rfl kept
  | created recorded => exact nothing.wrote recorded.write rfl kept
  | announced recorded => exact nothing.wrote recorded.write rfl kept
  | authorized recorded => exact nothing.wrote recorded.write rfl kept
  | dequeued fresh found task capability =>
    refine nothing.same rfl fun slot member => ?_
    rcases List.mem_append.mp member with inside | inside
    · exact .inl inside
    · rw [List.mem_singleton.mp inside]
      exact .inr rfl
  | skipping failed => exact nothing.same rfl (replaced_slot rfl)
  | skipped recorded => exact nothing.wrote recorded.write rfl dropped_slot
  | expanded expands =>
    obtain ⟨ordinal, _, rfl⟩ := expanded_numbered expands
    exact nothing.same rfl (replaced_slot rfl)
  | repeated known => exact nothing.same rfl (replaced_slot rfl)
  | spooled unknown fits room => exact nothing.same rfl (replaced_slot rfl)
  | enqueued recorded fits => exact nothing.wrote recorded.write rfl (replaced_slot rfl)
  | completed recorded => exact nothing.wrote recorded.write rfl dropped_slot
  | relinquished stopped => exact nothing.same rfl dropped_slot
  | explained recorded => exact nothing.wrote recorded.write rfl kept
  | prepared holds names recorded => exact nothing.wrote recorded.write rfl kept
  | published recorded => exact nothing.wrote recorded.write rfl kept
  | terminated recorded => exact nothing.wrote recorded.write rfl kept
  | publishedTerminal recorded => exact nothing.wrote recorded.write rfl kept
  | dropped => exact nothing.same rfl fun _ member => absurd member List.not_mem_nil
  | _ => exact nothing.same rfl kept

/-! What holds over the life of a run. -/

theorem phase_uncommitted (phase : ChainPhaseV1) : phase.stage.uncommitted = [] := by
  cases phase <;> rfl

theorem EmitsNothing.along {start point : RunPointV1} (moves : RunMoves env .none start point)
    (nothing : EmitsNothing env start) :
    EmitLimitsHold env point.world.disk.frames ∧
      ∀ kept, CutsOff start.world.disk point.world.disk kept → EmitLimitsHold env kept.frames := by
  have keeps := @emitsNothing_kept env .none fun _ turn => turn
  refine ⟨(keeps.many moves nothing).holds, fun kept cuts => ?_⟩
  obtain ⟨between, reaches, rfl⟩ := moves.cut cuts
  exact (keeps.many reaches nothing).holds

theorem emitLimits_step {execution next : ExecutionV1} {event : RunEventV1}
    (holds : EmitLimitsHold env execution.world.disk.frames)
    (allowed : KeepsEmitLimits env execution event)
    (steps : execution.step env event = some next) :
    EmitLimitsHold env next.world.disk.frames ∧
      ∀ kept, CutsOff execution.world.disk next.world.disk kept →
        EmitLimitsHold env kept.frames := by
  rcases step_splits steps with ⟨index, clock, entry, phase, after, step⟩ | moves
  · have point : EmitPoint env ({ execution.world with clock }, phase.stage) :=
      EmitPoint.idle holds (phase_uncommitted phase)
    -- The chain takes its turn at most where the step begins, and there the page has room.
    have keeps : Keeps (ChainMove env entry (execution.permission env event)) (EmitPoint env) := by
      refine emitPoint_kept fun world chain context items turn => ?_
      have turn : execution.takesTurn (world, .claiming chain (.page context items)) event := turn
      cases event with
      | turnSettled settled late =>
        obtain ⟨other, owner, continuation, found, same⟩ := turn
        cases same
        exact allowed settled late other chain context items rfl found
      | _ => exact False.elim turn
    refine ⟨EmitsWithin.holds (keeps.many step.moves point), fun kept cuts => ?_⟩
    obtain ⟨between, reaches, rfl⟩ := step.moves.cut cuts
    exact EmitsWithin.holds (keeps.many reaches point)
  · refine EmitsNothing.along (moves .none) ⟨holds, fun slot member => ?_⟩
    obtain ⟨active, _, rfl⟩ := List.mem_map.mp member
    exact phase_uncommitted active.phase

theorem EmitLimitsHold.empty : EmitLimitsHold env [] := by
  intro task scope maximum chain _ _
  exact Nat.zero_le _

theorem emitLimits_invariant : LifeInvariant env (KeepsEmitLimits env)
    (fun disk => EmitLimitsHold env disk.frames)
    (fun execution => EmitLimitsHold env execution.world.disk.frames) where
  starts := fun roots aborted clock linkSucceeds execution starts => by
    have along := EmitsNothing.along (startDetached_moves starts)
      ⟨EmitLimitsHold.empty, fun _ member => absurd member List.not_mem_nil⟩
    exact ⟨along.1, fun kept ends => along.2 kept ⟨List.nil_suffix, ends⟩⟩
  steps := fun execution event after holds allowed steps => emitLimits_step holds allowed steps
  resumes := fun disk plan aborted clock linkSucceeds execution holds plans resumes => by
    obtain ⟨other, planned, moves⟩ := @resume_moves env .none _ _ _ _ _ resumes
    rw [plans] at planned
    cases planned
    refine EmitsNothing.along moves ⟨?_, fun _ member => absurd member List.not_mem_nil⟩
    show EmitLimitsHold env plan.disk.frames
    rw [(planResume_reads plans).truncated, truncateSpool_frames]
    exact holds
  closes := fun disk recovered kept holds recovers writes => by
    induction writes with
    | refl =>
      rw [truncateSpool_frames]
      exact holds
    | tail _ last ih =>
      obtain ⟨frame, closing, rfl⟩ := last
      refine EmitLimitsHold.other ?_ ih
      cases event : frame.body.event with
      | itemCommitted => rw [event] at closing; exact closing.2.elim
      | _ => rfl

/-- Over the whole life of a run a task kind commits no more items than its emit limit says, when
every page whose turn is settled fits into what the limit leaves. -/
theorem emit_limits_kept (env : RunEnvironment) (life : RunLifeV1)
    (reached : (lifeMachine env).Reaches (LifeAllows (KeepsEmitLimits env)) life) :
    EmitLimitsHold env life.disk.frames := by
  have kept := emitLimits_invariant.reached reached
  cases life with
  | running execution => exact kept
  | stored disk => exact kept

/-- The identifier of the limit on the items a listing emits. -/
def itemsLimitId : StableContractIdV1 := ⟨"items", by decide⟩

/-- The task that reads a page and may emit a limited number of items. -/
def limitedTask (scope : EmitScopeV1) : ScrapeTaskKindV1 :=
  { listTask none .stopRun with
    emit := (listTask none .stopRun).emit.map fun emit =>
      { emit with limit := some (scope, itemsLimitId) } }

/-- A listing of one page whose emit limit resolved to a number. -/
def limitedListing (scope : EmitScopeV1) (maximum : Nat) : RunEnvironment :=
  { listing listingPolicy (limitedTask scope) .inline with
    namedLimits := [(itemsLimitId, maximum)] }

theorem limitedListing_limit {scope other : EmitScopeV1} {maximum number : Nat}
    {task : StableContractIdV1} (limited : EmitLimit (limitedListing scope maximum) task other number) :
    task = listTaskId ∧ other = scope ∧ number = maximum := by
  obtain ⟨kind, member, rfl, emit, limitId, emits, limits, resolved⟩ := limited
  have same : kind = limitedTask scope := List.mem_singleton.mp member
  subst same
  cases emits
  cases limits
  exact ⟨rfl, rfl, (Option.some.inj resolved).symm⟩

/-- The call for the listing's page returns two items. -/
def twoItems : RunEventV1 := .callReturned 0 (.returned (listedPage [1, 2] none)) []

/-- Whether the page that waits for its turn fits into a limit on its run. -/
def pageFits (maximum : Nat) (execution : ExecutionV1) : Bool :=
  match execution.batch with
  | [⟨_, .claiming _ (.page _ items)⟩] =>
    decide (committedItems listTaskId none execution.world.disk.frames +
      freshItems listTaskId none execution.world.disk.frames
        execution.world.state.identityDigests items ≤ maximum)
  | _ => false

/-- A page of two items keeps a limit of two. -/
theorem emit_limits_kept_listing : ∃ started waiting committed,
    startDetached (limitedListing .run 2) (listRoots 1) none [] true = .ok started ∧
      started.step (limitedListing .run 2) twoItems = some waiting ∧
      waiting.step (limitedListing .run 2) (.turnSettled 0 []) = some committed ∧
      EmitLimitsHold (limitedListing .run 2) committed.world.disk.frames := by
  have runs : passesTest (startDetached (limitedListing .run 2) (listRoots 1) none [] true)
      (fun started => ((started.step (limitedListing .run 2) twoItems).map fun waiting =>
        pageFits 2 waiting &&
          (waiting.step (limitedListing .run 2) (.turnSettled 0 [])).isSome).getD false) = true := by
    decide +kernel
  obtain ⟨started, starts, runs⟩ := passesTest_spec runs
  cases returned : started.step (limitedListing .run 2) twoItems with
  | none => rw [returned] at runs; cases runs
  | some waiting =>
    rw [returned] at runs
    obtain ⟨fits, settles⟩ := Bool.and_eq_true_iff.mp runs
    obtain ⟨committed, settled⟩ := Option.isSome_iff_exists.mp settles
    refine ⟨started, waiting, committed, starts, returned, settled, ?_⟩
    have unsettled : LifeAllows (KeepsEmitLimits (limitedListing .run 2)) (.running started)
        (.step twoItems) := by
      intro index clock entry chain context items same
      cases same
    have begun : (lifeMachine (limitedListing .run 2)).Reaches
        (LifeAllows (KeepsEmitLimits (limitedListing .run 2))) (.running started) :=
      .start ⟨listRoots 1, none, [], true, started, starts, .inl rfl⟩
    have first : (lifeMachine (limitedListing .run 2)).Reaches
        (LifeAllows (KeepsEmitLimits (limitedListing .run 2))) (.running waiting) :=
      .next begun unsettled (.step returned)
    have fitting : LifeAllows (KeepsEmitLimits (limitedListing .run 2)) (.running waiting)
        (.step (.turnSettled 0 [])) := by
      -- The only page that is settled is the one whose items were counted.
      intro index clock entry chain context items same found task scope maximum counted limited
        counts
      cases same
      obtain ⟨rfl, rfl, rfl⟩ := limitedListing_limit limited
      have counts : counted = none := counts
      rw [counts]
      unfold pageFits at fits
      split at fits
      · rename_i batch
        rw [batch] at found
        cases found
        exact of_decide_eq_true fits
      · cases fits
    exact emit_limits_kept _ (.running committed) (.next first fitting (.step settled))

/-- Whether a listing of one page has committed more than one item in a scope. -/
def exceedsOne (scope : EmitScopeV1) (execution : ExecutionV1) : Bool :=
  execution.batch.any fun active =>
    decide (1 < committedItems listTaskId
      (if scope = .run then none else some active.entry.node.nodeId) execution.world.disk.frames)

theorem limitedListing_exceeds (scope : EmitScopeV1) : ∃ life,
    (lifeMachine (limitedListing scope 1)).Reaches (fun _ _ => True) life ∧
      ¬EmitLimitsHold (limitedListing scope 1) life.disk.frames := by
  have runs : passesTest (startDetached (limitedListing scope 1) (listRoots 1) none [] true)
      (fun started => ((started.run (limitedListing scope 1) [twoItems, .turnSettled 0 []]).map
        (exceedsOne scope)).getD false) = true := by
    cases scope with
    | run => decide +kernel
    | taskChain => decide +kernel
  obtain ⟨started, starts, runs⟩ := passesTest_spec runs
  cases ran : started.run (limitedListing scope 1) [twoItems, .turnSettled 0 []] with
  | none => rw [ran] at runs; cases runs
  | some execution =>
    rw [ran] at runs
    refine ⟨.running execution, life_run ran
      (.start ⟨listRoots 1, none, [], true, started, starts, .inl rfl⟩), fun holds => ?_⟩
    obtain ⟨active, _, exceeds⟩ := List.any_eq_true.mp runs
    have exceeds := of_decide_eq_true exceeds
    have limited : EmitLimit (limitedListing scope 1) listTaskId scope 1 :=
      ⟨limitedTask scope, List.mem_singleton.mpr rfl, rfl, _, itemsLimitId, rfl, rfl, rfl⟩
    cases scope with
    | run =>
      have bounded := holds listTaskId .run 1 none limited rfl
      exact absurd bounded (Nat.not_le.mpr exceeds)
    | taskChain =>
      have bounded := holds listTaskId .taskChain 1 _ limited ⟨active.entry.node.nodeId, rfl⟩
      exact absurd bounded (Nat.not_le.mpr exceeds)

/-- A page of two items breaks a limit of one, whether on its run or on its chain. -/
theorem emit_limit_exceeded :
    (∃ life, (lifeMachine (limitedListing .run 1)).Reaches (fun _ _ => True) life ∧
      ¬EmitLimitsHold (limitedListing .run 1) life.disk.frames) ∧
    ∃ life, (lifeMachine (limitedListing .taskChain 1)).Reaches (fun _ _ => True) life ∧
      ¬EmitLimitsHold (limitedListing .taskChain 1) life.disk.frames :=
  ⟨limitedListing_exceeds .run, limitedListing_exceeds .taskChain⟩

end Klura
