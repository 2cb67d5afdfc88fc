import Klura.Moves.Nodes

/-! The ends of chains: a chain only returns its items once it has committed its last page. -/

namespace Klura

variable {env : RunEnvironment} {permits : TurnPermissionV1}

/-- A page is the last one of its chain: its outcome is terminal, or its task has no pagination, or
the page satisfies the predicate that says the pagination is exhausted. -/
def LastPage (task : ScrapeTaskKindV1) (context : PageContextV1) : Prop :=
  context.outcomeId ∈ task.terminalOutcomeIds ∨ task.pagination = none ∨
    ∃ pagination, task.pagination = some pagination ∧ pagination.exhaustedWhen context = .ok true

theorem nextPaginationInput_last {task : ScrapeTaskKindV1} {input : JsonValueV1}
    {context : PageContextV1} (last : nextPaginationInput task input context = .ok none) :
    LastPage task context := by
  have passes : Passes (nextPaginationInput task input context) fun next => next = none →
      LastPage task context := by
    unfold nextPaginationInput
    cases paginated : task.pagination with
    | none => exact Passes.ok fun _ => .inr (.inl paginated)
    | some pagination =>
      refine Passes.next fun continueMatches _ => Passes.next fun exhaustedMatches exhausts => ?_
      refine Passes.ite (fun _ => Passes.error _) fun _ => ?_
      refine Passes.ite (fun matches_ => Passes.ok fun _ => .inr (.inr ⟨pagination, paginated, ?_⟩))
        fun _ => ?_
      · -- Only the class of the predicate's error is changed, so it has answered true.
        cases evaluated : pagination.exhaustedWhen context with
        | error error => rw [evaluated] at exhausts; cases exhausts
        | ok answer =>
          rw [evaluated] at exhausts
          cases exhausts
          rw [matches_]
      · split
        · exact Passes.next fun _ _ => Passes.ok (by nofun)
        · exact Passes.error _
        · exact Passes.error _
  exact passes none last rfl

/-! What a chain does once it takes the turn it has waited for. -/

/-- A chain that has taken its turn for a continuation commits that continuation's page, and returns
its items only when the page is the last one. -/
def StageV1.CommitsLast (task : ScrapeTaskKindV1) (continuation : ClaimContinuationV1) :
    StageV1 → Prop
  | .turned chain claimed => chain.task = task ∧ claimed = continuation
  | .committing chain context _ _ | .outputting chain context _ _ _ _
  | .sinking chain context _ _ _ _ | .releasing chain context _ _ _ _ | .advancing chain context =>
    chain.task = task ∧ ∃ items, continuation = .page context items
  | .leaving _ (.ok (.ok _ _)) | .ended (.ok (.ok _ _)) =>
    ∃ context items, continuation = .page context items ∧ LastPage task context
  | _ => True

/-- A chain that takes no other turn returns its items only after its last page. -/
theorem commitsLast_kept {entry : BatchEntryV1} {world : World} {chain : TaskChainV1}
    {continuation : ClaimContinuationV1}
    (only : ∀ point, permits.turns point → point = (world, .claiming chain continuation)) :
    Keeps (ChainMove env entry permits) fun point =>
      point.2.CommitsLast chain.task continuation := by
  intro before after moves commits
  cases moves with
  | quiet quiet => exact commits
  | granted allowed resolved =>
    cases only _ allowed
    exact ⟨rfl, rfl⟩
  | completed recorded => exact ⟨commits.1, _, commits.2.symm⟩
  | duplicated known recorded => exact commits
  | committed fresh room capacity recorded => exact commits
  | charged inline => exact commits
  | written holds writes => exact commits
  | sunk holds recorded => exact commits
  | released pending => exact commits
  | emitted live => exact commits
  | finished last =>
    obtain ⟨same, items, claimed⟩ := commits
    refine ⟨_, items, claimed, .inl ?_⟩
    rw [← same]
    exact of_decide_eq_true last
  | exhausted last =>
    obtain ⟨same, items, claimed⟩ := commits
    refine ⟨_, items, claimed, ?_⟩
    rw [← same]
    exact nextPaginationInput_last last
  | @unopened world maximum items outcome unsuccessful =>
    cases outcome with
    | error error => exact trivial
    | ok result =>
      obtain ⟨stop, rfl⟩ := unsuccessful result rfl
      exact trivial
  | @left world chain outcome order releases =>
    cases outcome with
    | error error => exact trivial
    | ok result =>
      cases result with
      | ok items retained => exact commits
      | _ => exact trivial
  | _ => exact trivial

/-! What a run does in a step that settles no turn. -/

/-- The stages from which a chain may return its items without another turn. -/
def StageV1.wins : StageV1 → Bool
  | .turned .. | .committing .. | .outputting .. | .sinking .. | .releasing .. | .advancing .. =>
    true
  | .leaving _ (.ok (.ok _ _)) | .ended (.ok (.ok _ _)) => true
  | _ => false

/-- The slots whose chain has returned its items, or may do so without another turn. -/
def SlotV1.wins : SlotV1 → Bool
  | .chain stage => stage.wins
  | .expanding .. | .enqueueing .. => true
  | .skipping .. => false

theorem ChainMove.wins {entry : BatchEntryV1} {world next : World} {stage after : StageV1}
    (waits : ∀ point, ¬permits.turns point)
    (moves : ChainMove env entry permits (world, stage) (next, after))
    (before : stage.wins = false) : after.wins = false := by
  cases moves with
  | quiet quiet => exact before
  | granted allowed resolved => exact absurd allowed (waits _)
  | @unopened world maximum items outcome unsuccessful =>
    cases outcome with
    | error error => rfl
    | ok result =>
      obtain ⟨stop, rfl⟩ := unsuccessful result rfl
      rfl
  | @left world chain outcome order releases =>
    cases outcome with
    | error error => rfl
    | ok result =>
      cases result with
      | ok items retained => cases before
      | _ => rfl
  | _ => first | rfl | cases before

/-- Every node that a journal completes is one of these. -/
def Completes (ids : RunNodeIdV1 → Prop) (disk : Disk) : Prop :=
  ∀ frame ∈ disk.frames, ∀ nodeId, frame.body.event = .nodeCompleted nodeId → ids nodeId

namespace Completes

variable {ids : RunNodeIdV1 → Prop}

theorem framed {disk : Disk} {frame : JournalFrameV1} (completes : Completes ids disk)
    (other : ∀ nodeId, frame.body.event = .nodeCompleted nodeId → ids nodeId) :
    Completes ids (.frame frame :: disk) := by
  intro written member nodeId event
  have member : written ∈ frame :: disk.frames := member
  rcases List.mem_cons.mp member with rfl | inside
  · exact other nodeId event
  · exact completes written inside nodeId event

theorem worksOn {disk next : Disk} (completes : Completes ids disk)
    (works : WorksOn env disk next) : Completes ids next := by
  cases works with
  | kept same =>
    rw [same]
    exact completes
  | spooled content writes =>
    rw [writes]
    exact completes
  | framed frame works writes =>
    rw [writes]
    apply completes.framed
    intro nodeId event
    rw [event] at works
    cases works

variable {world next : World} {event : JournalEventV1}

theorem recorded (completes : Completes ids world.disk) (recorded : Recorded env event world next)
    (other : ∀ nodeId, event = .nodeCompleted nodeId → ids nodeId) : Completes ids next.disk := by
  obtain ⟨frame, carries, writes⟩ := recorded.write
  rw [writes]
  apply completes.framed
  rw [carries]
  exact other

theorem recordedEmergency (completes : Completes ids world.disk)
    (recorded : RecordedEmergency env event world next)
    (other : ∀ nodeId, event = .nodeCompleted nodeId → ids nodeId) : Completes ids next.disk := by
  obtain ⟨frame, carries, writes⟩ := recorded.write
  rw [writes]
  apply completes.framed
  rw [carries]
  exact other

end Completes

/-- The nodes whose chains have returned their items, and those that are completed, are these. -/
structure EndsWithin (ids : RunNodeIdV1 → Prop) (point : RunPointV1) : Prop where
  slots : ∀ slot ∈ point.slots, slot.2.wins = true → ids slot.1.node.nodeId
  frames : Completes ids point.world.disk

/-- A run in which no chain takes a turn completes only nodes whose chains had returned. -/
theorem endsWithin_kept {ids : RunNodeIdV1 → Prop} (waits : ∀ point, ¬permits.turns point) :
    Keeps (RunMove env permits) (EndsWithin ids) := by
  intro before after moves ends
  have completes := ends.frames
  have kept := ends.slots
  -- A slot keeps its node, so one that replaces the first may win when the first could.
  have replaced {first slot : SlotV1} {entry : BatchEntryV1}
      {slots : List (BatchEntryV1 × SlotV1)}
      (slots_ : ∀ other ∈ (entry, first) :: slots, other.2.wins = true → ids other.1.node.nodeId)
      (wins : slot.wins = true → first.wins = true) :
      ∀ other ∈ (entry, slot) :: slots, other.2.wins = true → ids other.1.node.nodeId := by
    intro other member won
    rcases List.mem_cons.mp member with rfl | inside
    · exact slots_ (entry, first) List.mem_cons_self (wins won)
    · exact slots_ other (List.mem_cons_of_mem _ inside) won
  have dropped {first : BatchEntryV1 × SlotV1} {slots : List (BatchEntryV1 × SlotV1)}
      (slots_ : ∀ other ∈ first :: slots, other.2.wins = true → ids other.1.node.nodeId) :
      ∀ other ∈ slots, other.2.wins = true → ids other.1.node.nodeId :=
    fun other member => slots_ other (List.mem_cons_of_mem _ member)
  cases moves with
  | @chain world next left right mode entry stage after moves =>
    refine ⟨fun slot member won => ?_, completes.worksOn moves.worksOn⟩
    rcases List.mem_append.mp member with inside | member
    · exact kept slot (List.mem_append_left _ inside) won
    · rcases List.mem_cons.mp member with rfl | inside
      · have held := kept (entry, .chain stage) (List.mem_append_right _ List.mem_cons_self)
        cases before : stage.wins with
        | true => exact held before
        | false =>
          have lost : after.wins = true := won
          rw [moves.wins waits before] at lost
          cases lost
      · exact kept slot (List.mem_append_right _ (List.mem_cons_of_mem _ inside)) won
  | quiet quiet =>
    have works : WorksOn env _ _ := .kept quiet.disk
    exact ⟨kept, completes.worksOn works⟩
  | cancelled unasked open_ recorded => exact ⟨kept, (completes.recordedEmergency recorded (by nofun) :)⟩
  | created recorded => exact ⟨kept, (completes.recorded recorded (by nofun) :)⟩
  | announced recorded => exact ⟨kept, (completes.recorded recorded (by nofun) :)⟩
  | authorized recorded => exact ⟨kept, (completes.recorded recorded (by nofun) :)⟩
  | dequeued fresh found task capability =>
    refine ⟨fun slot member won => ?_, completes⟩
    rcases List.mem_append.mp member with inside | inside
    · exact kept slot inside won
    · rw [List.mem_singleton.mp inside] at won
      cases won
  | skipping failed => exact ⟨replaced kept (by nofun), completes⟩
  | skipped recorded => exact ⟨dropped kept, (completes.recorded recorded (by nofun) :)⟩
  | expanded expands =>
    obtain ⟨ordinal, _, rfl⟩ := expanded_numbered expands
    exact ⟨replaced kept fun _ => rfl, completes⟩
  | repeated known => exact ⟨replaced kept fun _ => rfl, completes⟩
  | spooled unknown fits room => exact ⟨replaced kept fun _ => rfl, completes⟩
  | enqueued recorded fits =>
    exact ⟨replaced kept fun _ => rfl, (completes.recorded recorded (by nofun) :)⟩
  | @completed world next entry retained slots recorded =>
    have closes : ∀ nodeId, JournalEventV1.nodeCompleted entry.node.nodeId = .nodeCompleted nodeId →
        ids nodeId := by
      intro nodeId event
      cases event
      exact kept _ List.mem_cons_self rfl
    exact ⟨dropped kept, (completes.recorded recorded closes :)⟩
  | relinquished stopped => exact ⟨dropped kept, completes⟩
  | explained recorded => exact ⟨kept, (completes.recordedEmergency recorded (by nofun) :)⟩
  | prepared holds names recorded => exact ⟨kept, (completes.recordedEmergency recorded (by nofun) :)⟩
  | published recorded => exact ⟨kept, (completes.recordedEmergency recorded (by nofun) :)⟩
  | terminated recorded => exact ⟨kept, (completes.recordedEmergency recorded (by nofun) :)⟩
  | publishedTerminal recorded => exact ⟨kept, (completes.recordedEmergency recorded (by nofun) :)⟩
  | dropped => exact ⟨fun _ member => absurd member List.not_mem_nil, completes⟩
  | _ => exact ⟨kept, completes⟩

/-! What the ends of chains are over the whole life of a run. -/

/-- The steps that a life has taken, newest first. -/
abbrev LifeHistory : Type := List (RunLifeV1 × LifeEventV1 × RunLifeV1)

/-- A step settles the turn of a node's last page, after which its chain has returned its items. -/
def ReturnsLast (nodeId : RunNodeIdV1) (step : RunLifeV1 × LifeEventV1 × RunLifeV1) : Prop :=
  ∃ execution index clock next entry chain context page items retained,
    step = (.running execution, .step (.turnSettled index clock), .running next) ∧
    execution.batch[index]? = some ⟨entry, .claiming chain (.page context page)⟩ ∧
    LastPage chain.task context ∧
    next.batch[index]? = some ⟨entry, .returned (.ok items retained)⟩ ∧
    entry.node.nodeId = nodeId

/-- A life has taken a step that ended a chain of a node with the chain's last page. -/
def EndedWithLastPage (history : LifeHistory) (nodeId : RunNodeIdV1) : Prop :=
  ∃ step ∈ history, ReturnsLast nodeId step

/-- The chains of a life that have returned, and the nodes it has completed, are these. -/
def RunLifeV1.EndsWithin (ids : RunNodeIdV1 → Prop) : RunLifeV1 → Prop
  | .running execution => Klura.EndsWithin ids execution.point
  | .stored disk => Completes ids disk

section Life

variable {ids more : RunNodeIdV1 → Prop}

theorem RunLifeV1.EndsWithin.mono (grows : ∀ nodeId, ids nodeId → more nodeId) {life : RunLifeV1}
    (ends : life.EndsWithin ids) : life.EndsWithin more := by
  cases life with
  | running execution =>
    obtain ⟨slots, frames⟩ := ends
    refine ⟨fun slot member won => grows _ (slots slot member won), ?_⟩
    exact fun frame member nodeId event => grows _ (frames frame member nodeId event)
  | stored disk => exact fun frame member nodeId event => grows _ (ends frame member nodeId event)

theorem endsWithin_invariant (ids : RunNodeIdV1 → Prop) :
    MoveInvariant env (fun permits => ∀ point, ¬permits.turns point) (Completes ids)
      (EndsWithin ids) where
  disk := fun _ ends => ends.frames
  starts := fun _ _ _ =>
    ⟨fun _ member => absurd member List.not_mem_nil, fun _ member => absurd member List.not_mem_nil⟩
  resumes := fun disk plan clock linkSucceeds completes plans => by
    refine ⟨fun _ member => absurd member List.not_mem_nil, ?_⟩
    show Completes ids plan.disk
    unfold Completes
    rw [(planResume_reads plans).truncated, truncateSpool_frames]
    exact completes
  keeps := fun permits waits => endsWithin_kept waits
  closes := fun disk recovered kept completes recovers writes => by
    induction writes with
    | refl =>
      unfold Completes
      rw [truncateSpool_frames]
      exact completes
    | tail _ last ih =>
      obtain ⟨frame, closing, rfl⟩ := last
      apply ih.framed
      intro nodeId event
      rw [event] at closing
      exact closing.2.elim

theorem TurnPermissionV1.none_waits : ∀ point, ¬TurnPermissionV1.none.turns point :=
  fun _ takes => takes

variable {execution next : ExecutionV1} {index : Nat} {clock : List Bool} {entry : BatchEntryV1}
  {phase after : ChainPhaseV1}

theorem ChainStep.completes (step : ChainStep env permits execution next index clock entry phase after)
    (completes : Completes ids execution.world.disk) :
    Completes ids next.world.disk ∧
      ∀ kept, CutsOff execution.world.disk next.world.disk kept → Completes ids kept := by
  have along : Keeps (ChainMove env entry permits) fun point => Completes ids point.1.disk :=
    fun before after moves held => held.worksOn moves.worksOn
  refine ⟨along.many step.moves completes, fun kept cuts => ?_⟩
  obtain ⟨point, reaches, rfl⟩ := step.moves.cut cuts
  exact along.many reaches completes

theorem ChainStep.ends (step : ChainStep env permits execution next index clock entry phase after)
    (ends : EndsWithin ids execution.point)
    (returns : after.stage.wins = true → ids entry.node.nodeId) : EndsWithin ids next.point := by
  obtain ⟨left, right, before, sets⟩ := batch_split step.found
  have slots := ends.slots
  unfold ExecutionV1.point at slots
  dsimp only at slots
  rw [before, activeSlots_split] at slots
  refine ⟨fun slot member won => ?_, (step.completes ends.frames).1⟩
  have member : slot ∈ activeSlots next.batch := member
  rw [step.batch, sets, activeSlots_split] at member
  rcases List.mem_append.mp member with inside | member
  · exact slots slot (List.mem_append_left _ inside) won
  · rcases List.mem_cons.mp member with rfl | inside
    · exact returns won
    · exact slots slot (List.mem_append_right _ (List.mem_cons_of_mem _ inside)) won

theorem ChainPhaseV1.returned_of_wins (wins : phase.stage.wins = true) :
    ∃ items retained, phase = .returned (.ok items retained) := by
  cases phase with
  | calling chain => cases wins
  | claiming chain continuation => cases wins
  | thrown error => cases wins
  | returned result =>
    cases result with
    | ok items retained => exact ⟨items, retained, rfl⟩
    | completed stop => cases wins
    | failed stop => cases wins

theorem step_cut {event : RunEventV1} {kept : Disk} (steps : execution.step env event = some next)
    (ends : EndsWithin ids execution.point)
    (cuts : CutsOff execution.world.disk next.world.disk kept) : Completes ids kept := by
  rcases step_splits steps with ⟨_, _, _, _, _, step⟩ | moves
  · exact (step.completes ends.frames).2 kept cuts
  · exact ((endsWithin_invariant ids).along TurnPermissionV1.none_waits (moves _) ends).2 kept cuts

/-- A step returns the items of a chain only when it settles the turn of the chain's last page. -/
theorem step_ends {event : RunEventV1} (steps : execution.step env event = some next)
    (ends : EndsWithin ids execution.point)
    (returns : ∀ nodeId, ReturnsLast nodeId (.running execution, .step event, .running next) →
      ids nodeId) : EndsWithin ids next.point := by
  rcases step_cases steps with ⟨index, answer, clock, entry, chain, after, rfl, step⟩ |
    ⟨index, clock, entry, chain, continuation, after, rfl, step⟩ | moves
  · -- The result of a call settles no turn, so its chain does not come to its end.
    have waits : ∀ point, ¬(execution.permission env
        (.callReturned index answer clock)).turns point := fun _ takes => takes
    have along : Keeps (ChainMove env entry _) fun point => point.2.wins = false :=
      fun before after moves lost => ChainMove.wins waits moves lost
    have loses : after.stage.wins = false := along.many step.moves rfl
    apply step.ends ends
    intro won
    rw [loses] at won
    cases won
  · have only : ∀ point, (execution.permission env (.turnSettled index clock)).turns point →
        point = ({ execution.world with clock }, .claiming chain continuation) := by
      intro point takes
      obtain ⟨other, waiting, claimed, found, same⟩ := takes
      rw [step.found] at found
      cases found
      exact same
    have commits := (commitsLast_kept only).many step.moves trivial
    apply step.ends ends
    intro won
    obtain ⟨items, retained, rfl⟩ := after.returned_of_wins won
    obtain ⟨context, page, rfl, last⟩ := commits
    have inside : index < execution.batch.length :=
      (List.getElem?_eq_some_iff.mp step.found).1
    apply returns
    refine ⟨execution, index, clock, next, entry, chain, context, page, items, retained, rfl,
      step.found, last, ?_, rfl⟩
    rw [step.batch, List.getElem?_set_self inside]
  · exact ((endsWithin_invariant ids).along TurnPermissionV1.none_waits (moves _) ends).1

/-- Over the whole life of a run, a chain has returned its items, and a node has been completed, only
after the turn of the chain's last page was settled. -/
theorem chains_ended {life : RunLifeV1} {history : LifeHistory}
    (reached : (lifeMachine env).remembering.Reaches (fun _ _ => True) (life, history)) :
    life.EndsWithin (EndedWithLastPage history) := by
  refine @Machine.Reaches.invariant _ _ _ _
    (fun state => state.1.EndsWithin (EndedWithLastPage state.2)) ?_ ?_ _ reached
  · intro state begun
    obtain ⟨⟨roots, aborted, clock, linkSucceeds, execution, starts, how⟩, _⟩ := begun
    have along := (endsWithin_invariant (EndedWithLastPage state.2)).along
      TurnPermissionV1.none_waits (startDetached_moves starts)
      ((endsWithin_invariant _).starts roots clock linkSucceeds)
    obtain ⟨life, history⟩ := state
    rcases how with rfl | ⟨kept, ends, rfl⟩
    · exact along.1
    · exact along.2 kept ⟨List.nil_suffix, ends⟩
  · intro before event after _ step ends
    obtain ⟨life, history⟩ := before
    obtain ⟨next, longer⟩ := after
    obtain ⟨steps, remembers⟩ := step
    have steps : LifeStep env life event next := steps
    have remembers : longer = (life, event, next) :: history := remembers
    subst remembers
    -- What had ended before the step has still ended after it.
    have grows (nodeId : RunNodeIdV1) (ended : EndedWithLastPage history nodeId) :
        EndedWithLastPage ((life, event, next) :: history) nodeId := by
      obtain ⟨taken, member, returned⟩ := ended
      exact ⟨taken, List.mem_cons_of_mem _ member, returned⟩
    have ends := RunLifeV1.EndsWithin.mono grows ends
    have invariant := @endsWithin_invariant env
      (EndedWithLastPage ((life, event, next) :: history))
    cases steps with
    | step taken => exact step_ends taken ends fun nodeId last => ⟨_, List.mem_cons_self, last⟩
    | crash taken cuts => exact step_cut taken ends cuts
    | resume resumes =>
      obtain ⟨plan, plans, moves⟩ := resume_moves resumes
      exact (invariant.along TurnPermissionV1.none_waits moves
        (invariant.resumes _ plan _ _ ends plans)).1
    | resumeCrash plans resumes cuts =>
      obtain ⟨plan, planned, moves⟩ := resume_moves resumes
      rw [plans] at planned
      cases planned
      exact (invariant.along TurnPermissionV1.none_waits moves
        (invariant.resumes _ _ _ _ ends plans)).2 _ cuts
    | startup recovers cuts =>
      exact invariant.closes _ _ _ ends recovers ((startupRecovery_closes _ recovers).cut cuts)

end Life

end Klura
