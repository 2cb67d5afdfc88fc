import Klura.Moves.Service

/-! Every step of an executing run, and its launch, is a sequence of elementary moves. -/

namespace Klura

open Program

variable {env : RunEnvironment} {permits : TurnPermissionV1}

/-- Where the service stands with an execution. -/
def ExecutionV1.mode (execution : ExecutionV1) : RunModeV1 :=
  match execution.outcome with
  | none => .serving
  | some outcome => .ended outcome

/-- An execution as a point between two elementary moves. -/
def ExecutionV1.point (execution : ExecutionV1) : RunPointV1 :=
  { world := execution.world, slots := activeSlots execution.batch, mode := execution.mode }

theorem wp_runProgram {α : Type} {program : RunProgram α} {returns : α → World → Prop}
    {fails : RunError → World → Prop} {world : World} (run : wp program returns fails world) :
    match runProgram program world with
    | (.ok value, next) => returns value next
    | (.error error, next) => fails error next := by
  unfold wp at run
  unfold runProgram
  cases ended : program world with
  | ok value next => rw [ended] at run; exact run
  | error error next => rw [ended] at run; exact run

theorem afterFrontier_moves {start : RunPointV1} {program : RunProgram FrontierFlowV1}
    {world : World}
    (run : wp program
      (fun flow next => match flow with
        | .batch chains => RunMoves env permits start ⟨next, activeSlots chains, .serving⟩
        | .result result => Ends env permits start result next)
      (fun error => Breaks env permits start error) world) :
    RunMoves env permits start (ExecutionV1.afterFrontier (runProgram program world)).point := by
  have ends := wp_runProgram run
  cases ran : runProgram program world with
  | mk outcome next =>
    rw [ran] at ends
    cases outcome with
    | error error =>
      obtain ⟨slots, moves⟩ := ends
      exact moves.tail .dropped
    | ok flow =>
      cases flow with
      | batch chains => exact ends
      | result result =>
        obtain ⟨slots, moves⟩ := ends
        exact moves.tail .dropped

variable {entry : BatchEntryV1}

variable {stretch : RunProgram ChainFlowV1}

theorem afterChain_moves {stage : StageV1} (execution : ExecutionV1) (index : Nat)
    (clock : List Bool)
    (stretches : Stretches env entry permits stretch ({ execution.world with clock }, stage)) :
    ∃ phase, (execution.afterChain index entry stretch clock).batch =
        execution.batch.set index { entry, phase } ∧
      (execution.afterChain index entry stretch clock).outcome = execution.outcome ∧
      ChainMoves env entry permits ({ execution.world with clock }, stage)
        ((execution.afterChain index entry stretch clock).world, phase.stage) := by
  have ends := wp_runProgram (settle_stretch stretches)
  unfold ExecutionV1.afterChain
  cases ran : runProgram (do settleFlow (← stretch)) { execution.world with clock } with
  | mk outcome next =>
    rw [ran] at ends
    cases outcome with
    | ok phase => exact ⟨phase, rfl, rfl, ends⟩
    | error error => exact ⟨.thrown error, rfl, rfl, ends⟩

variable {batch : List ActiveChainV1} {index : Nat}

theorem batch_split {active : ActiveChainV1} (found : batch[index]? = some active) :
    ∃ left right, batch = left ++ active :: right ∧
      ∀ other, batch.set index other = left ++ other :: right := by
  obtain ⟨inside, rfl⟩ := List.getElem?_eq_some_iff.mp found
  refine ⟨batch.take index, batch.drop (index + 1), ?_, fun other => ?_⟩
  · rw [← List.drop_eq_getElem_cons inside, List.take_append_drop]
  · rw [List.set_eq_take_append_cons_drop, if_pos inside]

/-- An event whose call result ends a chain that has not asked for its turn. -/
def ExecutionV1.endsUnasked (env : RunEnvironment) (execution : ExecutionV1) :
    RunEventV1 → Prop
  | .callReturned index answer clock => ∃ entry chain result,
    execution.batch[index]? = some ⟨entry, .calling chain⟩ ∧ answer.result = .ok result ∧
      chain.ownsCommitTurn = false ∧ EndsUnasked env { execution.world with clock } chain result
  | _ => False

theorem activeSlots_split (left right : List ActiveChainV1) (active : ActiveChainV1) :
    activeSlots (left ++ active :: right) =
      activeSlots left ++ (active.entry, .chain active.phase.stage) :: activeSlots right := by
  simp only [activeSlots, List.map_append, List.map_cons]

/-- What a step does that goes on with one chain of the batch and touches no other. -/
structure ChainStep (env : RunEnvironment) (permits : TurnPermissionV1)
    (execution next : ExecutionV1) (index : Nat) (clock : List Bool) (entry : BatchEntryV1)
    (phase after : ChainPhaseV1) : Prop where
  found : execution.batch[index]? = some ⟨entry, phase⟩
  batch : next.batch = execution.batch.set index ⟨entry, after⟩
  outcome : next.outcome = execution.outcome
  moves : ChainMoves env entry permits ({ execution.world with clock }, phase.stage)
    (next.world, after.stage)

variable {execution : ExecutionV1}

variable {phase : ChainPhaseV1}

theorem stretch_step (clock : List Bool) (found : execution.batch[index]? = some ⟨entry, phase⟩)
    (stretches : Stretches env entry permits stretch ({ execution.world with clock }, phase.stage)) :
    ∃ after, ChainStep env permits execution (execution.afterChain index entry stretch clock) index
      clock entry phase after := by
  obtain ⟨after, batch, outcome, moves⟩ := afterChain_moves execution index clock stretches
  exact ⟨after, found, batch, outcome, moves⟩

variable {next : ExecutionV1}

variable {clock : List Bool}

theorem ChainStep.lift {after : ChainPhaseV1}
    (step : ChainStep env permits execution next index clock entry phase after) :
    RunMoves env permits execution.point next.point := by
  obtain ⟨left, right, before, sets⟩ := batch_split step.found
  have started : execution.point = ⟨execution.world,
      activeSlots left ++ (entry, .chain phase.stage) :: activeSlots right, execution.mode⟩ := by
    unfold ExecutionV1.point
    rw [before, activeSlots_split]
  have reached : next.point = ⟨next.world,
      activeSlots left ++ (entry, .chain after.stage) :: activeSlots right, execution.mode⟩ := by
    unfold ExecutionV1.point ExecutionV1.mode
    rw [step.batch, sets, activeSlots_split, step.outcome]
  rw [started, reached]
  exact .head (.quiet ⟨_, _, _, _, _, rfl⟩) (ChainMoves.lift step.moves _ _ _)

theorem batchResults_slots {results : List (BatchEntryV1 × TaskChainExecutionResultV1)}
    (settled : ExecutionV1.batchResults batch = some results) :
    activeSlots batch = resultSlots results := by
  induction batch generalizing results with
  | nil => cases settled; rfl
  | cons active rest ih =>
    obtain ⟨entry, phase⟩ := active
    cases phase with
    | returned result =>
      simp only [ExecutionV1.batchResults, Option.map_eq_some_iff] at settled
      obtain ⟨others, inner, rfl⟩ := settled
      have tail := ih inner
      simp only [activeSlots, resultSlots, List.map_cons, ChainPhaseV1.stage] at tail ⊢
      rw [tail]
    | calling chain => simp [ExecutionV1.batchResults] at settled
    | claiming chain continuation => simp [ExecutionV1.batchResults] at settled
    | thrown error => simp [ExecutionV1.batchResults] at settled

theorem cancel_moves (execution : ExecutionV1) (source : RunCancellationSourceV1) :
    RunMoves env permits execution.point (execution.cancel env source).point := by
  unfold ExecutionV1.cancel
  dsimp only
  split
  · exact .refl
  · rename_i open_
    have unasked : execution.world.cancellationRequested = false := by
      cases asked : execution.world.cancellationRequested with
      | false => rfl
      | true => exact absurd (.inl asked) open_
    have running : execution.world.state.terminal = false := by
      cases ended : execution.world.state.terminal with
      | false => rfl
      | true => exact absurd (.inr ended) open_
    have ends := wp_runProgram (@appendEmergency_spec env (.cancelRequested source) execution.world)
    cases ran : runProgram (appendEmergency env (.cancelRequested source)) execution.world with
    | mk outcome next =>
      rw [ran] at ends
      cases outcome with
      | error error =>
        have same : next = execution.world := ends
        subst same
        exact .refl
      | ok value =>
        have cancelled : RunMoves env permits execution.point _ :=
          .single (.cancelled unasked running ends)
        exact cancelled.tail (.quiet ⟨_, _, _, _, _, rfl⟩)

/-- An event that makes a chain ask for its turn out of turn, unless an error of its own stops it:
a call result that does not end the chain unasked, an error that classifies, or a rejected turn. -/
def ExecutionV1.asksTurn (env : RunEnvironment) (execution : ExecutionV1) : RunEventV1 → Prop
  | .callReturned index answer clock => ∃ entry chain,
    execution.batch[index]? = some ⟨entry, .calling chain⟩ ∧ chain.ownsCommitTurn = false ∧
      (∀ result, answer.result = .ok result →
        ¬EndsUnasked env { execution.world with clock } chain result) ∧
      ∀ error, answer.result = .error error → chainStopForError error ≠ none
  | .turnSettled index _ => ∃ entry chain continuation reason,
    execution.batch[index]? = some ⟨entry, .claiming chain continuation⟩ ∧
      execution.turnOf chain = some (.rejected reason)
  | _ => False

/-- An event that settles the turn of a chain at this point. -/
def ExecutionV1.takesTurn (execution : ExecutionV1) (point : ChainPoint) : RunEventV1 → Prop
  | .turnSettled index clock => ∃ entry chain continuation,
    execution.batch[index]? = some ⟨entry, .claiming chain continuation⟩ ∧
      point = ({ execution.world with clock }, .claiming chain continuation)
  | _ => False

/-- What an event permits the chain it goes on with. -/
def ExecutionV1.permission (env : RunEnvironment) (execution : ExecutionV1) (event : RunEventV1) :
    TurnPermissionV1 :=
  { early := execution.endsUnasked env event, asks := execution.asksTurn env event
    turns := fun point => execution.takesTurn point event }

variable {chain : TaskChainV1}

theorem callReturned_stretches (answer : CallAnswerV1) (clock : List Bool)
    (found : execution.batch[index]? = some ⟨entry, .calling chain⟩) :
    Stretches env entry (execution.permission env (.callReturned index answer clock))
      (afterCall env chain answer.result)
      ({ execution.world with clock }, .calling chain) := by
  refine afterCall_stretch chain _ _ ?_ ?_
  · intro result answers owns unasked
    exact ⟨entry, chain, result, found, answers, owns, unasked⟩
  · intro owns goesOn classifies
    exact ⟨entry, chain, found, owns, goesOn, classifies⟩

theorem turnSettled_stretches {continuation : ClaimContinuationV1} {settlement : TurnSettlement}
    (clock : List Bool)
    (found : execution.batch[index]? = some ⟨entry, .claiming chain continuation⟩)
    (settled : execution.turnOf chain = some settlement) :
    Stretches env entry (execution.permission env (.turnSettled index clock))
      (afterTurn env chain continuation settlement)
      ({ execution.world with clock }, .claiming chain continuation) := by
  refine afterTurn_stretch chain continuation settlement _ settled ?_ ?_
  · intro reason rejection
    rw [rejection] at settled
    exact ⟨entry, chain, continuation, reason, found, settled⟩
  · intro _
    exact ⟨entry, chain, continuation, found, rfl⟩

variable {event : RunEventV1}

/-- Every step goes on with a chain whose call returned or whose turn was settled, or is one of the
service alone. -/
theorem step_cases (steps : execution.step env event = some next) :
    (∃ index answer clock entry chain after, event = .callReturned index answer clock ∧
      ChainStep env (execution.permission env event) execution next index clock entry
        (.calling chain) after) ∨
    (∃ index clock entry chain continuation after, event = .turnSettled index clock ∧
      ChainStep env (execution.permission env event) execution next index clock entry
        (.claiming chain continuation) after) ∨
    ∀ permits, RunMoves env permits execution.point next.point := by
  cases event with
  | callReturned index answer clock =>
    simp only [ExecutionV1.step] at steps
    split at steps
    · rename_i entry chain found
      cases steps
      obtain ⟨after, step⟩ := stretch_step clock found (callReturned_stretches answer clock found)
      exact .inl ⟨index, answer, clock, entry, chain, after, rfl, step⟩
    · cases steps
  | turnSettled index clock =>
    simp only [ExecutionV1.step] at steps
    split at steps
    · rename_i entry chain continuation found
      simp only [Option.map_eq_some_iff] at steps
      obtain ⟨settlement, settled, rfl⟩ := steps
      obtain ⟨after, step⟩ := stretch_step clock found (turnSettled_stretches clock found settled)
      exact .inr (.inl ⟨index, clock, entry, chain, continuation, after, rfl, step⟩)
    · cases steps
  | batchSettled clock linkSucceeds =>
    simp only [ExecutionV1.step] at steps
    split at steps
    · cases steps
    · rename_i running
      simp only [Option.map_eq_some_iff] at steps
      obtain ⟨results, settled, rfl⟩ := steps
      have started : execution.point = ⟨execution.world, resultSlots results, .serving⟩ := by
        unfold ExecutionV1.point ExecutionV1.mode
        rw [batchResults_slots settled]
        cases ended : execution.outcome with
        | none => rfl
        | some outcome => simp [ended] at running
      refine .inr (.inr fun permits => ?_)
      rw [started]
      have looked : RunMoves env permits ⟨execution.world, resultSlots results, .serving⟩
          ⟨{ execution.world with clock, linkSucceeds }, resultSlots results, .serving⟩ :=
        .single (.quiet ⟨_, _, _, _, _, rfl⟩)
      exact looked.trans (afterFrontier_moves (settleBatch_spec results _))
  | batchRejected index =>
    simp only [ExecutionV1.step] at steps
    split at steps
    · cases steps
    · split at steps
      · rename_i error found
        cases steps
        exact .inr (.inr fun _ => .single .broken)
      · cases steps
  | cancel source =>
    cases steps
    exact .inr (.inr fun _ => cancel_moves execution source)
  | deadline =>
    simp only [ExecutionV1.step] at steps
    split at steps
    · cases steps
    · cases steps
      exact .inr (.inr fun _ => .single (.quiet ⟨_, _, _, _, _, rfl⟩))

theorem step_splits (steps : execution.step env event = some next) :
    (∃ index clock entry phase after,
      ChainStep env (execution.permission env event) execution next index clock entry phase after) ∨
    ∀ permits, RunMoves env permits execution.point next.point := by
  rcases step_cases steps with ⟨_, _, _, _, _, _, _, step⟩ | ⟨_, _, _, _, _, _, _, step⟩ | moves
  · exact .inl ⟨_, _, _, _, _, step⟩
  · exact .inl ⟨_, _, _, _, _, step⟩
  · exact .inr moves

theorem step_moves (steps : execution.step env event = some next) :
    RunMoves env (execution.permission env event) execution.point next.point := by
  rcases step_splits steps with ⟨_, _, _, _, _, step⟩ | moves
  · exact step.lift
  · exact moves _

/-! Launching a run. -/

theorem appendInitialNodes_spec (nodes remaining : List ScrapeNodeV1)
    (references : List BlobRefV1) (world : World) :
    wp (appendInitialNodes env remaining)
      (fun others next => RunMoves env permits ⟨world, [], .creating nodes remaining references⟩
        ⟨next, [], .creating nodes [] (references ++ others)⟩) (fun _ _ => True) world := by
  induction remaining generalizing references world with
  | nil =>
    have done : RunMoves env permits ⟨world, [], .creating nodes [] references⟩
        ⟨world, [], .creating nodes [] (references ++ [])⟩ := by rw [List.append_nil]
    exact done
  | cons node remaining ih =>
    unfold appendInitialNodes
    rw [wp_bind]
    refine wp_mono (appendDataBlob_spec _ _ world) ?_ (fun _ _ _ => trivial)
    rintro _ _ ⟨rfl, rfl, room⟩
    rw [wp_bind]
    refine wp_mono (ih (references ++ [world.disk.nextReference env (.node node)]) _)
      (fun others next moves => ?_) (fun _ _ _ => trivial)
    have reached := Relation.ReflTransGen.head (RunMove.rooted room) moves
    rw [List.append_assoc] at reached
    exact reached

theorem createRun_spec (nodes : List ScrapeNodeV1) (world : World) :
    wp (createRun env nodes)
      (fun _ next => RunMoves env permits ⟨world, [], .creating nodes nodes []⟩
        ⟨next, [], .launching nodes⟩) (fun _ _ => True) world := by
  unfold createRun
  rw [wp_bind]
  refine wp_mono (@appendInitialNodes_spec env permits nodes nodes [] world)
    (fun references next moves => ?_) (fun _ _ _ => trivial)
  rw [wp_bind]
  refine wp_mono (append_spec _ next) (fun recorded final append => ?_) (fun _ _ _ => trivial)
  cases recorded with
  | false => trivial
  | true => exact moves.tail (.created append)

theorem tryOpenSink_spec (mode : RunModeV1) (items : List JsonValueV1) (world : World)
    (opening : (∃ nodes, mode = .launching nodes) ∨
      ∃ recovered replayNodes, mode = .reopening recovered replayNodes)
    (fresh : (∃ nodes, mode = .launching nodes) → items = [])
    (read : (∃ recovered replayNodes, mode = .reopening recovered replayNodes) →
      readCommittedRunItems world.disk = .ok items) :
    wp (tryOpenSink env items)
      (fun finished next => match finished with
        | none => RunMoves env permits ⟨world, [], mode⟩ ⟨next, [], mode⟩
        | some result => RunMoves env permits ⟨world, [], mode⟩ ⟨next, [], .ended (.ok result)⟩)
      (fun error => Breaks env permits ⟨world, [], mode⟩ error) world := by
  have stoppable : mode.stoppable = true := by
    rcases opening with ⟨nodes, rfl⟩ | ⟨recovered, replayNodes, rfl⟩ <;> rfl
  unfold tryOpenSink openSink
  rw [wp_tryCatch, wp_bind, wp_bind]
  refine wp_mono (orThrow_spec _ world) ?_ (fun error next same => ?_)
  · rintro sink next ⟨same, opens⟩
    subst next
    exact .single (.opened opening ⟨items, opens, fresh, read⟩)
  · subst same
    split
    · exact RunMoves.breaks error .refl
    · rw [wp_bind]
      refine wp_mono (finish_spec next [] mode .outputSinkFailure stoppable)
        (fun _ _ moves => moves) ?_
      rintro error _ ⟨after, moves⟩
      exact RunMoves.breaks error moves

theorem cancelOnStart_spec (aborted : Option RunCancellationSourceV1) (mode : RunModeV1)
    (world : World) :
    wp (cancelOnStart env aborted)
      (fun _ next => RunMoves env permits ⟨world, [], mode⟩ ⟨next, [], mode⟩)
      (fun _ next => next = world) world := by
  unfold cancelOnStart
  rw [wp_bind, wp_get]
  cases aborted with
  | none => exact .refl
  | some source =>
    dsimp only
    split
    · exact .refl
    · rename_i open_
      have unasked : world.cancellationRequested = false := by
        cases asked : world.cancellationRequested with
        | false => rfl
        | true => exact absurd (.inl asked) open_
      have running : world.state.terminal = false := by
        cases ended : world.state.terminal with
        | false => rfl
        | true => exact absurd (.inr ended) open_
      rw [wp_bind]
      exact wp_mono (appendEmergency_spec _ world)
        (fun _ _ recorded => .single (.cancelled unasked running recorded)) (fun _ _ same => same)

/-- The initial nodes are put into the frontier, or the run ends at one that does not fit. -/
theorem enqueueInitialNodes_spec (nodes : List ScrapeNodeV1) (world : World) :
    wp (enqueueInitialNodes env nodes)
      (fun finished next => match finished with
        | none => RunMoves env permits ⟨world, [], .launching nodes⟩ ⟨next, [], .launching []⟩
        | some result => RunMoves env permits ⟨world, [], .launching nodes⟩
            ⟨next, [], .ended (.ok result)⟩)
      (fun error => Breaks env permits ⟨world, [], .launching nodes⟩ error) world := by
  induction nodes generalizing world with
  | nil => exact .refl
  | cons node remaining ih =>
    unfold enqueueInitialNodes
    rw [modifyState, wp_bind, wp_modify, wp_bind]
    have known : RunMoves env permits ⟨world, [], .launching (node :: remaining)⟩ _ :=
      .single .known
    refine wp_mono (enqueueFrontier_spec node _) (fun enqueued next enqueues => ?_)
      (fun _ _ => False.elim)
    cases enqueued with
    | true =>
      obtain ⟨frontier, fits, rfl⟩ := enqueues
      have launched := known.tail (.launched List.mem_cons_self fits)
      refine wp_mono (ih _) (fun finished final moves => ?_)
        (fun _ _ breaks => breaks.after launched)
      cases finished with
      | none => exact launched.trans moves
      | some result => exact launched.trans moves
    | false =>
      obtain ⟨rfl, _⟩ := enqueues
      simp only [Bool.not_false, if_true]
      rw [wp_bind]
      refine wp_mono (finish_spec _ [] (.launching (node :: remaining)) .runBudgetExhausted rfl)
        (fun _ _ moves => known.trans moves) ?_
      rintro error _ ⟨mode, moves⟩
      exact RunMoves.breaks error (known.trans moves)

/-- A created run goes on to its first calls, or it ends before them. -/
theorem launchRun_spec (nodes : List ScrapeNodeV1) (aborted : Option RunCancellationSourceV1)
    (world : World) :
    wp (launchRun env nodes aborted)
      (fun flow next => match flow with
        | .batch chains => RunMoves env permits ⟨world, [], .launching nodes⟩
            ⟨next, activeSlots chains, .serving⟩
        | .result result => Ends env permits ⟨world, [], .launching nodes⟩ result next)
      (fun error => Breaks env permits ⟨world, [], .launching nodes⟩ error) world := by
  unfold launchRun
  rw [wp_bind]
  refine wp_mono (@tryOpenSink_spec env permits (.launching nodes) [] world (.inl ⟨nodes, rfl⟩)
    (fun _ => rfl) (fun reopening => by obtain ⟨_, _, same⟩ := reopening; cases same))
    (fun finished opened opens => ?_) (fun _ _ breaks => breaks)
  rw [wp_bind]
  cases finished with
  | some result =>
    refine wp_mono (@cancelOnStart_spec env permits aborted (.ended (.ok result)) opened)
      (fun _ _ cancels => ?_) (fun error next same => ?_)
    · exact ⟨[], opens.trans cancels⟩
    · subst same
      exact RunMoves.breaks error opens
  | none =>
    refine wp_mono (@cancelOnStart_spec env permits aborted (.launching nodes) opened)
      (fun _ listening cancels => ?_) (fun error next same => ?_)
    · have reached := opens.trans cancels
      dsimp only
      rw [wp_bind, wp_get]
      split
      · rw [wp_bind]
        refine wp_mono (finish_spec listening [] (.launching nodes) .cancelled rfl)
          (fun _ _ moves => ⟨[], reached.trans moves⟩) ?_
        rintro error _ ⟨mode, moves⟩
        exact RunMoves.breaks error (reached.trans moves)
      · rw [wp_bind]
        refine wp_mono (@enqueueInitialNodes_spec env permits nodes listening)
          (fun finished enqueued enqueues => ?_) (fun _ _ breaks => breaks.after reached)
        cases finished with
        | some result => exact ⟨[], reached.trans enqueues⟩
        | none =>
          have served := (reached.trans enqueues).tail (.served (.inl rfl))
          refine wp_mono (executeFrontier_spec enqueued) (fun flow next ends => ?_)
            (fun _ _ breaks => breaks.after served)
          cases flow with
          | batch chains => exact served.trans ends
          | result result => exact Ends.after served ends
    · subst same
      exact RunMoves.breaks error opens

/-- The world a new run is created in. -/
def creationWorld (env : RunEnvironment) (roots : List PlannedScrapeRootV1) (clock : List Bool)
    (linkSucceeds : Bool) : World :=
  openWorld env [] (initialState env (initialNodesFrom env 0 roots).length) clock linkSucceeds

theorem startDetached_moves {roots : List PlannedScrapeRootV1}
    {aborted : Option RunCancellationSourceV1} {linkSucceeds : Bool}
    (starts : startDetached env roots aborted clock linkSucceeds = .ok execution) :
    RunMoves env permits ⟨creationWorld env roots clock linkSucceeds, [],
      .creating (initialNodesFrom env 0 roots) (initialNodesFrom env 0 roots) []⟩
      execution.point := by
  have created := wp_runProgram (@createRun_spec env permits (initialNodesFrom env 0 roots)
    (creationWorld env roots clock linkSucceeds))
  unfold startDetached at starts
  unfold creationWorld at created ⊢
  dsimp only at starts
  split at starts
  · cases starts
  · rename_i world ran
    cases starts
    rw [ran] at created
    exact created.trans (afterFrontier_moves (launchRun_spec _ aborted world))

/-- The replays are authorized in order, or the run ends at one that has no frame left. -/
theorem authorizeReplays_spec (recovered : RecoveredRunStateV1) (replayNodes : List RecoveryNodeV1)
    (world : World) :
    wp (authorizeReplays env replayNodes)
      (fun finished next => match finished with
        | none => RunMoves env permits ⟨world, [], .authorizing recovered replayNodes⟩
            ⟨next, [], .requeueing recovered.nodes⟩
        | some result => RunMoves env permits ⟨world, [], .authorizing recovered replayNodes⟩
            ⟨next, [], .ended (.ok result)⟩)
      (fun error => Breaks env permits ⟨world, [], .authorizing recovered replayNodes⟩ error)
      world := by
  induction replayNodes generalizing world with
  | nil => exact .single .allAuthorized
  | cons replayNode rest ih =>
    unfold authorizeReplays
    rw [wp_bind]
    refine wp_mono (append_spec _ world) (fun recorded next append => ?_) (fun error next same => ?_)
    · cases recorded with
      | true =>
        have authorized : RunMoves env permits ⟨world, [], .authorizing recovered (replayNode :: rest)⟩
            ⟨next, [], .authorizing recovered rest⟩ := .single (.authorized append)
        refine wp_mono (ih next) (fun finished final moves => ?_)
          (fun _ _ breaks => breaks.after authorized)
        cases finished with
        | none => exact authorized.trans moves
        | some result => exact authorized.trans moves
      | false =>
        obtain ⟨rfl, _⟩ := append
        simp only [Bool.not_false, if_true]
        rw [wp_bind]
        refine wp_mono (finish_spec _ [] (.authorizing recovered (replayNode :: rest))
          .runBudgetExhausted rfl) (fun _ _ moves => moves) ?_
        rintro error _ ⟨mode, moves⟩
        exact RunMoves.breaks error moves
    · subst same
      exact RunMoves.breaks error .refl

/-- The next epoch is announced with what it replays, or the run ends without a frame for it. -/
theorem announceEpoch_spec (recovered : RecoveredRunStateV1) (replayNodes : List RecoveryNodeV1)
    (world : World) :
    wp (announceEpoch env replayNodes)
      (fun finished next => match finished with
        | none => RunMoves env permits ⟨world, [], .announcing recovered replayNodes⟩
            ⟨next, [], .requeueing recovered.nodes⟩
        | some result => RunMoves env permits ⟨world, [], .announcing recovered replayNodes⟩
            ⟨next, [], .ended (.ok result)⟩)
      (fun error => Breaks env permits ⟨world, [], .announcing recovered replayNodes⟩ error)
      world := by
  unfold announceEpoch
  rw [wp_bind, wp_get, wp_bind]
  refine wp_mono (append_spec _ world) (fun recorded next append => ?_) (fun error next same => ?_)
  · cases recorded with
    | true =>
      have announced : RunMoves env permits ⟨world, [], .announcing recovered replayNodes⟩
          ⟨next, [], .authorizing recovered replayNodes⟩ := .single (.announced append)
      refine wp_mono (@authorizeReplays_spec env permits recovered replayNodes next)
        (fun finished final moves => ?_) (fun _ _ breaks => breaks.after announced)
      cases finished with
      | none => exact announced.trans moves
      | some result => exact announced.trans moves
    | false =>
      obtain ⟨rfl, _⟩ := append
      simp only [Bool.not_false, if_true]
      rw [wp_bind]
      refine wp_mono (finish_spec _ [] (.announcing recovered replayNodes) .runBudgetExhausted rfl)
        (fun _ _ moves => moves) ?_
      rintro error _ ⟨mode, moves⟩
      exact RunMoves.breaks error moves
  · subst same
    exact RunMoves.breaks error .refl

/-- The unfinished nodes are requeued in order, or the run ends at one that does not fit. -/
theorem enqueueRecoveredNodes_spec (nodes : List RecoveryNodeV1) (world : World) :
    wp (enqueueRecoveredNodes env nodes)
      (fun finished next => match finished with
        | none => RunMoves env permits ⟨world, [], .requeueing nodes⟩ ⟨next, [], .requeueing []⟩
        | some result => RunMoves env permits ⟨world, [], .requeueing nodes⟩
            ⟨next, [], .ended (.ok result)⟩)
      (fun error => Breaks env permits ⟨world, [], .requeueing nodes⟩ error) world := by
  induction nodes generalizing world with
  | nil => exact .refl
  | cons recovered rest ih =>
    unfold enqueueRecoveredNodes
    split
    · rename_i closed
      have done : recovered.state ≠ .pending ∧ recovered.unresolved = false := by
        simpa using closed
      have passed : RunMoves env permits ⟨world, [], .requeueing (recovered :: rest)⟩
          ⟨world, [], .requeueing rest⟩ := .single (.passedOver done)
      refine wp_mono (ih world) (fun finished final moves => ?_)
        (fun _ _ breaks => breaks.after passed)
      cases finished with
      | none => exact passed.trans moves
      | some result => exact passed.trans moves
    · rename_i unfinished
      have open_ : recovered.state = .pending ∨ recovered.unresolved = true := by
        by_cases pending : recovered.state = .pending
        · exact .inl pending
        · cases unresolved : recovered.unresolved with
          | true => exact .inr rfl
          | false => simp [pending, unresolved] at unfinished
      rw [wp_bind]
      refine wp_mono (enqueueFrontier_spec recovered.node world) (fun enqueued next enqueues => ?_)
        (fun _ _ => False.elim)
      cases enqueued with
      | true =>
        obtain ⟨frontier, fits, rfl⟩ := enqueues
        have requeued : RunMoves env permits ⟨world, [], .requeueing (recovered :: rest)⟩
            ⟨{ world with frontier }, [], .requeueing rest⟩ := .single (.requeued open_ fits)
        refine wp_mono (ih _) (fun finished final moves => ?_)
          (fun _ _ breaks => breaks.after requeued)
        cases finished with
        | none => exact requeued.trans moves
        | some result => exact requeued.trans moves
      | false =>
        obtain ⟨rfl, _⟩ := enqueues
        simp only [Bool.not_false, if_true]
        rw [wp_bind]
        refine wp_mono (finish_spec _ [] (.requeueing (recovered :: rest)) .runBudgetExhausted rfl)
          (fun _ _ moves => moves) ?_
        rintro error _ ⟨mode, moves⟩
        exact RunMoves.breaks error moves

theorem requeueRun_spec (recovered : RecoveredRunStateV1) (world : World) :
    wp (requeueRun env recovered)
      (fun flow next => match flow with
        | .batch chains => RunMoves env permits ⟨world, [], .requeueing recovered.nodes⟩
            ⟨next, activeSlots chains, .serving⟩
        | .result result => Ends env permits ⟨world, [], .requeueing recovered.nodes⟩ result next)
      (fun error => Breaks env permits ⟨world, [], .requeueing recovered.nodes⟩ error) world := by
  unfold requeueRun
  rw [wp_bind]
  refine wp_mono (@enqueueRecoveredNodes_spec env permits recovered.nodes world)
    (fun finished enqueued enqueues => ?_) (fun _ _ breaks => breaks)
  cases finished with
  | some result => exact ⟨[], enqueues⟩
  | none =>
    have served := enqueues.tail (.served (.inr rfl))
    refine wp_mono (executeFrontier_spec enqueued) (fun flow next ends => ?_)
      (fun _ _ breaks => breaks.after served)
    cases flow with
    | batch chains => exact served.trans ends
    | result result => exact Ends.after served ends

/-- A resumed run goes on to its first calls, or it ends before them. -/
theorem relaunchRun_spec (recovered : RecoveredRunStateV1) (replayNodes : List RecoveryNodeV1)
    (aborted : Option RunCancellationSourceV1) (items : List JsonValueV1) (world : World)
    (read : readCommittedRunItems world.disk = .ok items) :
    wp (relaunchRun env recovered replayNodes aborted items)
      (fun flow next => match flow with
        | .batch chains => RunMoves env permits ⟨world, [], .reopening recovered replayNodes⟩
            ⟨next, activeSlots chains, .serving⟩
        | .result result =>
          Ends env permits ⟨world, [], .reopening recovered replayNodes⟩ result next)
      (fun error => Breaks env permits ⟨world, [], .reopening recovered replayNodes⟩ error)
      world := by
  unfold relaunchRun
  rw [wp_bind]
  refine wp_mono (@tryOpenSink_spec env permits (.reopening recovered replayNodes) items world
    (.inr ⟨recovered, replayNodes, rfl⟩) (fun launching => by obtain ⟨_, same⟩ := launching; cases same)
    (fun _ => read)) (fun finished opened opens => ?_) (fun _ _ breaks => breaks)
  cases finished with
  | some result => exact ⟨[], opens⟩
  | none =>
    have taken := opens.tail .epochTaken
    dsimp only
    rw [modifyState, wp_bind, wp_modify, wp_bind]
    refine wp_mono (@cancelOnStart_spec env permits aborted (.announcing recovered replayNodes) _)
      (fun _ listening cancels => ?_) (fun error next same => ?_)
    · have reached := taken.trans cancels
      rw [wp_bind, wp_get]
      split
      · rw [wp_bind]
        refine wp_mono (finish_spec listening [] (.announcing recovered replayNodes) .cancelled rfl)
          (fun _ _ moves => ⟨[], reached.trans moves⟩) ?_
        rintro error _ ⟨mode, moves⟩
        exact RunMoves.breaks error (reached.trans moves)
      · rw [wp_bind]
        refine wp_mono (@announceEpoch_spec env permits recovered replayNodes listening)
          (fun finished announced announces => ?_) (fun _ _ breaks => breaks.after reached)
        cases finished with
        | some result => exact ⟨[], reached.trans announces⟩
        | none =>
          have spoken := reached.trans announces
          refine wp_mono (@requeueRun_spec env permits recovered announced) (fun flow next ends => ?_)
            (fun _ _ breaks => breaks.after spoken)
          cases flow with
          | batch chains => exact spoken.trans ends
          | result result => exact Ends.after spoken ends
    · subst same
      exact RunMoves.breaks error taken

/-- What a resume has read before it writes anything. -/
structure ResumePlanV1.Read (env : RunEnvironment) (disk : Disk) (plan : ResumePlanV1) : Prop where
  recovers : recoverRunState env disk = .ok plan.recovered
  replays : resolveSafeReadReplayNodes env plan.recovered = .ok plan.replayNodes
  allowed : resumeAllowed plan.recovered plan.replayNodes = true
  truncated : plan.disk = truncateSpool disk plan.recovered.spoolPrefix
  rehydrates : ∃ state, rehydrateExecutionState env plan.disk = .ok state ∧
    plan.state = state.withRecoveredNodes plan.recovered.nodes
  commits : readCommittedRunItems plan.disk = .ok plan.committedItems

theorem planResume_reads {disk : Disk} {plan : ResumePlanV1}
    (plans : planResume env disk = .ok plan) : plan.Read env disk := by
  unfold planResume at plans
  cases recovers : recoverRunState env disk with
  | error error => rw [recovers] at plans; cases plans
  | ok recovered =>
    simp only [recovers, bind, Except.bind] at plans
    cases replays : resolveSafeReadReplayNodes env recovered with
    | error error => rw [replays] at plans; cases plans
    | ok replayNodes =>
      simp only [replays] at plans
      cases allowed : resumeAllowed recovered replayNodes with
      | false => rw [allowed] at plans; cases plans
      | true =>
        simp only [allowed, Bool.not_true, Bool.false_eq_true, if_false] at plans
        cases rehydrates : rehydrateExecutionState env
          (truncateSpool disk recovered.spoolPrefix) with
        | error error => rw [rehydrates] at plans; cases plans
        | ok state =>
          simp only [rehydrates] at plans
          cases commits : readCommittedRunItems (truncateSpool disk recovered.spoolPrefix) with
          | error error => rw [commits] at plans; cases plans
          | ok items =>
            simp only [commits] at plans
            cases plans
            exact ⟨recovers, replays, allowed, rfl, ⟨state, rehydrates, rfl⟩, commits⟩

/-- The world a resumed run goes on in. -/
def ResumePlanV1.world (env : RunEnvironment) (plan : ResumePlanV1) (clock : List Bool)
    (linkSucceeds : Bool) : World :=
  openWorld env plan.disk plan.state clock linkSucceeds

theorem resume_moves {disk : Disk} {aborted : Option RunCancellationSourceV1} {clock : List Bool}
    {linkSucceeds : Bool} {execution : ExecutionV1}
    (resumes : resume env disk aborted clock linkSucceeds = .ok execution) :
    ∃ plan, planResume env disk = .ok plan ∧
      RunMoves env permits ⟨plan.world env clock linkSucceeds, [],
        .reopening plan.recovered plan.replayNodes⟩ execution.point := by
  unfold resume at resumes
  cases plans : planResume env disk with
  | error error => rw [plans] at resumes; cases resumes
  | ok plan =>
    rw [plans] at resumes
    cases resumes
    exact ⟨plan, rfl, afterFrontier_moves
      (relaunchRun_spec plan.recovered plan.replayNodes aborted plan.committedItems
        (plan.world env clock linkSucceeds) (planResume_reads plans).commits)⟩

end Klura
