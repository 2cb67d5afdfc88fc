import Klura.Moves.Journal
import Klura.Moves.Machine

/-! The whole life of a run: its steps, the crashes that cut them off and what follows a crash. -/

namespace Klura

open Program

variable {env : RunEnvironment} {permits : TurnPermissionV1}

/-- A run whose process lives, or the writes that its last process left behind. -/
inductive RunLifeV1 where
  | running (execution : ExecutionV1)
  | stored (disk : Disk)

/-- What a run has written so far. -/
def RunLifeV1.disk : RunLifeV1 → Disk
  | .running execution => execution.world.disk
  | .stored disk => disk

/-- What happens in the life of a run: a step of its process, a crash inside one, and the resumes
and startup recoveries of what was stored, which may crash as well. -/
inductive LifeEventV1 where
  | step (event : RunEventV1)
  | crash (event : RunEventV1)
  | resume (aborted : Option RunCancellationSourceV1) (clock : List Bool) (linkSucceeds : Bool)
  | resumeCrash (aborted : Option RunCancellationSourceV1) (clock : List Bool)
      (linkSucceeds : Bool)
  | startup (linkSucceeds : Bool)

/-- A crash keeps all that was written before the work it cuts off, and some of that work. -/
structure CutsOff (before after kept : Disk) : Prop where
  begins : before <:+ kept
  ends : kept <:+ after

/-- One step in the life of a run. -/
inductive LifeStep (env : RunEnvironment) : RunLifeV1 → LifeEventV1 → RunLifeV1 → Prop where
  | step {execution after event} (steps : execution.step env event = some after) :
      LifeStep env (.running execution) (.step event) (.running after)
  | crash {execution after event kept} (steps : execution.step env event = some after)
      (cuts : CutsOff execution.world.disk after.world.disk kept) :
      LifeStep env (.running execution) (.crash event) (.stored kept)
  | resume {disk aborted clock linkSucceeds execution}
      (resumes : resume env disk aborted clock linkSucceeds = .ok execution) :
      LifeStep env (.stored disk) (.resume aborted clock linkSucceeds) (.running execution)
  | resumeCrash {disk aborted clock linkSucceeds plan execution kept}
      (plans : planResume env disk = .ok plan)
      (resumes : resume env disk aborted clock linkSucceeds = .ok execution)
      (cuts : CutsOff plan.disk execution.world.disk kept) :
      LifeStep env (.stored disk) (.resumeCrash aborted clock linkSucceeds) (.stored kept)
  | startup {disk recovered linkSucceeds kept} (recovers : recoverRunState env disk = .ok recovered)
      (cuts : CutsOff (truncateSpool disk recovered.spoolPrefix)
        (startupRecovery env disk linkSucceeds) kept) :
      LifeStep env (.stored disk) (.startup linkSucceeds) (.stored kept)

/-- The life of a run, which begins when it is started, or with a crash before it was. -/
def lifeMachine (env : RunEnvironment) : Machine RunLifeV1 LifeEventV1 where
  starts life := ∃ roots aborted clock linkSucceeds execution,
    startDetached env roots aborted clock linkSucceeds = .ok execution ∧
      (life = .running execution ∨ ∃ kept, kept <:+ execution.world.disk ∧ life = .stored kept)
  step := LifeStep env

theorem life_run {started execution : ExecutionV1} {events : List RunEventV1}
    (ran : started.run env events = some execution)
    (reached : (lifeMachine env).Reaches (fun _ _ => True) (.running started)) :
    (lifeMachine env).Reaches (fun _ _ => True) (.running execution) := by
  induction events generalizing started with
  | nil => cases ran; exact reached
  | cons event rest ih =>
    simp only [ExecutionV1.run, Option.bind_eq_some_iff] at ran
    obtain ⟨next, steps, ran⟩ := ran
    exact ih ran (.next reached trivial (.step steps))

/-! What moves write, and where a crash may cut them off. -/

variable {event : JournalEventV1} {world next : World}

theorem Recorded.write (recorded : Recorded env event world next) :
    ∃ frame, frame.body.event = event ∧ next.disk = .frame frame :: world.disk := by
  obtain ⟨_, frame, appends, rfl⟩ := recorded
  have carries := (appendJournalFrame_passes _ _ _ _ _ frame appends).carries
  exact ⟨frame, by rw [carries]; rfl, rfl⟩

theorem RecordedEmergency.write (recorded : RecordedEmergency env event world next) :
    ∃ frame, frame.body.event = event ∧ next.disk = .frame frame :: world.disk := by
  obtain ⟨frame, appends, rfl⟩ := recorded
  have carries := (appendEmergencyJournalFrame_passes _ _ _ _ frame appends).carries
  exact ⟨frame, by rw [carries]; rfl, rfl⟩

/-- At most one write was made. -/
def WritesOnce (before after : Disk) : Prop :=
  after = before ∨ ∃ write, after = write :: before

theorem Recorded.once (recorded : Recorded env event world next) :
    WritesOnce world.disk next.disk := by
  obtain ⟨frame, _, writes⟩ := recorded.write
  exact .inr ⟨_, writes⟩

theorem RecordedEmergency.once (recorded : RecordedEmergency env event world next) :
    WritesOnce world.disk next.disk := by
  obtain ⟨frame, _, writes⟩ := recorded.write
  exact .inr ⟨_, writes⟩

theorem Quiet.disk (quiet : Quiet world next) : next.disk = world.disk := by
  obtain ⟨_, _, _, _, _, rfl⟩ := quiet
  rfl

theorem World.left_disk (world : World) (chain : TaskChainV1) (outcome : ChainOutcomeV1) :
    (world.left chain outcome).disk = world.disk := by
  unfold World.left
  split <;> rfl

variable {entry : BatchEntryV1}

theorem ChainMove.once {stage after : StageV1}
    (moves : ChainMove env entry permits (world, stage) (next, after)) :
    WritesOnce world.disk next.disk := by
  cases moves with
  | quiet quiet => exact .inl quiet.disk
  | intended may recorded => exact recorded.once
  | observed recorded => exact recorded.once
  | spooled live emits data may => exact .inr ⟨_, rfl⟩
  | buffered recorded => exact recorded.once
  | completed recorded => exact recorded.once
  | duplicated known recorded => exact recorded.once
  | committed fresh room capacity recorded => exact recorded.once
  | sunk holds recorded => exact recorded.once
  | continued fresh canonical next room => exact .inr ⟨_, rfl⟩
  | progressed recorded => exact recorded.once
  | limitless recorded => exact recorded.once
  | explained may recorded => exact recorded.once
  | left releases => exact .inl (World.left_disk _ _ _)
  | stranded holds => exact .inl (World.left_disk _ _ _)
  | _ => exact .inl rfl

variable {before after : RunPointV1}

theorem RunMove.once (moves : RunMove env permits before after) :
    WritesOnce before.world.disk after.world.disk := by
  cases moves with
  | chain moves => exact moves.once
  | quiet quiet => exact .inl quiet.disk
  | cancelled unasked open_ recorded => exact recorded.once
  | rooted room => exact .inr ⟨_, rfl⟩
  | created recorded => exact recorded.once
  | announced recorded => exact recorded.once
  | authorized recorded => exact recorded.once
  | skipped recorded => exact recorded.once
  | expanded expands =>
    obtain ⟨ordinal, _, rfl⟩ := expanded_numbered expands
    exact .inl rfl
  | spooled unknown fits room => exact .inr ⟨_, rfl⟩
  | enqueued recorded fits => exact recorded.once
  | completed recorded => exact recorded.once
  | explained recorded => exact recorded.once
  | prepared holds names recorded => exact recorded.once
  | published recorded => exact recorded.once
  | terminated recorded => exact recorded.once
  | publishedTerminal recorded => exact recorded.once
  | _ => exact .inl rfl

variable {kept : Disk}

/-- What a crash keeps of steps that write at most once is what some point on the way had
written. -/
theorem writes_cut {α : Type} {step : α → α → Prop} (disk : α → Disk)
    (once : ∀ before after, step before after → WritesOnce (disk before) (disk after))
    {before after : α} (moves : Relation.ReflTransGen step before after)
    (cuts : CutsOff (disk before) (disk after) kept) :
    ∃ point, Relation.ReflTransGen step before point ∧ disk point = kept := by
  -- The induction gives up the last step until its write is one that was kept.
  induction moves with
  | refl =>
    have same : disk before = kept := cuts.begins.eq_of_length (Nat.le_antisymm
      cuts.begins.length_le cuts.ends.length_le)
    exact ⟨before, .refl, same⟩
  | @tail middle last reached step ih =>
    rcases once _ _ step with same | ⟨write, writes⟩
    · exact ih ⟨cuts.begins, same ▸ cuts.ends⟩
    · have ends := cuts.ends
      rw [writes] at ends
      rcases List.suffix_cons_iff.mp ends with whole | shorter
      · exact ⟨last, reached.tail step, by rw [whole, writes]⟩
      · exact ih ⟨cuts.begins, shorter⟩

theorem RunMoves.cut (moves : RunMoves env permits before after)
    (cuts : CutsOff before.world.disk after.world.disk kept) :
    ∃ point, RunMoves env permits before point ∧ point.world.disk = kept :=
  writes_cut (fun point : RunPointV1 => point.world.disk) (fun _ _ moves => moves.once) moves cuts

theorem ChainMoves.cut {before after : ChainPoint}
    (moves : ChainMoves env entry permits before after)
    (cuts : CutsOff before.1.disk after.1.disk kept) :
    ∃ point, ChainMoves env entry permits before point ∧ point.1.disk = kept :=
  writes_cut (fun point : ChainPoint => point.1.disk) (fun _ _ moves => moves.once) moves cuts

/-! What startup recovery writes. -/

/-- The events that startup recovery ends a recovered run with, which no frame ends yet. Only a
prepared result is ever recorded as the outcome of the run, and only a run without one is marked
interrupted. -/
def JournalEventV1.closes (recovered : RecoveredRunStateV1) (event : JournalEventV1) : Prop :=
  recovered.terminal = false ∧
    match event with
    | .interrupted _ => recovered.outputFinalization = none
    | .outputCommitted .. => True
    | .outputPrepared _ _ _ descriptor _ =>
      recovered.outputFinalization = none ∧ descriptor.resultKind ≠ .scrapeOutcome
    | .terminal descriptor _ => descriptor.resultKind ≠ .scrapeOutcome ∨
      ∃ prepared, recovered.outputFinalization = some prepared ∧
        descriptor = prepared.terminalDescriptor
    | _ => False

/-- A disk with more frames that end its run. -/
abbrev ClosingWrites (recovered : RecoveredRunStateV1) : Disk → Disk → Prop :=
  Relation.ReflTransGen fun disk next => ∃ frame : JournalFrameV1,
    frame.body.event.closes recovered ∧ next = .frame frame :: disk

variable {recovered : RecoveredRunStateV1}

/-- A world whose disk has only gained frames that end its run. -/
def Closes (recovered : RecoveredRunStateV1) (world next : World) : Prop :=
  ClosingWrites recovered world.disk next.disk

instance : Std.Refl (Closes recovered) := ⟨fun _ => .refl⟩

instance : IsTrans World (Closes recovered) := ⟨fun _ _ _ first second => first.trans second⟩

/-- A relation of worlds that ending a run stays inside. -/
structure KeptByEnding (env : RunEnvironment) (recovered : RecoveredRunStateV1)
    (relation : World → World → Prop) : Prop where
  still : ∀ world next, next.disk = world.disk → next.cursor = world.cursor → relation world next
  records : ∀ event world next, event.closes recovered →
    RecordedEmergency env event world next → relation world next

theorem closes_kept : KeptByEnding env recovered (Closes recovered) where
  still := fun world next same _ => by
    unfold Closes
    rw [same]
  records := fun event world next closing recorded => by
    obtain ⟨frame, carries, writes⟩ := recorded.write
    exact .single ⟨frame, by rw [carries]; exact closing, writes⟩

section Ending

variable {relation : World → World → Prop}

theorem modify_ends (within : KeptByEnding env recovered relation) {update : World → World}
    (disk : ∀ world, (update world).disk = world.disk)
    (cursor : ∀ world, (update world).cursor = world.cursor) :
    Moves relation (modify update : RunProgram PUnit) :=
  Moves.modify fun world => within.still _ _ (disk world) (cursor world)

variable [Std.Refl relation]

theorem appendEmergency_ends (within : KeptByEnding env recovered relation)
    (closing : event.closes recovered) : Moves relation (appendEmergency env event) := by
  intro world
  refine wp_mono (@appendEmergency_spec env event world) ?_ ?_
  · intro _ next recorded
    exact within.records event world next closing recorded
  · intro _ _ same
    rw [same]
    exact refl_of relation world

theorem orThrow_ends {α : Type} (check : Except RunError α) : Moves relation (orThrow check) := by
  cases check with
  | ok value => exact Moves.pure value
  | error error => exact Moves.throw error

theorem commitPrepared_ends (within : KeptByEnding env recovered relation) :
    Moves relation commitPrepared := by
  refine Moves.read fun world => ?_
  split
  · exact Moves.pure _ world
  · split
    · exact Moves.throw _ world
    · rw [wp_bind, wp_set]
      split
      · exact within.still _ _ rfl rfl
      · exact within.still _ _ rfl rfl

theorem completePrepared_ends (within : KeptByEnding env recovered relation) :
    Moves relation completePrepared := by
  refine Moves.read fun world => ?_
  split
  · exact Moves.pure _ world
  · split
    · exact Moves.throw _ world
    · exact within.still _ _ rfl rfl

variable [IsTrans World relation] {descriptor : TerminalResultDescriptorV1}

theorem publishFileOutput_ends (within : KeptByEnding env recovered relation)
    (running : recovered.terminal = false) (unprepared : recovered.outputFinalization = none)
    (incomplete : descriptor.resultKind ≠ .scrapeOutcome) :
    Moves relation (publishFileOutput env descriptor) := by
  refine Moves.read fun world => ?_
  split
  · exact Moves.pure _ world
  · split
    · refine Moves.ite (Moves.throw _) (Moves.ite (Moves.throw _) ?_) world
      refine Moves.bind (orThrow_ends _) fun digest => ?_
      refine Moves.bind (appendEmergency_ends within ⟨running, unprepared, incomplete⟩) fun _ => ?_
      refine Moves.bind ?_ fun _ => appendEmergency_ends within ⟨running, trivial⟩
      refine Moves.tryCatch (commitPrepared_ends within) fun error => ?_
      refine Moves.ite (Moves.throw _) ?_
      exact Moves.tryCatch (completePrepared_ends within) fun _ => Moves.throw _
    · exact Moves.throw _ world

theorem appendTerminal_ends (within : KeptByEnding env recovered relation)
    (running : recovered.terminal = false)
    (incomplete : descriptor.resultKind ≠ .scrapeOutcome) :
    Moves relation (appendTerminal env descriptor) :=
  Moves.bind (orThrow_ends _) fun _ => appendEmergency_ends within ⟨running, .inl incomplete⟩

theorem openSink_ends (within : KeptByEnding env recovered relation) (items : List JsonValueV1) :
    Moves relation (openSink env items) :=
  Moves.bind (orThrow_ends _) fun _ => modify_ends within (fun _ => rfl) fun _ => rfl

theorem completeCancelledRun_ends (within : KeptByEnding env recovered relation)
    (running : recovered.terminal = false) (unprepared : recovered.outputFinalization = none)
    (items : List JsonValueV1) : Moves relation (completeCancelledRun env items) := by
  refine Moves.read fun world => ?_
  have incomplete : (if 0 < world.state.summary.itemsEmitted then RunResultKindV1.scrapePartial
      else .scrapeFailure) ≠ .scrapeOutcome := by
    split <;> nofun
  have incompletely : RunResultKindV1.scrapePartial ≠ .scrapeOutcome := by decide
  refine Moves.ite (appendTerminal_ends within running incomplete) ?_ world
  refine Moves.tryCatch ?_ fun error => ?_
  · refine Moves.bind (openSink_ends within items) fun _ => Moves.read fun opened => ?_
    exact Moves.bind (publishFileOutput_ends within running unprepared incompletely)
      (fun _ => appendTerminal_ends within running incompletely) opened
  · refine Moves.ite (Moves.throw _) ?_
    exact Moves.bind (modify_ends within (fun _ => rfl) fun _ => rfl)
      fun _ => appendTerminal_ends within running incompletely

theorem completePreparedOutput_ends (within : KeptByEnding env recovered relation)
    {prepared : OutputFinalizationV1} (running : recovered.terminal = false)
    (held : recovered.outputFinalization = some prepared) :
    Moves relation (completePreparedOutput env prepared) := by
  have terminal : Moves relation (appendEmergency env
      (.terminal prepared.terminalDescriptor prepared.terminalDescriptorDigest)) :=
    appendEmergency_ends within ⟨running, .inr ⟨prepared, held, rfl⟩⟩
  refine Moves.ite ?_ ?_
  · exact Moves.bind (appendEmergency_ends within ⟨running, trivial⟩) fun _ => terminal
  · exact terminal

theorem interruptUnfinishedRun_ends (within : KeptByEnding env recovered relation)
    (items : List JsonValueV1) : Moves relation (interruptUnfinishedRun env recovered items) := by
  unfold interruptUnfinishedRun
  split
  · exact Moves.pure _
  · rename_i running
    have running : recovered.terminal = false := Bool.eq_false_of_not_eq_true running
    split
    · rename_i prepared held
      exact completePreparedOutput_ends within running held
    · rename_i unprepared
      refine Moves.ite (completeCancelledRun_ends within running unprepared items) ?_
      exact Moves.ite (Moves.pure _) (appendEmergency_ends within ⟨running, unprepared⟩)

theorem startupRecovery_ends {disk : Disk} (within : KeptByEnding env recovered relation)
    (linkSucceeds : Bool) (recovers : recoverRunState env disk = .ok recovered) :
    startupRecovery env disk linkSucceeds = truncateSpool disk recovered.spoolPrefix ∨
      ∃ next, relation (openWorld env (truncateSpool disk recovered.spoolPrefix)
        (recoveryState env recovered) [] linkSucceeds) next ∧
          startupRecovery env disk linkSucceeds = next.disk := by
  unfold startupRecovery
  rw [recovers]
  dsimp only
  cases reads : readCommittedRunItems (truncateSpool disk recovered.spoolPrefix) with
  | error error => exact .inl rfl
  | ok items =>
    refine .inr ⟨_, ?_, rfl⟩
    have ends := wp_runProgram (interruptUnfinishedRun_ends within items
      (openWorld env (truncateSpool disk recovered.spoolPrefix) (recoveryState env recovered) []
        linkSucceeds))
    cases ran : runProgram (interruptUnfinishedRun env recovered items)
      (openWorld env (truncateSpool disk recovered.spoolPrefix) (recoveryState env recovered) []
        linkSucceeds) with
    | mk outcome next =>
      rw [ran] at ends
      cases outcome with
      | ok value => exact ends
      | error error => exact ends

end Ending

theorem startupRecovery_closes {disk : Disk} {recovered : RecoveredRunStateV1}
    (linkSucceeds : Bool) (recovers : recoverRunState env disk = .ok recovered) :
    ClosingWrites recovered (truncateSpool disk recovered.spoolPrefix)
      (startupRecovery env disk linkSucceeds) := by
  rcases startupRecovery_ends closes_kept linkSucceeds recovers with same | ⟨next, ends, same⟩
  · rw [same]
  · rw [same]
    exact ends

theorem ClosingWrites.cut {before after : Disk} (writes : ClosingWrites recovered before after)
    (cuts : CutsOff before after kept) :
    ClosingWrites recovered before kept := by
  have once (disk next : Disk) (step : ∃ frame : JournalFrameV1,
      frame.body.event.closes recovered ∧ next = .frame frame :: disk) :
      WritesOnce disk next := by
    obtain ⟨frame, _, writes⟩ := step
    exact .inr ⟨_, writes⟩
  obtain ⟨point, reaches, rfl⟩ := writes_cut id once writes cuts
  exact reaches

/-! What holds over a whole life. -/

/-- What is shown of the starts, the steps and the resumes of a run, and of what a crash keeps of
each, so that it holds over the run's whole life. -/
structure LifeInvariant (env : RunEnvironment) (allowed : ExecutionV1 → RunEventV1 → Prop)
    (stored : Disk → Prop) (holds : ExecutionV1 → Prop) : Prop where
  starts : ∀ roots aborted clock linkSucceeds execution,
    startDetached env roots aborted clock linkSucceeds = .ok execution →
    holds execution ∧ ∀ kept, kept <:+ execution.world.disk → stored kept
  steps : ∀ execution event after, holds execution → allowed execution event →
    execution.step env event = some after →
    holds after ∧ ∀ kept, CutsOff execution.world.disk after.world.disk kept → stored kept
  resumes : ∀ disk plan aborted clock linkSucceeds execution, stored disk →
    planResume env disk = .ok plan → resume env disk aborted clock linkSucceeds = .ok execution →
    holds execution ∧ ∀ kept, CutsOff plan.disk execution.world.disk kept → stored kept
  closes : ∀ disk recovered kept, stored disk → recoverRunState env disk = .ok recovered →
    ClosingWrites recovered (truncateSpool disk recovered.spoolPrefix) kept →
    stored kept

/-- What a life keeps of a running execution, or of what one has stored. -/
def RunLifeV1.Keeps (stored : Disk → Prop) (holds : ExecutionV1 → Prop) : RunLifeV1 → Prop
  | .running execution => holds execution
  | .stored disk => stored disk

/-- The condition on a life's steps that a condition on the steps of its executions is. -/
def LifeAllows (allowed : ExecutionV1 → RunEventV1 → Prop) : RunLifeV1 → LifeEventV1 → Prop
  | .running execution, .step event | .running execution, .crash event => allowed execution event
  | _, _ => True

variable {allowed : ExecutionV1 → RunEventV1 → Prop} {stored : Disk → Prop}

theorem LifeInvariant.reached {holds : ExecutionV1 → Prop}
    (invariant : LifeInvariant env allowed stored holds) {life : RunLifeV1}
    (reached : (lifeMachine env).Reaches (LifeAllows allowed) life) : life.Keeps stored holds := by
  refine reached.invariant ?_ ?_
  · intro life begun
    obtain ⟨roots, aborted, clock, linkSucceeds, execution, starts, how⟩ := begun
    obtain ⟨held, crashed⟩ := invariant.starts _ _ _ _ _ starts
    rcases how with rfl | ⟨kept, ends, rfl⟩
    · exact held
    · exact crashed kept ends
  · intro life event after allows steps kept
    cases steps with
    | step steps => exact (invariant.steps _ _ _ kept allows steps).1
    | crash steps cuts => exact (invariant.steps _ _ _ kept allows steps).2 _ cuts
    | resume resumes =>
      obtain ⟨plan, plans, _⟩ := @resume_moves env ⟨False, False, fun _ => False⟩ _ _ _ _ _ resumes
      exact (invariant.resumes _ plan _ _ _ _ kept plans resumes).1
    | resumeCrash plans resumes cuts =>
      exact (invariant.resumes _ _ _ _ _ _ kept plans resumes).2 _ cuts
    | startup recovers cuts =>
      exact invariant.closes _ _ _ kept recovers ((startupRecovery_closes _ recovers).cut cuts)

/-- What is shown of every elementary move of a run whose steps have these permissions. -/
structure MoveInvariant (env : RunEnvironment) (permitted : TurnPermissionV1 → Prop)
    (stored : Disk → Prop) (holds : RunPointV1 → Prop) : Prop where
  disk : ∀ point, holds point → stored point.world.disk
  starts : ∀ roots clock linkSucceeds, holds ⟨creationWorld env roots clock linkSucceeds, [],
    .creating (initialNodesFrom env 0 roots) (initialNodesFrom env 0 roots) []⟩
  resumes : ∀ disk plan clock linkSucceeds, stored disk → planResume env disk = .ok plan →
    holds ⟨plan.world env clock linkSucceeds, [], .reopening plan.recovered plan.replayNodes⟩
  keeps : ∀ permits, permitted permits → Keeps (RunMove env permits) holds
  closes : ∀ disk recovered kept, stored disk → recoverRunState env disk = .ok recovered →
    ClosingWrites recovered (truncateSpool disk recovered.spoolPrefix) kept →
    stored kept

variable {permitted : TurnPermissionV1 → Prop} {holds : RunPointV1 → Prop}

theorem MoveInvariant.along (invariant : MoveInvariant env permitted stored holds)
    (allows : permitted permits) {start point : RunPointV1}
    (moves : RunMoves env permits start point) (first : holds start) :
    holds point ∧ ∀ kept, CutsOff start.world.disk point.world.disk kept → stored kept := by
  refine ⟨(invariant.keeps permits allows).many moves first, fun kept cuts => ?_⟩
  obtain ⟨between, reaches, rfl⟩ := moves.cut cuts
  exact invariant.disk between ((invariant.keeps permits allows).many reaches first)

/-- What no chain is permitted to do while a run begins. -/
def TurnPermissionV1.none : TurnPermissionV1 :=
  { early := False, asks := False, turns := fun _ => False }

theorem MoveInvariant.life (invariant : MoveInvariant env permitted stored holds)
    (begins : permitted .none)
    (permits : ∀ execution event, allowed execution event →
      permitted (execution.permission env event)) :
    LifeInvariant env allowed stored fun execution => holds execution.point where
  starts := fun roots aborted clock linkSucceeds execution starts => by
    have along := invariant.along begins (startDetached_moves starts)
      (invariant.starts roots clock linkSucceeds)
    exact ⟨along.1, fun kept ends => along.2 kept ⟨List.nil_suffix, ends⟩⟩
  steps := fun execution event after held allows steps =>
    invariant.along (permits execution event allows) (step_moves steps) held
  resumes := fun disk plan aborted clock linkSucceeds execution kept plans resumes => by
    obtain ⟨other, planned, moves⟩ := @resume_moves env .none disk aborted clock linkSucceeds
      execution resumes
    rw [plans] at planned
    cases planned
    exact invariant.along begins moves (invariant.resumes disk plan clock linkSucceeds kept plans)
  closes := invariant.closes

end Klura
