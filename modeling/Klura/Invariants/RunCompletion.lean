import Klura.Invariants.ChainEnds
import Klura.Moves.Life
import Klura.Moves.Nodes
import Klura.Moves.Service
import Klura.Run.Listing

/-! Success means complete: what a run has done with its nodes once its result says it succeeded. -/

namespace Klura

open Program

variable {env : RunEnvironment} {permits : TurnPermissionV1}

/-! What the frontier does with the nodes it holds. -/

theorem FrontierV1.enqueue_nodes {frontier next : FrontierV1} {node : ScrapeNodeV1}
    (fits : frontier.enqueue node = some next) : next.nodes = frontier.nodes ++ [node] := by
  unfold enqueue at fits
  split at fits
  · cases fits
  · cases fits
    rfl

theorem FrontierV1.dequeue_nodes {frontier next : FrontierV1} {node : ScrapeNodeV1}
    (found : frontier.dequeue = some (node, next)) : frontier.nodes = node :: next.nodes := by
  unfold dequeue at found
  cases held : frontier.nodes with
  | nil => simp [held] at found
  | cons first rest =>
    simp only [held, Option.some.injEq, Prod.mk.injEq] at found
    obtain ⟨rfl, rfl⟩ := found
    rfl

/-- Whether a mode comes before the service dispatches its first node. -/
def RunModeV1.begins : RunModeV1 → Bool
  | .launching _ | .reopening .. | .announcing .. | .authorizing .. | .requeueing _ => true
  | _ => false

/-- Whether a run in this mode may still create nodes. -/
def RunModeV1.creates : RunModeV1 → Bool
  | .creating .. => true
  | _ => false

/-- Whether a run in this mode goes on with its nodes. -/
def RunModeV1.goesOn (mode : RunModeV1) : Bool :=
  match mode with
  | .serving => true
  | mode => mode.begins

/-! Which nodes a run still owes. -/

/-- The identifiers of the recovered nodes that are not done with. -/
def openNodeIds (nodes : List RecoveryNodeV1) : List RunNodeIdV1 :=
  (nodes.filter fun recovered => !recovered.done).map fun recovered => recovered.node.nodeId

/-- The nodes that a mode still has to put into the frontier. -/
def RunModeV1.waiting : RunModeV1 → List RunNodeIdV1
  | .launching nodes => nodes.map fun node => node.nodeId
  | .reopening recovered _ | .announcing recovered _ | .authorizing recovered _ =>
    openNodeIds recovered.nodes
  | .requeueing nodes => openNodeIds nodes
  | _ => []

/-- The nodes that a run has not finished its work on. -/
def RunPointV1.owed (point : RunPointV1) : List RunNodeIdV1 :=
  point.mode.waiting ++ (point.world.frontier.nodes.map fun node => node.nodeId) ++
    point.slots.map fun slot => slot.1.node.nodeId

/-- A run that goes on owes every node that it has made known and not closed. -/
structure OwesOpenNodes (point : RunPointV1) : Prop where
  fresh : point.mode.creates = true → ∀ node, ¬ Created point.world.disk node
  alone : point.mode.begins = true → point.slots = []
  owed : point.mode.goesOn = true → ∀ node, Created point.world.disk node →
    Closed point.world.disk.frames node.nodeId ∨ node.nodeId ∈ point.owed

namespace OwesOpenNodes

variable {before after : RunPointV1}

theorem idle (goesOn : after.mode.goesOn = false) (creates : after.mode.creates = false) :
    OwesOpenNodes after := by
  have waits : after.mode.begins = false := by
    cases mode : after.mode <;> simp_all [RunModeV1.goesOn, RunModeV1.begins]
  refine ⟨fun fresh => ?_, fun begins => ?_, fun works => ?_⟩
  · rw [creates] at fresh
    cases fresh
  · rw [waits] at begins
    cases begins
  · rw [goesOn] at works
    cases works

theorem carry (owes : OwesOpenNodes before)
    (same : SameNodes before.world.disk after.world.disk)
    (creates : after.mode.creates = true → before.mode.creates = true)
    (goesOn : after.mode.goesOn = true → before.mode.goesOn = true)
    (alone : after.mode.begins = true → after.slots = [])
    (covers : before.owed ⊆ after.owed) : OwesOpenNodes after := by
  refine ⟨fun fresh node created => ?_, alone, fun works node created => ?_⟩
  · exact owes.fresh (creates fresh) node ((same.created node).mp created)
  · rcases owes.owed (goesOn works) node ((same.created node).mp created) with closed | open_
    · exact .inl ((same.closed node.nodeId).mpr closed)
    · exact .inr (covers open_)

theorem stay (owes : OwesOpenNodes before)
    (same : SameNodes before.world.disk after.world.disk) (mode : after.mode = before.mode)
    (frontier : after.world.frontier = before.world.frontier)
    (slots : (after.slots.map fun slot => slot.1) = before.slots.map fun slot => slot.1) :
    OwesOpenNodes after := by
  have empty : before.slots = [] → after.slots = [] := by
    intro none
    simpa [none] using slots
  have ids : (after.slots.map fun slot => slot.1.node.nodeId) =
      before.slots.map fun slot => slot.1.node.nodeId := by
    have mapped := congrArg (List.map fun entry => entry.node.nodeId) slots
    simpa only [List.map_map, Function.comp_def] using mapped
  apply owes.carry same
  · intro creates
    rw [← mode]
    exact creates
  · intro goesOn
    rw [← mode]
    exact goesOn
  · intro begins
    rw [mode] at begins
    exact empty (owes.alone begins)
  · unfold RunPointV1.owed
    rw [mode, frontier, ids]
    exact List.Subset.refl _

theorem close {world next : World} {event : JournalEventV1} {entry : BatchEntryV1} {slot : SlotV1}
    {slots : List (BatchEntryV1 × SlotV1)} {state : ExecutionStateV1}
    (owes : OwesOpenNodes ⟨world, (entry, slot) :: slots, .serving⟩)
    (recorded : Recorded env event world next) (creates : event.nodeReferences = [])
    (closes : event.closedNode = some entry.node.nodeId)
    (frontier : next.frontier = world.frontier) :
    OwesOpenNodes ⟨{ next with state }, slots, .serving⟩ := by
  obtain ⟨frame, carries, writes⟩ := recorded.write
  refine ⟨by nofun, by nofun, fun _ node created => ?_⟩
  have earlier : Created world.disk node := by
    rw [writes, Created.framed, carries] at created
    rcases created with creation | earlier
    · obtain ⟨reference, refers, _⟩ := creation
      rw [creates] at refers
      exact absurd refers List.not_mem_nil
    · exact earlier
  have closed : Closed next.disk.frames node.nodeId ↔
      some entry.node.nodeId = some node.nodeId ∨ Closed world.disk.frames node.nodeId := by
    rw [writes, ← closes, ← carries]
    exact Closed.framed
  simp only [RunPointV1.owed, RunModeV1.waiting, closed, frontier, List.mem_append]
  rcases owes.owed rfl node earlier with before | owed
  · exact .inl (.inr before)
  · simp only [RunPointV1.owed, RunModeV1.waiting, List.mem_append, List.map_cons,
      List.mem_cons] at owed
    rcases owed with inside | named | inside
    · exact .inr (.inl inside)
    · exact .inl (.inl (congrArg some named.symm))
    · exact .inr (.inr inside)

end OwesOpenNodes

/-- A move of a run keeps it owing its open nodes. -/
theorem owesOpenNodes_kept {before after : RunPointV1} (moves : RunMove env permits before after)
    (spool : SpoolPoint env before) (owes : OwesOpenNodes before) : OwesOpenNodes after := by
  have sound := spool.sound
  cases moves with
  | @chain world next left right mode entry stage after moves =>
    exact owes.stay (moves.worksOn.sameNodes sound) rfl moves.service.frontier (by simp)
  | quiet quiet =>
    have works : WorksOn env _ _ := .kept quiet.disk
    exact owes.stay (works.sameNodes sound) rfl quiet.service.frontier rfl
  | cancelled unasked open_ recorded =>
    exact owes.stay ((recorded.worksOn rfl).sameNodes sound) rfl recorded.service.frontier rfl
  | @rooted world nodes node remaining references room =>
    have spooled : SameNodes _ (world.spooled env (.node node)).disk := SameNodes.spooled sound _
    exact owes.carry spooled (fun _ => rfl) (by rintro ⟨⟩) (fun _ => rfl) (List.Subset.refl _)
  | @created world next references nodes recorded =>
    obtain ⟨frame, carries, writes⟩ := recorded.write
    obtain ⟨roots, placed, planned, splits, paired⟩ := spool.mode
    refine ⟨by rintro ⟨⟩, fun _ => rfl, fun _ node created => .inr ?_⟩
    rw [writes, Created.framed] at created
    rcases created with creates | created
    · -- The nodes that the first frame refers to are those that wait to be launched.
      rw [carries] at creates
      obtain ⟨reference, refers, member⟩ := creates
      obtain ⟨held, inside, same⟩ := paired_left paired refers
      cases sound.segmented.unique member same
      rw [List.append_nil] at splits
      unfold RunPointV1.owed
      simp only [List.mem_append]
      exact .inl (.inl (List.mem_map.mpr ⟨node, by rw [splits]; exact inside, rfl⟩))
    · exact absurd created (owes.fresh rfl node)
  | opened opening opens => exact owes.stay (SameNodes.refl _) rfl rfl rfl
  | known => exact owes.stay (SameNodes.refl _) rfl rfl rfl
  | @launched world frontier node remaining known fits =>
    refine owes.carry (SameNodes.refl _) (by rintro ⟨⟩) (fun _ => rfl) (fun _ => rfl) ?_
    intro nodeId member
    simp only [RunPointV1.owed, RunModeV1.waiting, FrontierV1.enqueue_nodes fits, List.map_cons,
      List.map_append, List.mem_append, List.mem_cons] at member ⊢
    tauto
  | served ready =>
    rcases ready with rfl | rfl
    · exact owes.carry (SameNodes.refl _) (by rintro ⟨⟩) (fun _ => rfl) (by rintro ⟨⟩)
        (List.Subset.refl _)
    · exact owes.carry (SameNodes.refl _) (by rintro ⟨⟩) (fun _ => rfl) (by rintro ⟨⟩)
        (List.Subset.refl _)
  | epochTaken =>
    exact owes.carry (SameNodes.refl _) (by rintro ⟨⟩) (fun _ => rfl) (fun _ => rfl)
      (List.Subset.refl _)
  | @announced world next recovered replayNodes recorded =>
    obtain ⟨frame, carries, writes⟩ := recorded.write
    have same : SameNodes world.disk next.disk := by
      rw [writes]
      apply SameNodes.framed <;> rw [carries] <;> rfl
    refine owes.carry same (by rintro ⟨⟩) (fun _ => rfl) (fun _ => rfl) ?_
    unfold RunPointV1.owed
    rw [recorded.service.frontier]
    exact List.Subset.refl _
  | authorized recorded =>
    refine owes.carry ((recorded.worksOn rfl).sameNodes sound) (by rintro ⟨⟩) (fun _ => rfl)
      (fun _ => rfl) ?_
    unfold RunPointV1.owed
    rw [recorded.service.frontier]
    exact List.Subset.refl _
  | allAuthorized =>
    exact owes.carry (SameNodes.refl _) (by rintro ⟨⟩) (fun _ => rfl) (fun _ => rfl)
      (List.Subset.refl _)
  | @passedOver world recovered rest done =>
    refine owes.carry (SameNodes.refl _) (by rintro ⟨⟩) (fun _ => rfl) (fun _ => rfl) ?_
    -- A node that is neither pending nor unresolved is done with.
    have closed : recovered.done = true := by
      unfold RecoveryNodeV1.unresolved at done
      unfold RecoveryNodeV1.done
      cases state : recovered.state <;> simp_all
    have same : openNodeIds (recovered :: rest) = openNodeIds rest := by
      simp [openNodeIds, closed]
    simp only [RunPointV1.owed, RunModeV1.waiting, same]
    exact List.Subset.refl _
  | @requeued world frontier recovered rest open_ fits =>
    refine owes.carry (SameNodes.refl _) (by rintro ⟨⟩) (fun _ => rfl) (fun _ => rfl) ?_
    intro nodeId member
    simp only [RunPointV1.owed, RunModeV1.waiting, FrontierV1.enqueue_nodes fits,
      List.map_append, List.map_cons, List.mem_append, List.mem_cons] at member ⊢
    rcases member with (waits | inside) | inside
    · simp only [openNodeIds, List.filter_cons] at waits
      split at waits
      · rcases List.mem_cons.mp waits with same | waits
        · exact .inl (.inr (.inr (.inl same)))
        · exact .inl (.inl waits)
      · exact .inl (.inl waits)
    · exact .inl (.inr (.inl inside))
    · exact .inr inside
  | @dequeued world frontier slots entry fresh found task capability =>
    refine owes.carry (SameNodes.refl _) (by rintro ⟨⟩) (fun _ => rfl) (by rintro ⟨⟩) ?_
    intro nodeId member
    have held := FrontierV1.dequeue_nodes found
    simp only [RunPointV1.owed, RunModeV1.waiting, held, List.map_append, List.map_cons,
      List.mem_append, List.mem_cons] at member ⊢
    tauto
  | dispatched fresh => exact owes.stay (SameNodes.refl _) rfl rfl rfl
  | skipping failed => exact owes.stay (SameNodes.refl _) rfl rfl rfl
  | @skipped world next entry stop retained slots recorded =>
    exact owes.close recorded rfl rfl recorded.service.frontier
  | numbered grows => exact owes.stay (SameNodes.refl _) rfl rfl rfl
  | expanded expands =>
    obtain ⟨ordinal, _, rfl⟩ := expanded_numbered expands
    exact owes.stay (SameNodes.refl _) rfl rfl rfl
  | repeated known => exact owes.stay (SameNodes.refl _) rfl rfl rfl
  | spooled unknown fits room => exact owes.stay (SameNodes.spooled sound _) rfl rfl rfl
  | @enqueued world next frontier entry child nodeState children retained slots recorded fits =>
    have stored : (BlobContentV1.node child, nodeState) ∈ world.disk.blobs :=
      spool.slots (entry, .enqueueing child nodeState children retained) List.mem_cons_self
    obtain ⟨frame, carries, writes⟩ := recorded.write
    refine ⟨by rintro ⟨⟩, by rintro ⟨⟩, fun _ node created => ?_⟩
    have waits := FrontierV1.enqueue_nodes fits
    rw [recorded.service.frontier] at waits
    rw [writes, Created.framed, carries] at created
    have closed {nodeId : RunNodeIdV1} (before : Closed world.disk.frames nodeId) :
        Closed next.disk.frames nodeId := by
      rw [writes]
      exact Closed.framed.mpr (.inr before)
    simp only [RunPointV1.owed, RunModeV1.waiting, waits, List.map_append, List.map_cons,
      List.mem_append, List.mem_cons]
    rcases created with creates | created
    · -- The node that the frame makes known is the child, which stands in the frontier now.
      obtain ⟨reference, refers, member⟩ := creates
      rw [List.mem_singleton.mp refers] at member
      cases sound.segmented.unique member stored
      tauto
    · rcases owes.owed rfl node created with before | owed
      · exact .inl (closed before)
      · simp only [RunPointV1.owed, RunModeV1.waiting, List.mem_append, List.map_cons,
          List.mem_cons] at owed
        tauto
  | completed recorded => exact owes.close recorded rfl rfl recorded.service.frontier
  | @relinquished world entry slot slots mode stopped =>
    have idle : mode.begins = false := by
      cases begins : mode.begins with
      | false => rfl
      | true => cases owes.alone begins
    have stays : mode.goesOn = false := by
      cases mode <;> first | exact absurd rfl stopped | exact idle
    refine ⟨fun fresh => owes.fresh fresh, fun begins => ?_, fun goesOn => ?_⟩
    · rw [idle] at begins
      cases begins
    · rw [stays] at goesOn
      cases goesOn
  | closed ending holds =>
    rcases ending with ⟨_, rfl⟩ | ⟨_, rfl⟩
    · exact .idle rfl rfl
    · exact .idle rfl rfl
  | dropped => exact .idle rfl rfl
  | _ => exact .idle rfl rfl

/-! Which tasks a run knows to have failed. -/

/-- A run knows of every task that its journal skipped, and of the one it is about to skip. -/
structure KnowsFailures (point : RunPointV1) : Prop where
  frames : Unskipped point.world.disk.frames ∨ point.world.state.hadIndependentFailure = true
  slots : ∀ slot ∈ point.slots, ∀ stop retained, slot.2 = .skipping stop retained →
    point.world.state.hadIndependentFailure = true

theorem KnowsFailures.carry {before after : RunPointV1} (knows : KnowsFailures before)
    (unskipped : Unskipped after.world.disk.frames ↔ Unskipped before.world.disk.frames)
    (failure : after.world.state.hadIndependentFailure =
      before.world.state.hadIndependentFailure)
    (slots : ∀ slot ∈ after.slots, slot ∈ before.slots ∨
      ∀ stop retained, slot.2 ≠ .skipping stop retained) : KnowsFailures after := by
  refine ⟨?_, fun slot member stop retained skips => ?_⟩
  · rw [failure, unskipped]
    exact knows.frames
  · rw [failure]
    rcases slots slot member with inside | other
    · exact knows.slots slot inside stop retained skips
    · exact absurd skips (other stop retained)

theorem Recorded.unskipped {world next : World} {event : JournalEventV1}
    (recorded : Recorded env event world next) (plain : event.skips = false) :
    Unskipped next.disk.frames ↔ Unskipped world.disk.frames := by
  obtain ⟨frame, carries, writes⟩ := recorded.write
  have other : frame.body.event.skips = false := by
    rw [carries]
    exact plain
  rw [writes]
  exact Unskipped.framed.trans (and_iff_right other)

theorem RecordedEmergency.unskipped {world next : World} {event : JournalEventV1}
    (recorded : RecordedEmergency env event world next) (plain : event.skips = false) :
    Unskipped next.disk.frames ↔ Unskipped world.disk.frames := by
  obtain ⟨frame, carries, writes⟩ := recorded.write
  have other : frame.body.event.skips = false := by
    rw [carries]
    exact plain
  rw [writes]
  exact Unskipped.framed.trans (and_iff_right other)

/-- A move of a run keeps its failures known. -/
theorem knowsFailures_kept {before after : RunPointV1} (moves : RunMove env permits before after)
    (sound : SpoolSound env before.world.disk) (knows : KnowsFailures before) :
    KnowsFailures after := by
  have kept : ∀ slot ∈ before.slots, slot ∈ before.slots ∨
      ∀ stop retained, slot.2 ≠ .skipping stop retained := fun _ member => .inl member
  have dropped {first : BatchEntryV1 × SlotV1} {slots : List (BatchEntryV1 × SlotV1)} :
      ∀ slot ∈ slots, slot ∈ first :: slots ∨
        ∀ stop retained, slot.2 ≠ .skipping stop retained :=
    fun _ member => .inl (List.mem_cons_of_mem _ member)
  -- A slot that replaces the first one is not about to skip its task.
  have replaced {first : BatchEntryV1 × SlotV1} {slots : List (BatchEntryV1 × SlotV1)}
      (entry : BatchEntryV1) (slot : SlotV1)
      (other : ∀ stop retained, slot ≠ .skipping stop retained) :
      ∀ next ∈ (entry, slot) :: slots, next ∈ first :: slots ∨
        ∀ stop retained, next.2 ≠ .skipping stop retained := by
    intro next member
    rcases List.mem_cons.mp member with same | inside
    · rw [same]
      exact .inr other
    · exact .inl (List.mem_cons_of_mem _ inside)
  cases moves with
  | @chain world next left right mode entry stage after moves =>
    refine knows.carry (moves.worksOn.sameNodes sound).unskipped moves.service.failure ?_
    intro slot member
    rcases List.mem_append.mp member with inside | member
    · exact .inl (List.mem_append_left _ inside)
    · rcases List.mem_cons.mp member with same | inside
      · rw [same]
        exact .inr (by nofun)
      · exact .inl (List.mem_append_right _ (List.mem_cons_of_mem _ inside))
  | quiet quiet =>
    have works : WorksOn env _ _ := .kept quiet.disk
    exact knows.carry (works.sameNodes sound).unskipped quiet.service.failure kept
  | cancelled unasked open_ recorded =>
    exact knows.carry (recorded.unskipped rfl) recorded.service.failure kept
  | created recorded => exact knows.carry (recorded.unskipped rfl) recorded.service.failure kept
  | announced recorded => exact knows.carry (recorded.unskipped rfl) recorded.service.failure kept
  | authorized recorded => exact knows.carry (recorded.unskipped rfl) recorded.service.failure kept
  | dequeued fresh found task capability =>
    refine knows.carry Iff.rfl rfl fun slot member => ?_
    rcases List.mem_append.mp member with inside | inside
    · exact .inl inside
    · rw [List.mem_singleton.mp inside]
      exact .inr (by nofun)
  | skipping failed => exact ⟨.inr rfl, fun _ _ _ _ _ => rfl⟩
  | @skipped world next entry stop retained slots recorded =>
    -- The failure was noted before the frame that skips the task.
    have noted := knows.slots _ List.mem_cons_self stop retained rfl
    have still : next.state.hadIndependentFailure = true := by
      rw [recorded.service.failure]
      exact noted
    exact ⟨.inr still, fun _ _ _ _ _ => still⟩
  | expanded expands =>
    obtain ⟨ordinal, _, rfl⟩ := expanded_numbered expands
    exact knows.carry Iff.rfl rfl (replaced _ _ (by nofun))
  | repeated known => exact knows.carry Iff.rfl rfl (replaced _ _ (by nofun))
  | spooled unknown fits room => exact knows.carry Iff.rfl rfl (replaced _ _ (by nofun))
  | enqueued recorded fits =>
    exact knows.carry (recorded.unskipped rfl) recorded.service.failure (replaced _ _ (by nofun))
  | completed recorded =>
    exact knows.carry (recorded.unskipped rfl) recorded.service.failure dropped
  | relinquished stopped => exact knows.carry Iff.rfl rfl dropped
  | explained recorded => exact knows.carry (recorded.unskipped rfl) recorded.service.failure kept
  | prepared holds names recorded =>
    exact knows.carry (recorded.unskipped rfl) recorded.service.failure kept
  | published recorded => exact knows.carry (recorded.unskipped rfl) recorded.service.failure kept
  | terminated recorded => exact knows.carry (recorded.unskipped rfl) recorded.service.failure kept
  | publishedTerminal recorded =>
    exact knows.carry (recorded.unskipped rfl) recorded.service.failure kept
  | dropped => exact knows.carry Iff.rfl rfl fun _ member => absurd member List.not_mem_nil
  | _ => exact knows.carry Iff.rfl rfl kept

/-! What a run may claim of itself. -/

/-- A result that says the run succeeded and its source is exhausted. -/
def TerminalResultDescriptorV1.successful (descriptor : TerminalResultDescriptorV1) : Bool :=
  decide (descriptor.resultKind = .scrapeOutcome ∧ descriptor.stop = .completed .sourceExhausted)

/-- Only a run that completed its work has the result of one. -/
def TerminalResultDescriptorV1.Proper (descriptor : TerminalResultDescriptorV1) : Prop :=
  descriptor.resultKind = .scrapeOutcome → ∃ stop, descriptor.stop = .completed stop

/-- The result that an event records. -/
def JournalEventV1.result : JournalEventV1 → Option TerminalResultDescriptorV1
  | .outputPrepared _ _ _ descriptor _ => some descriptor
  | .terminal descriptor _ => some descriptor
  | _ => none

/-- A journal says that its run succeeded. -/
def ClaimsSuccess (disk : Disk) : Prop :=
  ∃ frame ∈ disk.frames, ∃ descriptor, frame.body.event.result = some descriptor ∧
    descriptor.successful = true

/-- A journal holds a run that has closed all of its nodes, failed at none and stands finished. -/
structure Complete (disk : Disk) : Prop where
  closed : ∀ node, Created disk node → Closed disk.frames node.nodeId
  unskipped : Unskipped disk.frames
  uninterrupted : journalEndsInterrupted disk.frames = false

/-- A disk whose results are results of another one. -/
def ResultsOf (disk next : Disk) : Prop :=
  ∀ frame ∈ next.frames, ∀ descriptor, frame.body.event.result = some descriptor →
    ∃ older ∈ disk.frames, older.body.event.result = some descriptor

theorem ResultsOf.refl (disk : Disk) : ResultsOf disk disk :=
  fun frame member _ result => ⟨frame, member, result⟩

theorem ResultsOf.framed (disk : Disk) {frame : JournalFrameV1}
    (plain : frame.body.event.result = none) : ResultsOf disk (.frame frame :: disk) := by
  intro other member descriptor result
  have member : other ∈ frame :: disk.frames := member
  rcases List.mem_cons.mp member with rfl | inside
  · rw [plain] at result
    cases result
  · exact ⟨other, inside, result⟩

theorem WorksOn.results {disk next : Disk} (works : WorksOn env disk next) :
    ResultsOf disk next := by
  cases works with
  | kept same =>
    rw [same]
    exact ResultsOf.refl disk
  | spooled content writes =>
    rw [writes]
    exact ResultsOf.refl disk
  | framed frame works writes =>
    rw [writes]
    apply ResultsOf.framed
    cases event : frame.body.event with
    | outputPrepared => rw [event] at works; cases works
    | terminal => rw [event] at works; cases works
    | _ => rfl

theorem ResultsOf.claims {disk next : Disk} (results : ResultsOf disk next)
    (claims : ClaimsSuccess next) : ClaimsSuccess disk := by
  obtain ⟨frame, inside, descriptor, result, successful⟩ := claims
  obtain ⟨older, member, result⟩ := results frame inside descriptor result
  exact ⟨older, member, descriptor, result, successful⟩

theorem Complete.carry {disk next : Disk} (complete : Complete disk) (same : SameNodes disk next)
    (interrupted : journalEndsInterrupted next.frames = journalEndsInterrupted disk.frames) :
    Complete next := by
  refine ⟨fun node created => ?_, same.unskipped.mpr complete.unskipped, ?_⟩
  · exact (same.closed node.nodeId).mpr (complete.closed node ((same.created node).mp created))
  · rw [interrupted]
    exact complete.uninterrupted

/-- The stages at which a chain would end the run for the exhaustion of its source. -/
def StageV1.exhausts : StageV1 → Bool
  | .leaving _ (.ok (.completed .sourceExhausted)) => true
  | .ended (.ok (.completed .sourceExhausted)) => true
  | _ => false

/-- The slots whose chain would end the run for the exhaustion of its source. -/
def SlotV1.exhausts : SlotV1 → Bool
  | .chain stage => stage.exhausts
  | _ => false

theorem ChainMove.exhausts {entry : BatchEntryV1} {world next : World} {stage after : StageV1}
    (moves : ChainMove env entry permits (world, stage) (next, after))
    (before : stage.exhausts = false) : after.exhausts = false := by
  cases moves with
  | quiet quiet => exact before
  | @unopened world maximum items outcome unsuccessful =>
    cases outcome with
    | error error => rfl
    | ok result =>
      obtain ⟨stop, rfl⟩ := unsuccessful result rfl
      rfl
  | @left world chain outcome order releases =>
    cases outcome with
    | error error => rfl
    | ok result =>
      cases result with
      | completed stop =>
        cases stop with
        | sourceExhausted => cases before
        | dateCutoffReached => rfl
      | _ => rfl
  | _ => rfl

/-- Whether a run in this mode has announced its epoch, and not come to its end. -/
def RunModeV1.engaged : RunModeV1 → Bool
  | .creating .. | .launching _ | .authorizing .. | .requeueing _ | .serving => true
  | _ => false

/-- The result that a mode is about to record as terminal. -/
def RunModeV1.finalization : RunModeV1 → Option OutputFinalizationV1
  | .prepared finalization | .published finalization => some finalization
  | _ => none

/-- Whether a run in this mode is about to claim its success. -/
def RunModeV1.succeeds : RunModeV1 → Bool
  | .finishing (.completed .sourceExhausted) => true
  | .prepared finalization | .published finalization =>
    finalization.terminalDescriptor.successful
  | _ => false

/-- Whether a run in this mode may have claimed its success. -/
def RunModeV1.claims : RunModeV1 → Bool
  | .prepared _ | .published _ | .ended _ => true
  | _ => false

theorem RunModeV1.unprepared {mode : RunModeV1} (none : mode.finalization = none) :
    ∀ finalization, mode.finalization = some finalization →
      finalization.terminalDescriptor.Proper := by
  intro finalization held
  rw [none] at held
  cases held

/-- A run claims its success only once it is complete, and then does nothing more. -/
structure ClaimsHonestly (point : RunPointV1) : Prop where
  slots : ∀ slot ∈ point.slots, slot.2.exhausts = false
  engaged : point.mode.engaged = true →
    journalEndsInterrupted point.world.disk.frames = false
  succeeds : point.mode.succeeds = true → Complete point.world.disk
  claims : ClaimsSuccess point.world.disk → point.mode.claims = true ∧ Complete point.world.disk
  finalization : ∀ finalization, point.mode.finalization = some finalization →
    finalization.terminalDescriptor.Proper
  results : ∀ frame ∈ point.world.disk.frames, ∀ descriptor,
    frame.body.event.result = some descriptor → descriptor.Proper

namespace ClaimsHonestly

variable {before after : RunPointV1}

theorem stay (honest : ClaimsHonestly before)
    (same : SameNodes before.world.disk after.world.disk)
    (interrupted : journalEndsInterrupted after.world.disk.frames =
      journalEndsInterrupted before.world.disk.frames)
    (results : ResultsOf before.world.disk after.world.disk) (mode : after.mode = before.mode)
    (slots : ∀ slot ∈ after.slots, slot ∈ before.slots ∨ slot.2.exhausts = false) :
    ClaimsHonestly after where
  slots := fun slot member => by
    rcases slots slot member with inside | other
    · exact honest.slots slot inside
    · exact other
  engaged := by
    rw [mode, interrupted]
    exact honest.engaged
  succeeds := by
    rw [mode]
    exact fun succeeds => (honest.succeeds succeeds).carry same interrupted
  claims := fun claims => by
    obtain ⟨claimed, complete⟩ := honest.claims (results.claims claims)
    rw [mode]
    exact ⟨claimed, complete.carry same interrupted⟩
  finalization := by
    rw [mode]
    exact honest.finalization
  results := fun frame member descriptor result => by
    obtain ⟨older, inside, result⟩ := results frame member descriptor result
    exact honest.results older inside descriptor result

theorem unclaimed (honest : ClaimsHonestly before) (claims : before.mode.claims = false)
    (results : ResultsOf before.world.disk after.world.disk)
    (slots : ∀ slot ∈ after.slots, slot ∈ before.slots ∨ slot.2.exhausts = false)
    (engaged : after.mode.engaged = true →
      journalEndsInterrupted after.world.disk.frames = false)
    (succeeds : after.mode.succeeds = false) (finalization : after.mode.finalization = none) :
    ClaimsHonestly after where
  slots := fun slot member => by
    rcases slots slot member with inside | other
    · exact honest.slots slot inside
    · exact other
  engaged := engaged
  succeeds := fun claimed => by
    rw [succeeds] at claimed
    cases claimed
  claims := fun claimed => by
    have earlier := (honest.claims (results.claims claimed)).1
    rw [claims] at earlier
    cases earlier
  finalization := fun _ held => by
    rw [finalization] at held
    cases held
  results := fun frame member descriptor result => by
    obtain ⟨older, inside, result⟩ := results frame member descriptor result
    exact honest.results older inside descriptor result

/-- A run that comes to its end over the nodes it had, with results that it may record, stays
honest. -/
theorem conclude (honest : ClaimsHonestly before)
    (same : SameNodes before.world.disk after.world.disk)
    (interrupted : journalEndsInterrupted after.world.disk.frames =
      journalEndsInterrupted before.world.disk.frames)
    (results : ∀ frame ∈ after.world.disk.frames, ∀ descriptor,
      frame.body.event.result = some descriptor →
        (∃ older ∈ before.world.disk.frames, older.body.event.result = some descriptor) ∨
        (descriptor.Proper ∧ (descriptor.successful = true → Complete before.world.disk)))
    (slots : after.slots = before.slots) (engaged : after.mode.engaged = false)
    (claims : after.mode.claims = true)
    (succeeds : after.mode.succeeds = true → Complete before.world.disk)
    (finalization : ∀ finalization, after.mode.finalization = some finalization →
      finalization.terminalDescriptor.Proper) : ClaimsHonestly after where
  slots := by
    rw [slots]
    exact honest.slots
  engaged := fun claimed => by
    rw [engaged] at claimed
    cases claimed
  succeeds := fun claimed => (succeeds claimed).carry same interrupted
  claims := fun claimed => by
    obtain ⟨frame, inside, descriptor, result, successful⟩ := claimed
    refine ⟨claims, Complete.carry ?_ same interrupted⟩
    rcases results frame inside descriptor result with ⟨older, member, recorded⟩ | ⟨_, complete⟩
    · exact (honest.claims ⟨older, member, descriptor, recorded, successful⟩).2
    · exact complete successful
  finalization := finalization
  results := fun frame member descriptor result => by
    rcases results frame member descriptor result with ⟨older, inside, recorded⟩ | ⟨proper, _⟩
    · exact honest.results older inside descriptor recorded
    · exact proper

end ClaimsHonestly

theorem RunReasonV1.descriptor_proper (summary : ScrapeRunSummaryV1)
    (sink : Option FileRunOutputSinkV1) (reason : RunReasonV1) :
    (reason.descriptor env summary sink).Proper := by
  intro outcome
  cases reason with
  | completed stop => exact ⟨stop, rfl⟩
  | stopped stop =>
    have kind : incompleteKind summary = .scrapeOutcome := outcome
    unfold incompleteKind at kind
    split at kind <;> cases kind

theorem RunReasonV1.descriptor_successful {summary : ScrapeRunSummaryV1}
    {sink : Option FileRunOutputSinkV1} {reason : RunReasonV1}
    (successful : (reason.descriptor env summary sink).successful = true) :
    reason = .completed .sourceExhausted := by
  have claims := of_decide_eq_true successful
  cases reason with
  | completed stop =>
    have stops : TerminalRunStopV1.completed stop = .completed .sourceExhausted := claims.2
    cases stops
    rfl
  | stopped stop =>
    have stops : TerminalRunStopV1.stopped stop = .completed .sourceExhausted := claims.2
    cases stops

theorem exhausted_complete {world : World} (owes : OwesOpenNodes ⟨world, [], .serving⟩)
    (knows : KnowsFailures ⟨world, [], .serving⟩) (honest : ClaimsHonestly ⟨world, [], .serving⟩)
    (empty : world.frontier.nodes = []) (successful : world.state.hadIndependentFailure = false) :
    Complete world.disk := by
  refine ⟨fun node created => ?_, ?_, honest.engaged rfl⟩
  · -- Nothing waits and nothing is dispatched, so every node that is known has been closed.
    rcases owes.owed rfl node created with closed | owed
    · exact closed
    · simp [RunPointV1.owed, RunModeV1.waiting, empty] at owed
  · rcases knows.frames with unskipped | failed
    · exact unskipped
    · rw [successful] at failed
      cases failed

theorem Recorded.results {world next : World} {event : JournalEventV1}
    (recorded : Recorded env event world next) (plain : event.result = none) :
    ResultsOf world.disk next.disk := by
  obtain ⟨frame, carries, writes⟩ := recorded.write
  rw [writes]
  apply ResultsOf.framed
  rw [carries]
  exact plain

theorem Recorded.interrupted {world next : World} {event : JournalEventV1}
    (recorded : Recorded env event world next) (going : ∀ reason, event ≠ .interrupted reason)
    (unchanged : ∀ state, event ≠ .stateChanged state) :
    journalEndsInterrupted next.disk.frames = journalEndsInterrupted world.disk.frames := by
  obtain ⟨frame, carries, writes⟩ := recorded.write
  rw [writes]
  apply journalEndsInterrupted_other
  · rw [carries]
    exact going
  · rw [carries]
    exact unchanged

/-- An ending run that records a result it may claim stays honest. -/
theorem ClaimsHonestly.records {world next : World} {slots : List (BatchEntryV1 × SlotV1)}
    {mode ending : RunModeV1} {event : JournalEventV1} {descriptor : TerminalResultDescriptorV1}
    (honest : ClaimsHonestly ⟨world, slots, mode⟩)
    (recorded : RecordedEmergency env event world next) (result : event.result = some descriptor)
    (quiet : event.nodeReferences = [] ∧ event.closedNode = none ∧ event.skips = false)
    (going : ∀ reason, event ≠ .interrupted reason)
    (unchanged : ∀ state, event ≠ .stateChanged state) (proper : descriptor.Proper)
    (complete : descriptor.successful = true → Complete world.disk)
    (engaged : ending.engaged = false) (claims : ending.claims = true)
    (succeeds : ending.succeeds = true → Complete world.disk)
    (finalization : ∀ finalization, ending.finalization = some finalization →
      finalization.terminalDescriptor.Proper) : ClaimsHonestly ⟨next, slots, ending⟩ := by
  obtain ⟨frame, carries, writes⟩ := recorded.write
  have frames : next.disk.frames = frame :: world.disk.frames := by
    rw [writes]
    rfl
  refine honest.conclude ?_ ?_ ?_ rfl engaged claims succeeds finalization
  · show SameNodes world.disk next.disk
    rw [writes]
    apply SameNodes.framed
    · rw [carries]
      exact quiet.1
    · rw [carries]
      exact quiet.2.1
    · rw [carries]
      exact quiet.2.2
  · show journalEndsInterrupted next.disk.frames = _
    rw [frames]
    apply journalEndsInterrupted_other
    · rw [carries]
      exact going
    · rw [carries]
      exact unchanged
  · intro other member recordedResult held
    have member : other ∈ next.disk.frames := member
    rw [frames] at member
    rcases List.mem_cons.mp member with rfl | inside
    · rw [carries, result] at held
      cases held
      exact .inr ⟨proper, complete⟩
    · exact .inl ⟨other, inside, held⟩

/-- A move of a run keeps it from claiming a success that is not complete. -/
theorem claimsHonestly_kept {before after : RunPointV1} (moves : RunMove env permits before after)
    (sound : SpoolSound env before.world.disk) (owes : OwesOpenNodes before)
    (knows : KnowsFailures before) (honest : ClaimsHonestly before) : ClaimsHonestly after := by
  have kept : ∀ slot ∈ before.slots, slot ∈ before.slots ∨ slot.2.exhausts = false :=
    fun _ member => .inl member
  have dropped {first : BatchEntryV1 × SlotV1} {slots : List (BatchEntryV1 × SlotV1)} :
      ∀ slot ∈ slots, slot ∈ first :: slots ∨ slot.2.exhausts = false :=
    fun _ member => .inl (List.mem_cons_of_mem _ member)
  have empty : ∀ slot ∈ ([] : List (BatchEntryV1 × SlotV1)),
      slot ∈ before.slots ∨ slot.2.exhausts = false :=
    fun _ member => absurd member List.not_mem_nil
  -- A slot that replaces the first one has left its chain behind.
  have replaced {first : BatchEntryV1 × SlotV1} {slots : List (BatchEntryV1 × SlotV1)}
      (entry : BatchEntryV1) (slot : SlotV1) (other : slot.exhausts = false) :
      ∀ next ∈ (entry, slot) :: slots, next ∈ first :: slots ∨ next.2.exhausts = false := by
    intro next member
    rcases List.mem_cons.mp member with same | inside
    · rw [same]
      exact .inr other
    · exact .inl (List.mem_cons_of_mem _ inside)
  cases moves with
  | @chain world next left right mode entry stage after moves =>
    refine honest.stay (moves.worksOn.sameNodes sound) moves.worksOn.interrupted
      moves.worksOn.results rfl ?_
    intro slot member
    rcases List.mem_append.mp member with inside | member
    · exact .inl (List.mem_append_left _ inside)
    · rcases List.mem_cons.mp member with same | inside
      · rw [same]
        exact .inr (moves.exhausts (honest.slots (entry, .chain stage)
          (List.mem_append_right _ List.mem_cons_self)))
      · exact .inl (List.mem_append_right _ (List.mem_cons_of_mem _ inside))
  | quiet quiet =>
    have works : WorksOn env _ _ := .kept quiet.disk
    exact honest.stay (works.sameNodes sound) works.interrupted works.results rfl kept
  | cancelled unasked open_ recorded =>
    have works := recorded.worksOn rfl
    exact honest.stay (works.sameNodes sound) works.interrupted works.results rfl kept
  | rooted room =>
    exact honest.unclaimed rfl (ResultsOf.refl _) empty (fun _ => honest.engaged rfl) rfl rfl
  | created recorded =>
    refine honest.unclaimed rfl (recorded.results rfl) empty (fun _ => ?_) rfl rfl
    exact (recorded.interrupted (by rintro _ ⟨⟩) (by rintro _ ⟨⟩)).trans (honest.engaged rfl)
  | opened opening opens =>
    exact honest.stay (SameNodes.refl _) rfl (ResultsOf.refl _) rfl kept
  | known => exact honest.stay (SameNodes.refl _) rfl (ResultsOf.refl _) rfl kept
  | launched known fits =>
    exact honest.unclaimed rfl (ResultsOf.refl _) empty (fun _ => honest.engaged rfl) rfl rfl
  | served ready =>
    rcases ready with rfl | rfl
    · exact honest.unclaimed rfl (ResultsOf.refl _) empty (fun _ => honest.engaged rfl) rfl rfl
    · exact honest.unclaimed rfl (ResultsOf.refl _) empty (fun _ => honest.engaged rfl) rfl rfl
  | epochTaken => exact honest.unclaimed rfl (ResultsOf.refl _) empty (by rintro ⟨⟩) rfl rfl
  | announced recorded =>
    refine honest.unclaimed rfl (recorded.results rfl) empty (fun _ => ?_) rfl rfl
    -- The announcement of the epoch is what ends the interruption.
    obtain ⟨frame, carries, writes⟩ := recorded.write
    dsimp only
    rw [writes]
    show journalEndsInterrupted (frame :: _) = false
    rw [journalEndsInterrupted, carries]
  | authorized recorded =>
    refine honest.unclaimed rfl (recorded.results rfl) empty (fun _ => ?_) rfl rfl
    exact (recorded.interrupted (by rintro _ ⟨⟩) (by rintro _ ⟨⟩)).trans (honest.engaged rfl)
  | allAuthorized =>
    exact honest.unclaimed rfl (ResultsOf.refl _) empty (fun _ => honest.engaged rfl) rfl rfl
  | passedOver done =>
    exact honest.unclaimed rfl (ResultsOf.refl _) empty (fun _ => honest.engaged rfl) rfl rfl
  | requeued open_ fits =>
    exact honest.unclaimed rfl (ResultsOf.refl _) empty (fun _ => honest.engaged rfl) rfl rfl
  | dequeued fresh found task capability =>
    refine honest.stay (SameNodes.refl _) rfl (ResultsOf.refl _) rfl fun slot member => ?_
    rcases List.mem_append.mp member with inside | inside
    · exact .inl inside
    · rw [List.mem_singleton.mp inside]
      exact .inr rfl
  | missing found =>
    exact honest.unclaimed rfl (ResultsOf.refl _) kept (by rintro ⟨⟩) rfl rfl
  | dispatched fresh => exact honest.stay (SameNodes.refl _) rfl (ResultsOf.refl _) rfl kept
  | skipping failed =>
    exact honest.stay (SameNodes.refl _) rfl (ResultsOf.refl _) rfl (replaced _ _ rfl)
  | skipped recorded =>
    refine honest.unclaimed rfl (recorded.results rfl) dropped (fun _ => ?_) rfl rfl
    exact (recorded.interrupted (by rintro _ ⟨⟩) (by rintro _ ⟨⟩)).trans (honest.engaged rfl)
  | numbered grows => exact honest.stay (SameNodes.refl _) rfl (ResultsOf.refl _) rfl kept
  | expanded expands =>
    obtain ⟨ordinal, _, rfl⟩ := expanded_numbered expands
    exact honest.stay (SameNodes.refl _) rfl (ResultsOf.refl _) rfl (replaced _ _ rfl)
  | repeated known =>
    exact honest.stay (SameNodes.refl _) rfl (ResultsOf.refl _) rfl (replaced _ _ rfl)
  | spooled unknown fits room =>
    exact honest.stay (SameNodes.spooled sound _) rfl (ResultsOf.refl _) rfl (replaced _ _ rfl)
  | enqueued recorded fits =>
    refine honest.unclaimed rfl (recorded.results rfl) (replaced _ _ rfl) (fun _ => ?_) rfl rfl
    exact (recorded.interrupted (by rintro _ ⟨⟩) (by rintro _ ⟨⟩)).trans (honest.engaged rfl)
  | completed recorded =>
    refine honest.unclaimed rfl (recorded.results rfl) dropped (fun _ => ?_) rfl rfl
    exact (recorded.interrupted (by rintro _ ⟨⟩) (by rintro _ ⟨⟩)).trans (honest.engaged rfl)
  | relinquished stopped =>
    exact honest.stay (SameNodes.refl _) rfl (ResultsOf.refl _) rfl dropped
  | explained recorded =>
    have works := recorded.worksOn rfl
    exact honest.stay (works.sameNodes sound) works.interrupted works.results rfl kept
  | @stopped world slots mode stop may =>
    have claims : mode.claims = false := by
      cases mode <;> first | rfl | cases may
    exact honest.unclaimed claims (ResultsOf.refl _) kept (by rintro ⟨⟩) rfl rfl
  | @exhausted world drained successful =>
    have complete := exhausted_complete owes knows honest drained successful
    refine ⟨honest.slots, by rintro ⟨⟩, fun _ => complete, fun claimed => ?_,
      RunModeV1.unprepared rfl, honest.results⟩
    cases (honest.claims claimed).1
  | @reached world entry stop slots =>
    -- A chain completes its run only at a date cutoff.
    have cutoff := honest.slots _ List.mem_cons_self
    refine honest.unclaimed rfl (ResultsOf.refl _) kept (by rintro ⟨⟩) ?_ rfl
    cases stop with
    | sourceExhausted => cases cutoff
    | dateCutoffReached => rfl
  | closed ending holds => exact honest.stay (SameNodes.refl _) rfl (ResultsOf.refl _) rfl kept
  | @prepared world next slots reason sink path format isPartial holds names recorded =>
    have complete (successful : (reason.descriptor env world.state.summary world.sink).successful =
        true) : Complete world.disk := by
      have named := RunReasonV1.descriptor_successful successful
      exact honest.succeeds (by rw [named]; rfl)
    have proper := @RunReasonV1.descriptor_proper env world.state.summary world.sink reason
    refine honest.records recorded rfl ⟨rfl, rfl, rfl⟩ (by rintro _ ⟨⟩) (by rintro _ ⟨⟩) proper
      complete rfl rfl complete ?_
    rintro _ ⟨⟩
    exact proper
  | @published world next slots finalization recorded =>
    have works := recorded.worksOn rfl
    refine honest.conclude (works.sameNodes sound) works.interrupted
      (fun frame member descriptor result => .inl (works.results frame member descriptor result)) rfl
      rfl rfl honest.succeeds ?_
    rintro _ ⟨⟩
    exact honest.finalization finalization rfl
  | @terminated world next slots reason recorded =>
    have complete (successful : (reason.descriptor env world.state.summary none).successful =
        true) : Complete world.disk := by
      have named := RunReasonV1.descriptor_successful successful
      exact honest.succeeds (by rw [named]; rfl)
    exact honest.records recorded rfl ⟨rfl, rfl, rfl⟩ (by rintro _ ⟨⟩) (by rintro _ ⟨⟩)
      (reason.descriptor_proper world.state.summary none) complete rfl rfl (by rintro ⟨⟩)
      (RunModeV1.unprepared rfl)
  | @publishedTerminal world next slots result finalization recorded kind stop summary =>
    exact honest.records recorded rfl ⟨rfl, rfl, rfl⟩ (by rintro _ ⟨⟩) (by rintro _ ⟨⟩)
      (honest.finalization finalization rfl) honest.succeeds rfl rfl (by rintro ⟨⟩)
      (RunModeV1.unprepared rfl)
  | broken =>
    exact honest.conclude (SameNodes.refl _) rfl
      (fun frame member descriptor result => .inl ⟨frame, member, result⟩) rfl rfl rfl
      (by rintro ⟨⟩) (RunModeV1.unprepared rfl)
  | dropped => exact honest.stay (SameNodes.refl _) rfl (ResultsOf.refl _) rfl empty

/-! What the reader makes of the results, and what a resume takes from the journal. -/

section Reader

variable {disk : Disk}

/-- What the reader has made of a journal's results. -/
structure ResultsRead (recovery : RecoveryStateV1) (frames : List JournalFrameV1) : Prop where
  running : recovery.terminal = false → ∀ frame ∈ frames, ∀ descriptor,
    frame.body.event.result = some descriptor → frame.body.event.prepares = some descriptor
  unprepared : recovery.outputFinalization = none → ∀ frame ∈ frames,
    frame.body.event.prepares = none
  prepared : ∀ finalization, recovery.outputFinalization = some finalization →
    ∃ frame ∈ frames, frame.body.event.result = some finalization.terminalDescriptor

/-- A move of the reader leaves the output preparation it has advanced to alone, and only a terminal
event ends it. -/
theorem ReaderMove.ends {isFirst : Bool} {executionEpoch : Nat} {event : JournalEventV1}
    {recovery next : RecoveryStateV1}
    (moves : ReaderMove env disk isFirst executionEpoch recovery event next) :
    next.outputFinalization = recovery.outputFinalization ∧
      (next.terminal = false → recovery.terminal = false ∧ event.result = event.prepares) := by
  cases moves with
  | ended => exact ⟨rfl, by nofun⟩
  | @passed event finished =>
    refine ⟨rfl, fun running => ⟨running, ?_⟩⟩
    cases event <;> first | rfl | cases finished
  | _ => exact ⟨rfl, fun running => ⟨running, rfl⟩⟩

/-- The output preparation is the one that an event of the journal prepared. -/
theorem advanceOutputFinalization_passes (current : Option OutputFinalizationV1)
    (event : JournalEventV1) :
    Passes (advanceOutputFinalization env current event) fun next =>
      (next = none → current = none ∧ event.prepares = none) ∧
      ∀ finalization, next = some finalization →
        event.prepares = some finalization.terminalDescriptor ∨
        ∃ earlier, current = some earlier ∧
          earlier.terminalDescriptor = finalization.terminalDescriptor := by
  have unchanged (plain : event.prepares = none) :
      Passes (.ok current : Except RunError _) fun next =>
        (next = none → current = none ∧ event.prepares = none) ∧
        ∀ finalization, next = some finalization →
          event.prepares = some finalization.terminalDescriptor ∨
          ∃ earlier, current = some earlier ∧
            earlier.terminalDescriptor = finalization.terminalDescriptor :=
    Passes.ok ⟨fun same => ⟨same, plain⟩, fun finalization same => .inr ⟨finalization, same, rfl⟩⟩
  cases event with
  | outputPrepared pathDigest contentDigest byteLength descriptor digest =>
    refine Passes.ite (fun _ => Passes.error _) fun _ => ?_
    split
    · refine Passes.ite (fun _ => Passes.error _) fun _ => Passes.ok ⟨by nofun, ?_⟩
      intro finalization same
      cases same
      exact .inl rfl
    · exact Passes.error _
  | outputCommitted contentDigest byteLength digest =>
    unfold advanceOutputFinalization
    cases current with
    | none => exact Passes.error _
    | some prepared =>
      refine Passes.ite (fun _ => Passes.error _) fun _ => ?_
      refine Passes.ite (fun _ => Passes.error _) fun _ => Passes.ok ⟨by nofun, ?_⟩
      intro finalization same
      cases same
      exact .inr ⟨prepared, rfl, rfl⟩
  | terminal descriptor digest =>
    unfold advanceOutputFinalization
    cases current with
    | none =>
      dsimp only
      split
      · exact Passes.error _
      · exact unchanged rfl
    | some prepared => exact Passes.ite (fun _ => Passes.error _) fun _ => unchanged rfl
  | _ => exact unchanged rfl

theorem recoverInitialNodes_finalization (references : List BlobRefV1)
    (recovery : RecoveryStateV1) (index : Nat) :
    Passes (recoverInitialNodes env disk recovery index references) fun next =>
      next.outputFinalization = recovery.outputFinalization := by
  induction references generalizing recovery index with
  | nil => exact Passes.ok rfl
  | cons reference rest ih =>
    refine Passes.bind _ (recoverInitialNode_passes disk recovery index reference) ?_
    intro next enqueues
    obtain ⟨node, _, _, _, _, _, _, rfl⟩ := enqueues
    exact ih (recovery.enqueued reference node) (index + 1)

/-- The reader's results are those of the journal. -/
theorem recoverFrames_results (frames : List JournalFrameV1) :
    Passes (recoverFrames env disk frames) fun recovery => ResultsRead recovery frames := by
  refine @recoverFrames_induct env disk (fun recovery frames => ResultsRead recovery frames)
    ?_ ?_ frames
  · intro frame metaDigest initialNodes recovery epoch finalization created begins prepares
    have unprepared : recovery.outputFinalization = none :=
      recoverInitialNodes_finalization _ .initial 0 recovery begins
    rw [unprepared, created] at prepares
    cases prepares
    refine ⟨fun _ other member descriptor result => ?_, fun _ other member => ?_, by nofun⟩
    · rw [List.mem_singleton.mp member, created] at result
      cases result
    · rw [List.mem_singleton.mp member, created]
      rfl
  · intro recovery frame older epoch finalization next held running prepares moves
    have ends := moves.ends
    have advanced := advanceOutputFinalization_passes _ _ finalization prepares
    have same : next.outputFinalization = finalization := ends.1
    refine ⟨fun open_ other member descriptor result => ?_, fun unprepared other member => ?_, ?_⟩
    · rcases List.mem_cons.mp member with rfl | inside
      · rw [← (ends.2 open_).2]
        exact result
      · exact held.running running other inside descriptor result
    · rw [same] at unprepared
      obtain ⟨earlier, plain⟩ := advanced.1 unprepared
      rcases List.mem_cons.mp member with rfl | inside
      · exact plain
      · exact held.unprepared earlier other inside
    · intro last final
      rw [same] at final
      rcases advanced.2 last final with prepared | ⟨earlier, before, kept⟩
      · refine ⟨frame, List.mem_cons_self, ?_⟩
        cases event : frame.body.event with
        | outputPrepared => rw [event] at prepared; exact prepared
        | _ => rw [event] at prepared; cases prepared
      · obtain ⟨other, inside, result⟩ := held.prepared earlier before
        rw [← kept]
        exact ⟨other, List.mem_cons_of_mem _ inside, result⟩

theorem rehydrateFrames_failures (frames : List JournalFrameV1) :
    Passes (rehydrateFrames env frames) fun counts =>
      Unskipped frames ∨ 0 < counts.summary.tasksFailed := by
  induction frames with
  | nil => exact Passes.ok (.inl fun _ member => absurd member List.not_mem_nil)
  | cons frame older ih =>
    refine Passes.bind _ ih fun counts held => ?_
    have other (plain : frame.body.event.skips = false) :
        Unskipped (frame :: older) ∨ 0 < counts.summary.tasksFailed := by
      rw [Unskipped.framed]
      exact held.imp_left fun unskipped => ⟨plain, unskipped⟩
    cases event : frame.body.event with
    | taskSkipped => exact Passes.ok (.inr (Nat.succ_pos _))
    | attemptIntent nodeId taskKindId =>
      unfold rehydrateEvent
      dsimp only
      split
      · exact Passes.error _
      · exact Passes.ok (other (by rw [event]; rfl))
    | itemCommitted =>
      exact Passes.ite (fun _ => Passes.error _) fun _ => Passes.ok (other (by rw [event]; rfl))
    | _ => exact Passes.ok (other (by rw [event]; rfl))

theorem rehydrateExecutionState_failures :
    Passes (rehydrateExecutionState env disk) fun state =>
      Unskipped disk.frames ∨ state.hadIndependentFailure = true := by
  refine Passes.bind _ (rehydrateFrames_failures disk.frames) fun counts held => ?_
  refine Passes.next fun _ _ => Passes.ite (fun _ => Passes.error _) fun _ => ?_
  refine Passes.next fun _ _ => ?_
  split
  · exact Passes.error _
  · exact Passes.ok (held.imp_right fun failed => decide_eq_true failed)

/-- A recovered run has every node that its journal made known, and closed those it is done
with. -/
theorem recoverRunState_nodes (sound : SpoolSound env disk) :
    Passes (recoverRunState env disk) fun recovered => ∃ recovery,
      recovered.Reads env disk recovery ∧ NodesRead disk recovery disk.frames ∧
        ResultsRead recovery disk.frames := by
  intro recovered recovers
  obtain ⟨recovery, reads⟩ := recoverRunState_reads recovered recovers
  have nodes := recoverFrames_nodes sound.segmented _ recovery reads.frames
  exact ⟨recovery, reads, nodes, recoverFrames_results _ recovery reads.frames⟩

theorem ResumePlanV1.Read.interrupted {plan : ResumePlanV1} (read : plan.Read env disk)
    {recovery : RecoveryStateV1} (reads : plan.recovered.Reads env disk recovery) :
    recovery.terminal = false ∧ journalEndsInterrupted disk.frames = true := by
  have allowed := read.allowed
  unfold resumeAllowed at allowed
  rw [reads.resume] at allowed
  unfold deriveResumeEligibility at allowed
  cases terminal : recovery.terminal with
  | true => simp [terminal] at allowed
  | false =>
    refine ⟨rfl, ?_⟩
    cases interrupted : journalEndsInterrupted disk.frames with
    | true => rfl
    | false =>
      cases asked : recovery.cancellationRequested with
      | true => simp [terminal, asked] at allowed
      | false => simp [terminal, interrupted, asked] at allowed

end Reader

/-! What a stored run claims of itself, and what its closing writes add. -/

/-- A stored run claims its success only when it is complete. -/
structure SettledHonestly (disk : Disk) : Prop where
  complete : ClaimsSuccess disk → Complete disk
  results : ∀ frame ∈ disk.frames, ∀ descriptor, frame.body.event.result = some descriptor →
    descriptor.Proper

/-- A frame that ends a recovered run changes no node, and marks a run interrupted only when no
output was prepared. -/
theorem JournalEventV1.closes.quiet {recovered : RecoveredRunStateV1} {event : JournalEventV1}
    (closing : event.closes recovered) :
    (event.nodeReferences = [] ∧ event.closedNode = none ∧ event.skips = false) ∧
      (∀ state, event ≠ .stateChanged state) ∧
      (∀ reason, event = .interrupted reason → recovered.outputFinalization = none) := by
  obtain ⟨_, ends⟩ := closing
  cases event with
  | interrupted reason => exact ⟨⟨rfl, rfl, rfl⟩, by nofun, fun _ _ => ends⟩
  | outputPrepared | outputCommitted | terminal => exact ⟨⟨rfl, rfl, rfl⟩, by nofun, by nofun⟩
  | _ => exact ends.elim

theorem JournalEventV1.closes.result {recovered : RecoveredRunStateV1} {event : JournalEventV1}
    {descriptor : TerminalResultDescriptorV1} (closing : event.closes recovered)
    (result : event.result = some descriptor) :
    descriptor.resultKind ≠ .scrapeOutcome ∨ ∃ prepared,
      recovered.outputFinalization = some prepared ∧ descriptor = prepared.terminalDescriptor := by
  obtain ⟨_, ends⟩ := closing
  cases event with
  | outputPrepared =>
    cases result
    exact .inl ends.2
  | terminal =>
    cases result
    exact ends
  | _ => cases result

/-- Closing writes change no node and interrupt no run with a prepared output, and their results are
those of the run or claim no success. -/
theorem ClosingWrites.effect {recovered : RecoveredRunStateV1} {before after : Disk}
    (writes : ClosingWrites recovered before after) :
    SameNodes before after ∧
      ((recovered.terminal = false → recovered.outputFinalization ≠ none) →
        journalEndsInterrupted after.frames = journalEndsInterrupted before.frames) ∧
      ∀ frame ∈ after.frames, ∀ descriptor, frame.body.event.result = some descriptor →
        (∃ older ∈ before.frames, older.body.event.result = some descriptor) ∨
        descriptor.resultKind ≠ .scrapeOutcome ∨ ∃ prepared,
          recovered.outputFinalization = some prepared ∧
            descriptor = prepared.terminalDescriptor := by
  -- The induction follows the writes, each of which is a frame that ends the run.
  induction writes with
  | refl =>
    exact ⟨SameNodes.refl _, fun _ => rfl, fun frame member _ result => .inl ⟨frame, member, result⟩⟩
  | @tail middle last _ step ih =>
    obtain ⟨same, interrupted, results⟩ := ih
    obtain ⟨frame, closing, rfl⟩ := step
    obtain ⟨⟨creates, closes, skips⟩, unchanged, going⟩ := closing.quiet
    have framed := SameNodes.framed middle creates closes skips
    refine ⟨⟨?_, ?_, ?_⟩, fun prepared => ?_, fun other member descriptor result => ?_⟩
    · exact fun node => (framed.created node).trans (same.created node)
    · exact fun nodeId => (framed.closed nodeId).trans (same.closed nodeId)
    · exact framed.unskipped.trans same.unskipped
    · rw [← interrupted prepared]
      refine journalEndsInterrupted_other middle.frames (fun reason event => ?_) unchanged
      exact prepared closing.1 (going reason event)
    · have member : other ∈ frame :: middle.frames := member
      rcases List.mem_cons.mp member with rfl | inside
      · exact .inr (closing.result result)
      · exact results other inside descriptor result

theorem Complete.truncated {disk : Disk} (complete : Complete disk) (spoolPrefix : Nat) :
    Complete (truncateSpool disk spoolPrefix) := by
  have frames := truncateSpool_frames disk spoolPrefix
  refine ⟨fun node created => ?_, ?_, ?_⟩
  · rw [frames]
    exact complete.closed node created.untruncated
  · rw [frames]
    exact complete.unskipped
  · rw [frames]
    exact complete.uninterrupted

/-- What startup recovery makes of a run claims its success only when the run is complete. -/
theorem SettledHonestly.closed {disk kept : Disk} {recovered : RecoveredRunStateV1}
    (settled : SettledHonestly disk) (sound : SpoolSound env disk)
    (recovers : recoverRunState env disk = .ok recovered)
    (writes : ClosingWrites recovered (truncateSpool disk recovered.spoolPrefix) kept) :
    SettledHonestly kept := by
  obtain ⟨recovery, reads, _, ends⟩ := recoverRunState_nodes sound recovered recovers
  obtain ⟨same, interrupted, results⟩ := writes.effect
  rw [truncateSpool_frames] at interrupted results
  -- A result that was prepared before is one that the journal already held.
  have earlier {frame : JournalFrameV1} (inside : frame ∈ kept.frames)
      {descriptor : TerminalResultDescriptorV1}
      (result : frame.body.event.result = some descriptor) :
      (∃ older ∈ disk.frames, older.body.event.result = some descriptor) ∨
        descriptor.resultKind ≠ .scrapeOutcome := by
    rcases results frame inside descriptor result with held | incomplete | ⟨prepared, holds, rfl⟩
    · exact .inl held
    · exact .inr incomplete
    · rw [reads.finalization] at holds
      exact .inl (ends.prepared prepared holds)
  refine ⟨fun claims => ?_, fun frame inside descriptor result => ?_⟩
  · obtain ⟨frame, inside, descriptor, result, successful⟩ := claims
    have outcome := (of_decide_eq_true successful).1
    rcases earlier inside result with ⟨older, member, held⟩ | incomplete
    · have complete := settled.complete ⟨older, member, descriptor, held, successful⟩
      apply (complete.truncated recovered.spoolPrefix).carry same
      rw [truncateSpool_frames]
      apply interrupted
      -- A run that claims its success without a terminal frame has prepared its output.
      intro running unprepared
      rw [reads.terminal] at running
      rw [reads.finalization] at unprepared
      have prepares := ends.running running older member descriptor held
      rw [ends.unprepared unprepared older member] at prepares
      cases prepares
    · exact absurd outcome incomplete
  · rcases earlier inside result with ⟨older, member, held⟩ | incomplete
    · exact settled.results older member descriptor held
    · exact fun outcome => absurd outcome incomplete

/-! What holds over the whole life of a run. -/

/-- A run between two of its moves that accounts for all of its nodes and claims nothing else. -/
structure AccountsForNodes (env : RunEnvironment) (point : RunPointV1) : Prop where
  spool : SpoolPoint env point
  owes : OwesOpenNodes point
  knows : KnowsFailures point
  honest : ClaimsHonestly point

theorem ClaimsHonestly.settled {point : RunPointV1} (honest : ClaimsHonestly point) :
    SettledHonestly point.world.disk :=
  ⟨fun claims => (honest.claims claims).2, honest.results⟩

section Resume

variable {disk : Disk} {plan : ResumePlanV1} {world : World}

theorem ResumePlanV1.Read.owes (read : plan.Read env disk) (sound : SpoolSound env disk)
    (holds : world.disk = plan.disk) :
    OwesOpenNodes ⟨world, [], .reopening plan.recovered plan.replayNodes⟩ := by
  obtain ⟨recovery, reads, nodes, _⟩ := recoverRunState_nodes sound _ read.recovers
  refine ⟨by nofun, fun _ => rfl, fun _ node created => ?_⟩
  have created : Created world.disk node := created
  rw [holds, read.truncated] at created
  -- Every known node is one that the reader has, and one that it is not done with is owed.
  obtain ⟨frame, inside, creates⟩ := created.untruncated
  obtain ⟨recovered, member, same, _⟩ := nodes.known frame inside node creates
  cases done : recovered.done with
  | true =>
    left
    show Closed world.disk.frames node.nodeId
    rw [holds, read.truncated, truncateSpool_frames, ← same]
    exact nodes.closed recovered member done
  | false =>
    right
    unfold RunPointV1.owed RunModeV1.waiting openNodeIds
    dsimp only
    rw [reads.nodes]
    apply List.mem_append_left
    apply List.mem_append_left
    exact List.mem_map.mpr ⟨recovered, List.mem_filter.mpr ⟨member, by simp [done]⟩, same⟩

theorem ResumePlanV1.Read.knows (read : plan.Read env disk) (holds : world.disk = plan.disk)
    (state : world.state = plan.state) :
    KnowsFailures ⟨world, [], .reopening plan.recovered plan.replayNodes⟩ := by
  obtain ⟨rehydrated, rehydrates, states⟩ := read.rehydrates
  have known := rehydrateExecutionState_failures rehydrated rehydrates
  refine ⟨?_, fun _ member => absurd member List.not_mem_nil⟩
  show Unskipped world.disk.frames ∨ world.state.hadIndependentFailure = true
  rw [holds, state, states]
  exact known

theorem ResumePlanV1.Read.honest (read : plan.Read env disk) (sound : SpoolSound env disk)
    (settled : SettledHonestly disk) (holds : world.disk = plan.disk) :
    ClaimsHonestly ⟨world, [], .reopening plan.recovered plan.replayNodes⟩ := by
  obtain ⟨recovery, reads, _⟩ := recoverRunState_nodes sound _ read.recovers
  have interrupted := (read.interrupted reads).2
  have frames : world.disk.frames = disk.frames := by
    rw [holds, read.truncated, truncateSpool_frames]
  constructor
  · exact fun _ member => absurd member List.not_mem_nil
  · intro engaged
    cases engaged
  · intro succeeds
    cases succeeds
  · intro claims
    have claims : ClaimsSuccess world.disk := claims
    unfold ClaimsSuccess at claims
    rw [frames] at claims
    have complete := settled.complete claims
    rw [complete.uninterrupted] at interrupted
    cases interrupted
  · intro finalization held
    cases held
  · show ∀ frame ∈ world.disk.frames, _
    rw [frames]
    exact settled.results

end Resume

/-- A run accounts for its nodes over its whole life. -/
theorem completion_invariant : MoveInvariant env (fun _ => True)
    (fun disk => SpoolSound env disk ∧ SettledHonestly disk) (AccountsForNodes env) where
  disk := fun _ accounts => ⟨accounts.spool.sound, accounts.honest.settled⟩
  starts := fun roots clock linkSucceeds => by
    have fresh : Disk.frames [] = [] := rfl
    refine ⟨spool_invariant.starts roots clock linkSucceeds, ⟨?_, by nofun, by nofun⟩,
      ⟨.inl fun _ member => absurd member List.not_mem_nil,
        fun _ member => absurd member List.not_mem_nil⟩, ?_⟩
    · intro _ node created
      obtain ⟨frame, member, _⟩ := created
      exact absurd member List.not_mem_nil
    · constructor
      · exact fun _ member => absurd member List.not_mem_nil
      · exact fun _ => rfl
      · intro succeeds
        cases succeeds
      · intro claims
        obtain ⟨frame, member, _⟩ := claims
        exact absurd member List.not_mem_nil
      · intro finalization held
        cases held
      · exact fun _ member => absurd member List.not_mem_nil
  resumes := fun disk plan clock linkSucceeds stored plans => by
    have read := planResume_reads plans
    exact ⟨spool_invariant.resumes disk plan clock linkSucceeds stored.1 plans,
      read.owes stored.1 rfl, read.knows rfl rfl, read.honest stored.1 stored.2 rfl⟩
  keeps := fun permits _ before after moves accounts =>
    ⟨spoolPoint_kept moves accounts.spool,
      owesOpenNodes_kept moves accounts.spool accounts.owes,
      knowsFailures_kept moves accounts.spool.sound accounts.knows,
      claimsHonestly_kept moves accounts.spool.sound accounts.owes accounts.knows accounts.honest⟩
  closes := fun disk recovered kept stored recovers writes =>
    ⟨spool_invariant.closes disk recovered kept stored.1 recovers writes,
      stored.2.closed stored.1 recovers writes⟩

theorem TerminalResultDescriptorV1.Proper.stops {descriptor : TerminalResultDescriptorV1}
    (proper : descriptor.Proper) (unsuccessful : descriptor.successful = false) :
    descriptor.resultKind = .scrapePartial ∨ descriptor.resultKind = .scrapeFailure ∨
      ∃ cutoff, descriptor.stop = .completed (.dateCutoffReached cutoff) := by
  cases kind : descriptor.resultKind with
  | scrapePartial => exact .inl rfl
  | scrapeFailure => exact .inr (.inl rfl)
  | scrapeOutcome =>
    obtain ⟨stop, stops⟩ := proper kind
    cases stop with
    | sourceExhausted =>
      have successful : descriptor.successful = true := decide_eq_true ⟨kind, stops⟩
      rw [successful] at unsuccessful
      cases unsuccessful
    | dateCutoffReached cutoff => exact .inr (.inr ⟨cutoff, stops⟩)

theorem Complete.recovered {disk : Disk} {recovery : RecoveryStateV1} (complete : Complete disk)
    (nodes : NodesRead disk recovery disk.frames) {node : RecoveryNodeV1}
    (member : node ∈ recovery.nodes) :
    node.state = .completed ∧ ∃ frame ∈ disk.frames,
      frame.body.event = .nodeCompleted node.node.nodeId := by
  obtain ⟨made, ⟨frame, inside, creates⟩, same, _⟩ := nodes.created node member
  obtain ⟨closing, closed, names⟩ := complete.closed made ⟨frame, inside, creates⟩
  rw [same] at names
  -- Nothing was skipped, so the frame that closed the node is one that completed it.
  have completes : closing.body.event = .nodeCompleted node.node.nodeId := by
    have unskipped := complete.unskipped closing closed
    cases event : closing.body.event with
    | nodeCompleted nodeId =>
      rw [event] at names
      cases names
      rfl
    | taskSkipped => rw [event] at unskipped; cases unskipped
    | _ => rw [event] at names; cases names
  obtain ⟨known, held, named, state⟩ := nodes.completed closing closed _ completes
  have only := nodes.only held member named
  rw [only] at state
  exact ⟨state, closing, closed, completes⟩

/-- Over the whole life of a run, a terminal result that says the source is exhausted is that of a
run that skipped no task, completed every node and ended each of their chains with its last page. A
node that is not completed leaves an incomplete result, or one that stopped at a date cutoff. -/
theorem success_means_complete {life : RunLifeV1} {history : LifeHistory}
    (reached : (lifeMachine env).remembering.Reaches (fun _ _ => True) (life, history))
    {frame : JournalFrameV1} (inside : frame ∈ life.disk.frames)
    {descriptor : TerminalResultDescriptorV1} {digest : Sha256DigestV1}
    (terminal : frame.body.event = .terminal descriptor digest) :
    (descriptor.resultKind = .scrapeOutcome →
      descriptor.stop = .completed .sourceExhausted →
        (∀ other ∈ life.disk.frames, ∀ nodeId taskKindId stop,
          other.body.event ≠ .taskSkipped nodeId taskKindId stop) ∧
        (∀ other ∈ life.disk.frames, ∀ nodeId, other.body.event = .nodeCompleted nodeId →
          EndedWithLastPage history nodeId) ∧
        ∀ recovered, recoverRunState env life.disk = .ok recovered → ∀ node ∈ recovered.nodes,
          node.state = .completed ∧ EndedWithLastPage history node.node.nodeId) ∧
    ∀ recovered, recoverRunState env life.disk = .ok recovered →
      (∃ node ∈ recovered.nodes, node.state ≠ .completed) →
        descriptor.resultKind = .scrapePartial ∨ descriptor.resultKind = .scrapeFailure ∨
          ∃ cutoff, descriptor.stop = .completed (.dateCutoffReached cutoff) := by
  have stored : SpoolSound env life.disk ∧ SettledHonestly life.disk := by
    have invariant : LifeInvariant env (fun _ _ => True)
        (fun disk => SpoolSound env disk ∧ SettledHonestly disk)
        (fun execution => AccountsForNodes env execution.point) :=
      completion_invariant.life trivial fun _ _ _ => trivial
    have allowed : (lifeMachine env).Reaches (LifeAllows fun _ _ => True) life :=
      reached.forget.mono fun life event _ => by cases life <;> cases event <;> trivial
    have kept := invariant.reached allowed
    cases life with
    | running execution => exact ⟨kept.spool.sound, kept.honest.settled⟩
    | stored disk => exact kept
  obtain ⟨sound, settled⟩ := stored
  have result : frame.body.event.result = some descriptor := by
    rw [terminal]
    rfl
  have ended : Completes (EndedWithLastPage history) life.disk := by
    have ends := chains_ended reached
    cases life with
    | running execution => exact ends.frames
    | stored disk => exact ends
  have completes (successful : descriptor.successful = true) : Complete life.disk :=
    settled.complete ⟨frame, inside, descriptor, result, successful⟩
  refine ⟨fun kind stop => ?_, fun recovered recovers unfinished => ?_⟩
  · have complete := completes (decide_eq_true ⟨kind, stop⟩)
    refine ⟨fun other member nodeId taskKindId stop event => ?_, ended, ?_⟩
    · have unskipped := complete.unskipped other member
      rw [event] at unskipped
      cases unskipped
    · intro recovered recovers node member
      obtain ⟨recovery, reads, nodes, _⟩ := recoverRunState_nodes sound recovered recovers
      rw [reads.nodes] at member
      obtain ⟨state, closing, closed, completed⟩ := complete.recovered nodes member
      exact ⟨state, ended closing closed _ completed⟩
  · obtain ⟨recovery, reads, nodes, _⟩ := recoverRunState_nodes sound recovered recovers
    obtain ⟨node, member, state⟩ := unfinished
    rw [reads.nodes] at member
    apply (settled.results frame inside descriptor result).stops
    cases successful : descriptor.successful with
    | false => rfl
    | true => exact absurd ((completes successful).recovered nodes member).1 state

/-- The result that the newest frame of a journal records as terminal. -/
def Disk.terminalResult (disk : Disk) : Option TerminalResultDescriptorV1 :=
  disk.frames.head?.bind fun frame =>
    match frame.body.event with
    | .terminal descriptor _ => some descriptor
    | _ => none

theorem Disk.terminalResult_frame {disk : Disk} {descriptor : TerminalResultDescriptorV1}
    (ends : disk.terminalResult = some descriptor) :
    ∃ frame ∈ disk.frames, ∃ digest, frame.body.event = .terminal descriptor digest := by
  unfold Disk.terminalResult at ends
  cases frames : disk.frames with
  | nil => simp [frames] at ends
  | cons frame older =>
    simp only [frames, List.head?_cons, Option.bind_some] at ends
    cases event : frame.body.event with
    | terminal held digest =>
      rw [event] at ends
      cases ends
      exact ⟨frame, List.mem_cons_self, digest, event⟩
    | _ => rw [event] at ends; cases ends

/-- The call for the listing's page returns one item, and the run goes on to its end. -/
def listsOneItem : List RunEventV1 :=
  [.callReturned 0 (.returned (listedPage [1] none)) [], .turnSettled 0 [], .batchSettled [] true]

/-- Whether an execution has recorded a result that a test accepts, and is recovered with a node
whose state a test accepts. -/
def endsWith (env : RunEnvironment) (accepts : TerminalResultDescriptorV1 → Bool)
    (leaves : RecoveredNodeStateV1 → Bool) (execution : ExecutionV1) : Bool :=
  (execution.world.disk.terminalResult.map accepts).getD false &&
    passesTest (recoverRunState env execution.world.disk) fun recovered =>
      recovered.nodes.any fun node => leaves node.state

/-- An execution that a run of the listing ends with is one of its life, with what the tests
accept. -/
theorem listing_ends {env : RunEnvironment} {accepts : TerminalResultDescriptorV1 → Bool}
    {leaves : RecoveredNodeStateV1 → Bool}
    (runs : passesTest (startDetached env (listRoots 1) none [] true)
      (fun started => ((started.run env listsOneItem).map (endsWith env accepts leaves)).getD
        false) = true) :
    ∃ life, (lifeMachine env).Reaches (fun _ _ => True) life ∧
      (∃ frame ∈ life.disk.frames, ∃ descriptor digest,
        frame.body.event = .terminal descriptor digest ∧ accepts descriptor = true) ∧
      ∃ recovered, recoverRunState env life.disk = .ok recovered ∧
        ∃ node ∈ recovered.nodes, leaves node.state = true := by
  obtain ⟨started, starts, runs⟩ := passesTest_spec runs
  cases ran : started.run env listsOneItem with
  | none => rw [ran] at runs; cases runs
  | some execution =>
    rw [ran] at runs
    obtain ⟨terminal, recovers⟩ := Bool.and_eq_true_iff.mp runs
    obtain ⟨recovered, recovers, open_⟩ := passesTest_spec recovers
    have begun : (lifeMachine env).Reaches (fun _ _ => True) (.running started) :=
      .start ⟨listRoots 1, none, [], true, started, starts, .inl rfl⟩
    refine ⟨.running execution, life_run ran begun, ?_, recovered, recovers, ?_⟩
    · cases ends : execution.world.disk.terminalResult with
      | none => rw [ends] at terminal; cases terminal
      | some descriptor =>
        rw [ends] at terminal
        obtain ⟨frame, inside, digest, event⟩ := Disk.terminalResult_frame ends
        exact ⟨frame, inside, descriptor, digest, event, terminal⟩
    · exact List.any_eq_true.mp open_

/-- A listing of one page that ends with its source exhausted has completed its node. -/
theorem success_means_complete_listing : ∃ life history,
    (lifeMachine onePageListing).remembering.Reaches (fun _ _ => True) (life, history) ∧
      ∃ frame ∈ life.disk.frames, ∃ descriptor digest,
        frame.body.event = .terminal descriptor digest ∧
        descriptor.resultKind = .scrapeOutcome ∧
        ∃ recovered, recoverRunState onePageListing life.disk = .ok recovered ∧
          ∃ node ∈ recovered.nodes, node.state = .completed ∧
            EndedWithLastPage history node.node.nodeId := by
  have runs : passesTest (startDetached onePageListing (listRoots 1) none [] true)
      (fun started => ((started.run onePageListing listsOneItem).map
        (endsWith onePageListing TerminalResultDescriptorV1.successful fun _ => true)).getD
          false) = true := by
    decide +kernel
  obtain ⟨life, reached, ended, recovered, recovers, node, member, _⟩ := listing_ends runs
  obtain ⟨frame, inside, descriptor, digest, terminal, successful⟩ := ended
  obtain ⟨history, remembered⟩ := reached.remember
  obtain ⟨kind, stop⟩ := of_decide_eq_true successful
  have complete := (success_means_complete remembered inside terminal).1 kind stop
  exact ⟨life, history, remembered, frame, inside, descriptor, digest, terminal, kind, recovered,
    recovers, node, member, complete.2.2 recovered recovers node member⟩

/-- A listing whose every item lies behind its date cutoff. -/
def cutoffListing : RunEnvironment :=
  { onePageListing with collection := { onePageListing.collection with
      semanticStops := [{ id := listTaskId, boundArgument := fun _ => .ok (some 0)
                          itemValuePointer := fun item => .ok item, comparator := fun _ => .ok 1
                          order := .ascending, inclusive := true }] } }

/-- A listing that its date cutoff ends is a success whose node is not completed. -/
theorem cutoff_leaves_node_open : ∃ life,
    (lifeMachine cutoffListing).Reaches (fun _ _ => True) life ∧
      (∃ frame ∈ life.disk.frames, ∃ descriptor digest,
        frame.body.event = .terminal descriptor digest ∧
          decide (descriptor.resultKind = .scrapeOutcome) = true) ∧
      ∃ recovered, recoverRunState cutoffListing life.disk = .ok recovered ∧
        ∃ node ∈ recovered.nodes, decide (node.state ≠ .completed) = true :=
  @listing_ends cutoffListing (fun descriptor => decide (descriptor.resultKind = .scrapeOutcome))
    (fun state => decide (state ≠ .completed)) (by decide +kernel)

end Klura
