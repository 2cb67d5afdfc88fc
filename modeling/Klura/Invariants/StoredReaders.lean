import Klura.Library.Paging
import Klura.Moves.Reader
import Klura.Run.Listing
import Klura.Run.StoredRun

/-! The readers of a stored run, and that they tell the same of every journal its recovery takes. -/

namespace Klura

variable {env : RunEnvironment} {disk : Disk}

/-! Walking over the item frames of a journal. -/

/-- Every reference of a list is one that the spool still holds the value of. -/
def Readable (disk : Disk) (references : List BlobRefV1) : Prop :=
  ∀ reference ∈ references, ∃ content, readDataBlob disk reference = .ok content

theorem validateSpoolPrefix_readable (references : List BlobRefV1) :
    Passes (validateSpoolPrefix disk references) fun _ => Readable disk references := by
  -- The references are read one after the other, each behind the one before it.
  induction references with
  | nil => exact Passes.ok (fun _ member => absurd member List.not_mem_nil)
  | cons reference older ih =>
    refine Passes.bind _ ih fun expected readable => ?_
    refine Passes.ite (fun _ => Passes.error _) fun _ => ?_
    refine Passes.next fun content read => Passes.ok fun other member => ?_
    rcases List.mem_cons.mp member with same | member
    · rw [same]
      exact ⟨content, read⟩
    · exact readable other member

/-- What the walks over a journal's item frames have come to, beside its recovery. -/
structure ItemsAgree (recovery : RecoveryStateV1) (visit : ItemVisitV1)
    (pending : List BufferedEntryV1) : Prop where
  buffered : visit.buffered = recovery.bufferedItems
  pending : pending = recovery.bufferedItems
  committed : visit.committed = recovery.committedItemDigests
  sequence : visit.lastItemSequence = recovery.committedItemSequence
  order : visit.lastLogicalOrder = recovery.lastCommittedItemOrder
  count : recovery.committedItemDigests.length = recovery.committedItemSequence
  numbered : (visit.items.map CommittedRunItemV1.sequence).reverse =
    List.range' 1 recovery.committedItemSequence
  referred : ∀ entry ∈ recovery.bufferedItems, entry.data ∈ recovery.references

variable {recovery next : RecoveryStateV1} {visit : ItemVisitV1} {pending : List BufferedEntryV1}

theorem ItemsAgree.frame (agree : ItemsAgree recovery visit pending)
    (buffered : next.bufferedItems = recovery.bufferedItems)
    (committed : next.committedItemDigests = recovery.committedItemDigests)
    (sequence : next.committedItemSequence = recovery.committedItemSequence)
    (order : next.lastCommittedItemOrder = recovery.lastCommittedItemOrder)
    (references : recovery.references ⊆ next.references) : ItemsAgree next visit pending where
  buffered := agree.buffered.trans buffered.symm
  pending := agree.pending.trans buffered.symm
  committed := agree.committed.trans committed.symm
  sequence := agree.sequence.trans sequence.symm
  order := agree.order.trans order.symm
  count := by rw [committed, sequence]; exact agree.count
  numbered := by rw [sequence]; exact agree.numbered
  referred := fun entry member => references (agree.referred entry (buffered ▸ member))

variable {entries : List BufferedEntryV1}

variable {order : ItemLogicalOrderV1} {entry : BufferedEntryV1}

theorem matchBuffered_mem {nodeId : RunNodeIdV1} {identityDigest : Sha256DigestV1}
    (found : matchBuffered entries nodeId identityDigest order = some entry) :
    entry ∈ entries := by
  unfold matchBuffered at found
  obtain ⟨found, _⟩ := Option.filter_eq_some_iff.mp found
  exact List.mem_of_find?_eq_some found

theorem dropBuffered_mem (member : entry ∈ dropBuffered entries order) : entry ∈ entries :=
  (List.mem_filter.mp member).1

variable {isFirst : Bool} {executionEpoch : Nat}

/-- What the walks over the item frames make of an event, when the reader accepts it. -/
theorem ItemsAgree.step {event : JournalEventV1} (agree : ItemsAgree recovery visit pending)
    (readable : Readable disk next.references)
    (moves : ReaderMove env disk isFirst executionEpoch recovery event next) :
    ∃ visit' pending', visitItemEvent disk visit event = .ok visit' ∧
      pendingItemEvent pending event = .ok pending' ∧ ItemsAgree next visit' pending' := by
  cases moves with
  | @buffered nodeId identityDigest data logicalOrder recovered found observed free ordinal =>
    have visits : visitItemEvent disk visit (.itemBuffered nodeId identityDigest data logicalOrder) =
        .ok { visit with buffered :=
          { data, nodeId, identityDigest, logicalOrder } :: visit.buffered } := by
      unfold visitItemEvent
      dsimp only
      rw [agree.buffered, free]
      rfl
    have pends : pendingItemEvent pending (.itemBuffered nodeId identityDigest data logicalOrder) =
        .ok ({ data, nodeId, identityDigest, logicalOrder } :: pending) := by
      unfold pendingItemEvent
      dsimp only
      rw [agree.pending, free]
      rfl
    refine ⟨_, _, visits, pends, { agree with buffered := ?_, pending := ?_, referred := ?_ }⟩
    · dsimp only
      rw [agree.buffered]
    · rw [agree.pending]
    · intro entry member
      rcases List.mem_cons.mp member with same | member
      · rw [same]
        exact List.mem_cons_self
      · exact List.mem_cons_of_mem _ (agree.referred entry member)
  | @committed nodeId identityDigest logicalOrder itemSequence entry recovered found observed completed
      buffer fresh following after =>
    -- The recovery has read every reference it met, so the item's value is there to be read.
    obtain ⟨content, read⟩ := readable _ (agree.referred _ (matchBuffered_mem buffer))
    have visits : visitItemEvent disk visit
        (.itemCommitted nodeId identityDigest logicalOrder itemSequence) =
        .ok { buffered := dropBuffered visit.buffered logicalOrder,
              committed := identityDigest :: visit.committed, lastItemSequence := itemSequence,
              lastLogicalOrder := some logicalOrder,
              items := { item := content, nodeId, sequence := itemSequence } :: visit.items } := by
      unfold visitItemEvent
      dsimp only
      rw [agree.buffered, buffer]
      dsimp only
      rw [agree.committed, if_neg fresh, agree.sequence, if_neg (not_not.mpr following),
        agree.order, after, read]
      rfl
    have pends : pendingItemEvent pending
        (.itemCommitted nodeId identityDigest logicalOrder itemSequence) =
        .ok (dropBuffered pending logicalOrder) := by
      unfold pendingItemEvent
      dsimp only
      rw [agree.pending, buffer]
      rfl
    refine ⟨_, _, visits, pends, ?_⟩
    refine { buffered := ?_, pending := ?_, committed := ?_, sequence := rfl, order := rfl,
             count := ?_, numbered := ?_, referred := ?_ }
    · dsimp only
      rw [agree.buffered]
    · rw [agree.pending]
    · dsimp only
      rw [agree.committed]
    · dsimp only
      rw [List.length_cons, agree.count, following]
    · dsimp only
      rw [List.map_cons, List.reverse_cons, agree.numbered, following, List.range'_concat,
        Nat.one_mul, Nat.add_comm 1]
    · intro entry member
      exact agree.referred entry (dropBuffered_mem member)
  | @duplicated nodeId identityDigest logicalOrder entry recovered found observed completed buffer
      known =>
    have visits : visitItemEvent disk visit (.itemDuplicate nodeId identityDigest logicalOrder) =
        .ok { visit with buffered := dropBuffered visit.buffered logicalOrder } := by
      unfold visitItemEvent
      dsimp only
      rw [agree.buffered, agree.committed, buffer]
      exact if_neg (by simp [known])
    have pends : pendingItemEvent pending (.itemDuplicate nodeId identityDigest logicalOrder) =
        .ok (dropBuffered pending logicalOrder) := by
      unfold pendingItemEvent
      dsimp only
      rw [agree.pending, buffer]
      rfl
    refine ⟨_, _, visits, pends, { agree with buffered := ?_, pending := ?_, referred := ?_ }⟩
    · dsimp only
      rw [agree.buffered]
    · rw [agree.pending]
    · intro entry member
      exact agree.referred entry (dropBuffered_mem member)
  | enqueued unknown fresh read =>
    exact ⟨visit, pending, rfl, rfl, agree.frame rfl rfl rfl rfl (List.subset_cons_self _ _)⟩
  | progressed found observed completed read same =>
    exact ⟨visit, pending, rfl, rfl, agree.frame rfl rfl rfl rfl (List.subset_cons_self _ _)⟩
  | passed finished =>
    refine ⟨visit, pending, ?_, ?_, agree⟩
    · cases event <;> first | rfl | cases finished
    · cases event <;> first | rfl | cases finished
  | ended | cancelled | created | sunk | authorized | intended | observed | completed | closed
  | skipped =>
    exact ⟨visit, pending, rfl, rfl, agree.frame rfl rfl rfl rfl (List.Subset.refl _)⟩

/-! The positions whose items are buffered and not resolved. -/

/-- A position is unresolved when its last item frame, newest first, is the one that buffers it. -/
def Unresolved : List JournalFrameV1 → ItemLogicalOrderV1 → Prop
  | [], _ => False
  | frame :: older, position =>
    match frame.body.event with
    | .itemBuffered _ _ _ order => position = order ∨ Unresolved older position
    | .itemCommitted _ _ order _ => position ≠ order ∧ Unresolved older position
    | .itemDuplicate _ _ order => position ≠ order ∧ Unresolved older position
    | _ => Unresolved older position

/-- What a recovery's buffered items have to do with the journal's frames. -/
structure PositionsAgree (recovery : RecoveryStateV1) (frames : List JournalFrameV1) : Prop where
  distinct : (recovery.bufferedItems.map BufferedEntryV1.logicalOrder).Nodup
  unresolved : ∀ position, position ∈ recovery.bufferedItems.map BufferedEntryV1.logicalOrder ↔
    Unresolved frames position

theorem dropBuffered_positions (entries : List BufferedEntryV1)
    (order position : ItemLogicalOrderV1) :
    position ∈ (dropBuffered entries order).map BufferedEntryV1.logicalOrder ↔
      position ≠ order ∧ position ∈ entries.map BufferedEntryV1.logicalOrder := by
  unfold dropBuffered
  simp only [List.mem_map, List.mem_filter, decide_eq_true_eq]
  constructor
  · intro held
    obtain ⟨entry, ⟨member, other⟩, same⟩ := held
    exact ⟨same ▸ other, entry, member, same⟩
  · intro held
    obtain ⟨other, entry, member, same⟩ := held
    exact ⟨entry, ⟨member, same ▸ other⟩, same⟩

theorem findBuffered_free (free : findBuffered entries order = none) :
    order ∉ entries.map BufferedEntryV1.logicalOrder := by
  intro member
  obtain ⟨entry, member, same⟩ := List.mem_map.mp member
  have other := List.find?_eq_none.mp free entry member
  simp [same] at other

variable {older : List JournalFrameV1}

/-- Every event keeps what the buffered items have to do with the frames. -/
theorem PositionsAgree.step {frame : JournalFrameV1} (agree : PositionsAgree recovery older)
    (moves : ReaderMove env disk isFirst executionEpoch recovery frame.body.event next) :
    PositionsAgree next (frame :: older) := by
  have resolved (order : ItemLogicalOrderV1) :
      ((dropBuffered recovery.bufferedItems order).map BufferedEntryV1.logicalOrder).Nodup :=
    (List.filter_sublist.map _).nodup agree.distinct
  generalize happened : frame.body.event = event at moves
  cases moves with
  | buffered found observed free ordinal =>
    refine ⟨?_, fun position => ?_⟩
    · exact List.nodup_cons.mpr ⟨findBuffered_free free, agree.distinct⟩
    · unfold Unresolved
      rw [happened]
      simp only [List.map_cons, List.mem_cons, agree.unresolved]
  | committed found observed completed buffer fresh following after =>
    refine ⟨resolved _, fun position => ?_⟩
    unfold Unresolved
    rw [happened]
    simp only [dropBuffered_positions, agree.unresolved]
  | duplicated found observed completed buffer known =>
    refine ⟨resolved _, fun position => ?_⟩
    unfold Unresolved
    rw [happened]
    simp only [dropBuffered_positions, agree.unresolved]
  | passed finished =>
    refine ⟨agree.distinct, fun position => ?_⟩
    unfold Unresolved
    rw [happened]
    cases event <;> first | exact agree.unresolved position | cases finished
  | enqueued | progressed | ended | cancelled | created | sunk | authorized | intended | observed
  | completed | closed | skipped =>
    refine ⟨agree.distinct, fun position => ?_⟩
    unfold Unresolved
    rw [happened]
    exact agree.unresolved position

/-! The lifecycle an inspection reports. -/

/-- What an inspection has gathered, beside the recovery of the same frames. -/
structure InspectionAgrees (recovery : RecoveryStateV1) (inspection : InspectionStateV1)
    (frames : List JournalFrameV1) : Prop where
  items : inspection.committedItems = recovery.committedItemDigests.length
  terminal : inspection.terminal.isSome = recovery.terminal
  cancelling : inspection.cancelling.isSome = recovery.cancellationRequested
  interrupted : inspection.interrupted.isSome = journalEndsInterrupted frames

variable {inspection : InspectionStateV1}

/-- An event that the reader accepts before the run is over is one that an inspection accepts. -/
theorem InspectionAgrees.step {frame : JournalFrameV1}
    (agree : InspectionAgrees recovery inspection older) (running : recovery.terminal = false)
    (moves : ReaderMove env disk isFirst executionEpoch recovery frame.body.event next) :
    ∃ inspection', inspectFrame inspection frame.body = .ok inspection' ∧
      InspectionAgrees next inspection' (frame :: older) := by
  have open_ : inspection.terminal.isSome = false := agree.terminal.trans running
  have interrupted : journalEndsInterrupted (frame :: older) =
      (inspectEvent inspection frame.body.sequence frame.body.event).interrupted.isSome := by
    unfold journalEndsInterrupted
    rw [← agree.interrupted]
    cases frame.body.event <;> rfl
  unfold inspectFrame
  generalize happened : frame.body.event = event at moves interrupted
  cases moves with
  | ended =>
    refine ⟨_, if_neg (by simp [open_]), ⟨agree.items, rfl, agree.cancelling, ?_⟩⟩
    exact interrupted.symm
  | passed finished =>
    cases event with
    | stateChanged | outputPrepared | outputCommitted | stopReason | interrupted =>
      refine ⟨_, if_neg (by simp [open_]), ⟨agree.items, agree.terminal, agree.cancelling, ?_⟩⟩
      exact interrupted.symm
    | _ => cases finished
  | cancelled unasked =>
    exact ⟨_, if_neg (by simp [open_]), ⟨agree.items, agree.terminal, rfl, interrupted.symm⟩⟩
  | committed found observed completed buffer fresh following after =>
    refine ⟨_, if_neg (by simp [open_]), ⟨?_, agree.terminal, agree.cancelling, interrupted.symm⟩⟩
    exact congrArg (· + 1) agree.items
  | buffered | duplicated | enqueued | progressed | created | sunk | authorized | intended
  | observed | completed | closed | skipped =>
    exact ⟨_, if_neg (by simp [open_]),
      ⟨agree.items, agree.terminal, agree.cancelling, interrupted.symm⟩⟩

/-! All readers over all frames. -/

/-- Every reader of a journal's items and lifecycle accepts what a recovery has come to. -/
def ReadersAt (disk : Disk) (recovery : RecoveryStateV1) (frames : List JournalFrameV1) : Prop :=
  ∃ visit pending inspection, visitFrames disk frames = .ok visit ∧
    pendingFrames frames = .ok pending ∧ inspectFrames frames = .ok inspection ∧
    ItemsAgree recovery visit pending ∧ PositionsAgree recovery frames ∧
    InspectionAgrees recovery inspection frames

/-- A recovery that has met no frame yet, except for its initial nodes. -/
structure RecoveryStateV1.Unread (recovery : RecoveryStateV1) : Prop where
  buffered : recovery.bufferedItems = []
  committed : recovery.committedItemDigests = []
  sequence : recovery.committedItemSequence = 0
  order : recovery.lastCommittedItemOrder = none
  terminal : recovery.terminal = false
  cancelled : recovery.cancellationRequested = false

theorem recoverInitialNodes_unread (references : List BlobRefV1) (recovery : RecoveryStateV1)
    (index : Nat) (unread : recovery.Unread) :
    Passes (recoverInitialNodes env disk recovery index references) RecoveryStateV1.Unread := by
  induction references generalizing recovery index with
  | nil => exact Passes.ok unread
  | cons reference rest ih =>
    refine Passes.bind _ (recoverInitialNode_passes disk recovery index reference) ?_
    intro next enqueues
    obtain ⟨node, _, _, _, _, _, _, rfl⟩ := enqueues
    exact ih _ (index + 1) { unread with }

theorem recoverFirstFrame_unread (body : JournalFrameBodyV1) :
    Passes (recoverFirstFrame env disk body) RecoveryStateV1.Unread := by
  unfold recoverFirstFrame
  split
  · refine Passes.ite (fun _ => Passes.error _) fun _ => ?_
    exact recoverInitialNodes_unread _ _ 0 ⟨rfl, rfl, rfl, rfl, rfl, rfl⟩
  · exact Passes.error _

theorem RecoveryStateV1.Unread.readers (unread : recovery.Unread) :
    ReadersAt disk recovery [] := by
  refine ⟨.initial, [], .initial, rfl, rfl, rfl, ?_, ?_, ?_⟩
  · exact {
      buffered := unread.buffered.symm, pending := unread.buffered.symm
      committed := unread.committed.symm, sequence := unread.sequence.symm
      order := unread.order.symm, count := by rw [unread.committed, unread.sequence]; rfl
      numbered := by rw [unread.sequence]; rfl
      referred := fun entry member => by rw [unread.buffered] at member; cases member }
  · refine ⟨by rw [unread.buffered]; exact List.nodup_nil, fun position => ?_⟩
    rw [unread.buffered]
    exact List.mem_nil_iff position
  · exact ⟨by rw [unread.committed]; rfl, unread.terminal.symm, unread.cancelled.symm, rfl⟩

theorem ReadersAt.step {frame : JournalFrameV1}
    (readers : Readable disk recovery.references → ReadersAt disk recovery older) :
    Passes (recoverFrame env disk recovery isFirst frame.body) fun next =>
      Readable disk next.references → ReadersAt disk next (frame :: older) := by
  refine Passes.mono (recoverFrame_moves frame.body) fun next accepted readable => ?_
  obtain ⟨running, epoch, finalization, _, _, moves⟩ := accepted
  obtain ⟨visit, pending, inspection, visits, pends, inspects, items, positions, lifecycle⟩ :=
    readers fun reference member => readable reference (moves.references member)
  -- The epoch and the output preparation are no concern of the other readers.
  have items : ItemsAgree (recovery.advanced epoch finalization) visit pending := { items with }
  have positions : PositionsAgree (recovery.advanced epoch finalization) older :=
    { positions with }
  have lifecycle : InspectionAgrees (recovery.advanced epoch finalization) inspection older :=
    { lifecycle with }
  obtain ⟨visit', pending', visits', pends', items'⟩ := items.step readable moves
  obtain ⟨inspection', inspects', lifecycle'⟩ := lifecycle.step running moves
  refine ⟨visit', pending', inspection', ?_, ?_, ?_, items', positions.step moves, lifecycle'⟩
  · unfold visitFrames
    rw [visits]
    exact visits'
  · unfold pendingFrames
    rw [pends]
    exact pends'
  · unfold inspectFrames
    rw [inspects]
    exact inspects'

theorem recoverFrames_readers (frames : List JournalFrameV1) :
    Passes (recoverFrames env disk frames) fun recovery =>
      Readable disk recovery.references → ReadersAt disk recovery frames := by
  -- The induction follows the frames from the oldest one on.
  induction frames with
  | nil => exact Passes.error _
  | cons frame older ih =>
    cases older with
    | nil =>
      refine Passes.bind _ (recoverFirstFrame_unread frame.body) fun recovery unread => ?_
      exact ReadersAt.step fun _ => unread.readers
    | cons second oldest => exact Passes.bind _ ih fun recovery readers => ReadersAt.step readers

theorem recoverFrames_terminal (frames : List JournalFrameV1) :
    Passes (recoverFrames env disk frames) fun recovery =>
      ∃ last older, frames = last :: older ∧ recovery.terminal = last.body.event.isTerminal := by
  -- Nothing is accepted behind a terminal frame, so no older frame is one.
  have last (recovery : RecoveryStateV1) (isFirst : Bool) (body : JournalFrameBodyV1) :
      Passes (recoverFrame env disk recovery isFirst body) fun next =>
        next.terminal = body.event.isTerminal := by
    refine Passes.mono (recoverFrame_moves body) fun next accepted => ?_
    obtain ⟨running, epoch, finalization, _, _, moves⟩ := accepted
    have running : (recovery.advanced epoch finalization).terminal = false := running
    generalize body.event = event at moves
    cases moves with
    | ended => rfl
    | passed finished => cases event <;> first | exact running | cases finished
    | _ => exact running
  cases frames with
  | nil => exact Passes.error _
  | cons frame older =>
    cases older with
    | nil =>
      refine Passes.next fun recovery _ => Passes.mono (last recovery true frame.body) ?_
      exact fun next ends => ⟨frame, [], rfl, ends⟩
    | cons second oldest =>
      refine Passes.next fun recovery _ => Passes.mono (last recovery false frame.body) ?_
      exact fun next ends => ⟨frame, second :: oldest, rfl, ends⟩

theorem recoverRunState_passes :
    Passes (recoverRunState env disk) fun recovered => ∃ recovery,
      recoverFrames env disk disk.frames = .ok recovery ∧ Readable disk recovery.references ∧
      recovered.lastSequence = (disk.frames.head?.map fun frame => frame.body.sequence).getD 0 ∧
      recovered.terminal = recovery.terminal ∧
      recovered.interrupted = (!recovery.terminal && journalEndsInterrupted disk.frames) ∧
      recovered.cancellationRequested = recovery.cancellationRequested ∧
      recovered.committedItemCount = recovery.committedItemDigests.length := by
  refine Passes.mapError _ (Passes.next fun recovery recovers => ?_)
  refine Passes.bind _ (validateSpoolPrefix_readable recovery.references) ?_
  exact fun spoolPrefix readable => Passes.ok ⟨recovery, recovers, readable, rfl, rfl, rfl, rfl, rfl⟩

theorem rebuildBufferedItems_positions (entries : List BufferedEntryV1)
    (readable : ∀ entry ∈ entries, ∃ content, readDataBlob disk entry.data = .ok content) :
    ∃ items, rebuildBufferedItems disk entries = .ok items ∧
      items.map BufferedRunItemV1.logicalOrder = entries.map BufferedEntryV1.logicalOrder := by
  induction entries with
  | nil => exact ⟨[], rfl, rfl⟩
  | cons entry rest ih =>
    obtain ⟨content, read⟩ := readable entry List.mem_cons_self
    obtain ⟨items, rebuilt, positions⟩ :=
      ih fun other member => readable other (List.mem_cons_of_mem _ member)
    obtain ⟨item, built, position⟩ : ∃ item, rebuildBufferedItem disk entry = .ok item ∧
        item.logicalOrder = entry.logicalOrder := by
      unfold rebuildBufferedItem
      rw [read]
      exact ⟨_, rfl, rfl⟩
    refine ⟨item :: items, ?_, ?_⟩
    · unfold rebuildBufferedItems
      rw [built, rebuilt]
      rfl
    · rw [List.map_cons, List.map_cons, position, positions]

/-! Paging over the committed items. -/

theorem visitFrames_later (frames : List JournalFrameV1) :
    visitFrames disk frames = frames.reverse.foldlM
      (fun visit frame => visitItemEvent disk visit frame.body.event) .initial := by
  induction frames with
  | nil => rfl
  | cons frame older ih =>
    unfold visitFrames
    rw [List.reverse_cons, List.foldlM_append, ih]
    congr
    funext visit
    cases walked : visitItemEvent disk visit frame.body.event <;>
      simp [List.foldlM, walked, Bind.bind, Except.bind, Pure.pure, Except.pure]

theorem visitItemEvent_items (visit : ItemVisitV1) (event : JournalEventV1) :
    Passes (visitItemEvent disk visit event) fun next =>
      (∃ nodeId digest order sequence item,
        event = .itemCommitted nodeId digest order sequence ∧ next.items = item :: visit.items) ∨
      ((∀ nodeId digest order sequence, event ≠ .itemCommitted nodeId digest order sequence) ∧
        next.items = visit.items) := by
  unfold visitItemEvent
  split
  · exact Passes.ite (fun _ => Passes.error _) fun _ => Passes.ok (.inr ⟨nofun, rfl⟩)
  · exact Passes.ite (fun _ => Passes.error _) fun _ => Passes.ok (.inr ⟨nofun, rfl⟩)
  · split
    · exact Passes.error _
    · refine Passes.ite (fun _ => Passes.error _) fun _ => ?_
      refine Passes.ite (fun _ => Passes.error _) fun _ => ?_
      refine Passes.ite (fun _ => Passes.error _) fun _ => ?_
      exact Passes.next fun item _ => Passes.ok (.inl ⟨_, _, _, _, _, rfl, rfl⟩)
  · rename_i committed
    exact Passes.ok (.inr ⟨committed, rfl⟩)

variable {limit : Nat}

/-- A walk that succeeds fills a page with the committed items it meets. -/
theorem pageFrames_eq {cursor : Nat} (positive : 0 < limit) (later : List JournalFrameV1)
    (visit final : ItemVisitV1) (paged : List CommittedRunItemV1)
    (walks : later.foldlM (fun visit frame => visitItemEvent disk visit frame.body.event) visit = (.ok final : Except RunError ItemVisitV1)) :
    ∃ fresh, final.items = fresh.reverse ++ visit.items ∧
      pageFrames disk cursor limit visit paged later =
        .ok { items := (fillPage CommittedRunItemV1.sequence cursor limit paged fresh).1
              nextAfterSequence :=
                (fillPage CommittedRunItemV1.sequence cursor limit paged fresh).2 } := by
  induction later generalizing visit paged with
  | nil =>
    cases walks
    exact ⟨[], rfl, rfl⟩
  | cons frame rest ih =>
    rw [List.foldlM_cons] at walks
    cases walked : visitItemEvent disk visit frame.body.event with
    | error error => rw [walked] at walks; cases walks
    | ok next =>
      rw [walked] at walks
      unfold pageFrames
      rw [walked]
      dsimp only [Bind.bind, Except.bind]
      rcases visitItemEvent_items visit frame.body.event next walked with
        ⟨nodeId, digest, order, sequence, item, happened, items⟩ | ⟨uncommitted, items⟩
      · rw [happened, items]
        dsimp only
        unfold fillPage
        by_cases before : item.sequence ≤ cursor
        · obtain ⟨fresh, found, fills⟩ := ih next paged walks
          refine ⟨item :: fresh, ?_, ?_⟩
          · rw [found, items, List.reverse_cons, List.append_assoc]
            rfl
          · simp only [if_pos before]
            exact fills
        · simp only [if_neg before]
          by_cases full : limit ≤ paged.length
          · -- A full page has a last item, whose sequence the next page begins behind.
            obtain ⟨last, ends⟩ : ∃ last, paged.getLast? = some last := by
              cases ends : paged.getLast? with
              | some last => exact ⟨last, rfl⟩
              | none =>
                rw [List.getLast?_eq_none_iff.mp ends] at full
                exact absurd full (Nat.not_le_of_lt positive)
            obtain ⟨fresh, found, _⟩ := ih next paged walks
            refine ⟨item :: fresh, ?_, ?_⟩
            · rw [found, items, List.reverse_cons, List.append_assoc]
              rfl
            · simp only [if_neg before, if_pos full, ends]
              rfl
          · obtain ⟨fresh, found, fills⟩ := ih next (paged ++ [item]) walks
            refine ⟨item :: fresh, ?_, ?_⟩
            · rw [found, items, List.reverse_cons, List.append_assoc]
              rfl
            · simp only [if_neg before, if_neg full]
              exact fills
      · obtain ⟨fresh, found, fills⟩ := ih next paged walks
        refine ⟨fresh, by rw [found, items], ?_⟩
        rw [← fills]
        cases happened : frame.body.event <;> first | rfl | exact absurd happened (uncommitted _ _ _ _)

variable {frames : List JournalFrameV1}

theorem readCommittedRunItemsPage_eq {cursor : Nat}
    (reads : recoverJournalFile env disk = .ok frames)
    (visits : visitFrames disk frames = .ok visit) (positive : 0 < limit)
    (bounded : limit ≤ MAX_PAGE_LIMIT) (reached : cursor ≤ MAX_AFTER_SEQUENCE) :
    readCommittedRunItemsPage env disk cursor limit =
      .ok { items := (fillPage CommittedRunItemV1.sequence cursor limit [] visit.items.reverse).1
            nextAfterSequence :=
              (fillPage CommittedRunItemV1.sequence cursor limit [] visit.items.reverse).2 } := by
  rw [visitFrames_later] at visits
  obtain ⟨fresh, items, fills⟩ := pageFrames_eq positive frames.reverse _ visit [] visits
  have items : visit.items.reverse = fresh := by simp [items, ItemVisitV1.initial]
  have cursors : parseInteger cursor "run.items.after_sequence" 0 MAX_AFTER_SEQUENCE = .ok () :=
    if_pos ⟨Int.natCast_nonneg _, Int.ofNat_le.mpr reached⟩
  have limits : parseInteger limit "run.items.limit" 1 MAX_PAGE_LIMIT = .ok () :=
    if_pos ⟨Int.ofNat_le.mpr positive, Int.ofNat_le.mpr bounded⟩
  unfold readCommittedRunItemsPage
  rw [cursors, limits, reads, items]
  exact fills

theorem followPages_eq (reads : recoverJournalFile env disk = .ok frames)
    (visits : visitFrames disk frames = .ok visit) (positive : 0 < limit)
    (bounded : limit ≤ MAX_PAGE_LIMIT)
    (numbers : ∀ item ∈ visit.items.reverse, item.sequence ≤ MAX_AFTER_SEQUENCE)
    (pages cursor : Nat) (reached : cursor ≤ MAX_AFTER_SEQUENCE) (items : List CommittedRunItemV1)
    (paged : readPages CommittedRunItemV1.sequence limit visit.items.reverse pages cursor = some items) :
    followPages env disk limit pages cursor = .ok items := by
  induction pages generalizing cursor items with
  | zero => cases paged
  | succ pages ih =>
    have page := readCommittedRunItemsPage_eq reads visits positive bounded reached
    unfold followPages
    rw [page]
    unfold readPages at paged
    cases fills : fillPage CommittedRunItemV1.sequence cursor limit [] visit.items.reverse with
    | mk held next =>
      rw [fills] at paged
      cases next with
      | none =>
        cases paged
        rfl
      | some next =>
        -- The next page begins behind an item, whose number is one that a cursor may have.
        obtain ⟨item, member, same⟩ := fillPage_next (by rw [fills])
        obtain ⟨rest, follows, rfl⟩ := Option.map_eq_some_iff.mp paged
        have following := ih next (same ▸ numbers item member) rest follows
        dsimp only [Bind.bind, Except.bind]
        rw [following]
        rfl

theorem inspectFrames_count (frames : List JournalFrameV1) :
    Passes (inspectFrames frames) fun inspection => inspection.committedItems ≤ frames.length := by
  induction frames with
  | nil => exact Passes.ok (Nat.le_refl _)
  | cons frame older ih =>
    refine Passes.bind _ ih fun inspection counted => ?_
    unfold inspectFrame
    rw [List.length_cons]
    split
    · exact Passes.ite (fun _ => Passes.error _) fun _ => Passes.ok (Nat.le_succ_of_le counted)
    · refine Passes.ite (fun _ => Passes.error _) fun _ => Passes.ok ?_
      unfold inspectEvent
      split
      · exact Nat.succ_le_succ counted
      all_goals exact Nat.le_succ_of_le counted

theorem journalFileBytes_frames (frames : List JournalFrameV1) :
    (JOURNAL_FRAME_HEADER_BYTES_V1 + JOURNAL_FRAME_TRAILER_BYTES_V1) * frames.length ≤
      journalFileBytes frames := by
  induction frames with
  | nil => exact Nat.le_refl _
  | cons frame older ih =>
    have more : journalFileBytes (frame :: older) =
        frameBytes (canonicalJson frame.body.value) + journalFileBytes older := rfl
    rw [more, List.length_cons]
    unfold frameBytes
    generalize (canonicalJson frame.body.value).length = text
    unfold JOURNAL_FRAME_HEADER_BYTES_V1 JOURNAL_FRAME_TRAILER_BYTES_V1 at ih ⊢
    omega

theorem recoverJournalFile_passes :
    Passes (recoverJournalFile env disk) fun frames =>
      frames = disk.frames ∧ frames.length ≤ MAX_AFTER_SEQUENCE := by
  refine Passes.ite (fun _ => Passes.error _) fun small => Passes.next fun _ _ => Passes.ok ?_
  have bytes := journalFileBytes_frames disk.frames
  unfold JOURNAL_FRAME_HEADER_BYTES_V1 JOURNAL_FRAME_TRAILER_BYTES_V1 at bytes
  unfold MAX_READ_FILE_BYTES at small
  refine ⟨rfl, ?_⟩
  unfold MAX_AFTER_SEQUENCE
  omega

/-! What the readers of one stored run tell of it. -/

/-- The kinds of lifecycle that an inspection tells apart. -/
inductive LifecycleKindV1 where
  | nonterminal
  | interrupted
  | cancelling
  | terminal
  deriving DecidableEq

/-- The kind of a stored run's lifecycle. -/
def StoredRunLifecycleV1.kind : StoredRunLifecycleV1 → LifecycleKindV1
  | .nonterminal _ => .nonterminal
  | .interrupted .. => .interrupted
  | .cancelling .. => .cancelling
  | .terminal .. => .terminal

/-- The kind of lifecycle that a recovery reports. -/
def RecoveredRunStateV1.lifecycleKind (recovered : RecoveredRunStateV1) : LifecycleKindV1 :=
  if recovered.terminal then .terminal
  else if recovered.cancellationRequested then .cancelling
  else if recovered.interrupted then .interrupted
  else .nonterminal

/-- The readers of a stored run tell the same of it as its recovery. -/
structure StoredReadersAgree (env : RunEnvironment) (disk : Disk)
    (recovered : RecoveredRunStateV1) : Prop where
  inspection : ∀ metaDigest, boundMeta disk.frames = some metaDigest →
    ∃ inspection, inspectStoredRun env metaDigest disk = .ok inspection ∧
      inspection.lifecycle.kind = recovered.lifecycleKind ∧
      inspection.committedItemCount = recovered.committedItemCount ∧
      inspection.stateVersion = recovered.lastSequence
  items : ∃ items, readStoredRunItems env disk = .ok items ∧
    items.length = recovered.committedItemCount ∧
    ∀ limit, 0 < limit → limit ≤ MAX_PAGE_LIMIT → ∀ pages, items.length < pages →
      ∃ paged, followPages env disk limit pages 0 = .ok paged ∧
        (paged.map fun entry => entry.item.value) = items ∧
        paged.map CommittedRunItemV1.sequence = List.range' 1 items.length
  pending : ∃ pending, readStoredPendingItems env disk = .ok pending ∧
    (pending.map BufferedRunItemV1.logicalOrder).Nodup ∧
    ∀ position, position ∈ pending.map BufferedRunItemV1.logicalOrder ↔
      Unresolved disk.frames position
  terminal : isRunTerminalOrUnstarted env disk = recovered.terminal

theorem InspectionAgrees.kind {recovered : RecoveredRunStateV1}
    (agree : InspectionAgrees recovery inspection frames)
    (terminal : recovered.terminal = recovery.terminal)
    (interrupted : recovered.interrupted = (!recovery.terminal && journalEndsInterrupted frames))
    (cancelled : recovered.cancellationRequested = recovery.cancellationRequested)
    (lastSequence : Nat) :
    (inspection.lifecycle lastSequence).kind = recovered.lifecycleKind := by
  -- The stronger of two facts is looked at first on both sides.
  unfold InspectionStateV1.lifecycle RecoveredRunStateV1.lifecycleKind
  rw [interrupted, terminal, cancelled, ← agree.terminal, ← agree.cancelling,
    ← agree.interrupted]
  cases inspection.terminal <;> cases inspection.cancelling <;>
    cases inspection.interrupted <;> rfl

theorem inspectStoredRun_eq {metaDigest : Sha256DigestV1} {last : JournalFrameV1}
    (journal : disk.frames = last :: older) (reads : recoverJournalFile env disk = .ok disk.frames)
    (bound : boundMeta disk.frames = some metaDigest)
    (inspects : inspectFrames disk.frames = .ok inspection) :
    inspectStoredRun env metaDigest disk =
      .ok { stateVersion := last.body.sequence
            lifecycle := inspection.lifecycle last.body.sequence
            committedItemCount := inspection.committedItems
            stopReason := inspection.stopReason } := by
  have filled : disk.frames.isEmpty = false := by rw [journal]; rfl
  unfold inspectStoredRun
  rw [reads]
  simp only [Bind.bind, Except.bind, filled, bound, inspects]
  rw [if_neg Bool.false_ne_true, if_neg (fun differs => differs rfl), journal]
  rfl

/-- The pages of a journal hold its committed items, numbered from one on. -/
theorem followPages_items (reads : recoverJournalFile env disk = .ok disk.frames)
    (visits : visitFrames disk disk.frames = .ok visit) (items : ItemsAgree recovery visit pending)
    (few : recovery.committedItemSequence ≤ MAX_AFTER_SEQUENCE) {pages : Nat} (positive : 0 < limit)
    (bounded : limit ≤ MAX_PAGE_LIMIT) (enough : visit.items.reverse.length < pages) :
    followPages env disk limit pages 0 = .ok visit.items.reverse ∧
      visit.items.reverse.map CommittedRunItemV1.sequence =
        List.range' 1 visit.items.reverse.length := by
  have numbers : visit.items.reverse.map CommittedRunItemV1.sequence =
      List.range' 1 recovery.committedItemSequence := by
    rw [List.map_reverse]
    exact items.numbered
  have length : visit.items.reverse.length = recovery.committedItemSequence := by
    have lengths := congrArg List.length numbers
    rwa [List.length_map, List.length_range'] at lengths
  -- The items carry the numbers from one on, so all of them stand behind the first cursor.
  have numbered (entry : CommittedRunItemV1) (member : entry ∈ visit.items.reverse) :
      1 ≤ entry.sequence ∧ entry.sequence < 1 + recovery.committedItemSequence := by
    have inside := List.mem_map_of_mem (f := CommittedRunItemV1.sequence) member
    rwa [numbers, List.mem_range'_1] at inside
  have all : behind CommittedRunItemV1.sequence 0 visit.items.reverse = visit.items.reverse :=
    List.filter_eq_self.mpr fun entry member => decide_eq_true (numbered entry member).1
  have sorted : visit.items.reverse.Pairwise fun one other => one.sequence < other.sequence := by
    have ascending := @List.pairwise_lt_range' 1 recovery.committedItemSequence 1 (by omega)
    rw [← numbers, List.pairwise_map] at ascending
    exact ascending
  have paged := @readPages_eq _ CommittedRunItemV1.sequence 0 limit visit.items.reverse sorted
    positive pages (by rw [all]; exact enough)
  rw [all] at paged
  refine ⟨?_, by rw [numbers, length]⟩
  refine followPages_eq reads visits positive bounded ?_ pages 0 (Nat.zero_le _) _ paged
  intro entry member
  have := numbered entry member
  omega

theorem readStoredPendingItems_positions (reads : recoverJournalFile env disk = .ok disk.frames)
    (pends : pendingFrames disk.frames = .ok pending) (readable : Readable disk recovery.references)
    (items : ItemsAgree recovery visit pending) (positions : PositionsAgree recovery disk.frames) :
    ∃ rebuilt, readStoredPendingItems env disk = .ok rebuilt ∧
      (rebuilt.map BufferedRunItemV1.logicalOrder).Nodup ∧
      ∀ position, position ∈ rebuilt.map BufferedRunItemV1.logicalOrder ↔
        Unresolved disk.frames position := by
  -- Sorting changes only the order in which the entries are read back.
  have sorted := List.perm_insertionSort (fun left right : BufferedEntryV1 =>
    compareItemLogicalOrder left.logicalOrder right.logicalOrder ≤ 0) pending
  have entries : ∀ entry ∈ pending.insertionSort fun left right =>
      compareItemLogicalOrder left.logicalOrder right.logicalOrder ≤ 0,
      ∃ content, readDataBlob disk entry.data = .ok content := by
    intro entry member
    rw [sorted.mem_iff, items.pending] at member
    exact readable _ (items.referred entry member)
  obtain ⟨rebuilt, rebuilds, same⟩ := rebuildBufferedItems_positions _ entries
  have placed := sorted.map BufferedEntryV1.logicalOrder
  rw [← same, items.pending] at placed
  refine ⟨rebuilt, ?_, placed.nodup_iff.mpr positions.distinct, fun position => ?_⟩
  · unfold readStoredPendingItems readPendingBufferedRunItems
    rw [reads, pends]
    exact rebuilds
  · rw [placed.mem_iff]
    exact positions.unresolved position

end Klura
