import Klura.Invariants.StoredReaders
import Klura.Run.Follow
import Klura.Run.Listing

/-! A followed run: what its stream has yielded when it ends, and what it has when it waits. -/

namespace Klura

variable {env : RunEnvironment} {metaDigest : Sha256DigestV1} {disk before after : Disk}

/-! The committed items of a run that is appended to. -/

variable {visit : ItemVisitV1}

theorem visitItemEvent_appended {next : ItemVisitV1} {event : JournalEventV1}
    (reads : ∀ entry ∈ visit.buffered, ∀ content, readDataBlob before entry.data = .ok content → readDataBlob after entry.data = .ok content)
    (accepts : visitItemEvent before visit event = .ok next) :
    visitItemEvent after visit event = .ok next := by
  cases event with
  | itemCommitted nodeId digest order sequence =>
    unfold visitItemEvent at accepts ⊢
    dsimp only at accepts ⊢
    -- Only a commit reads the spool, and it reads the entry it resolves.
    cases found : matchBuffered visit.buffered nodeId digest order with
    | none => rw [found] at accepts; cases accepts
    | some entry =>
      rw [found] at accepts
      dsimp only at accepts ⊢
      split_ifs at accepts ⊢
      cases read : readDataBlob before entry.data with
      | error error => rw [read] at accepts; cases accepts
      | ok content =>
        rw [reads entry (matchBuffered_mem found) content read]
        rw [read] at accepts
        exact accepts
  | _ => exact accepts

theorem visitItemEvent_buffered (visit : ItemVisitV1) (event : JournalEventV1) :
    Passes (visitItemEvent disk visit event) fun next =>
      ∀ entry ∈ next.buffered, entry ∈ visit.buffered ∨ entry.data ∈ event.refersTo := by
  unfold visitItemEvent
  split
  · refine Passes.ite (fun _ => Passes.error _) fun _ => Passes.ok fun entry member => ?_
    rcases List.mem_cons.mp member with rfl | member
    · exact .inr (List.mem_singleton.mpr rfl)
    · exact .inl member
  · exact Passes.ite (fun _ => Passes.error _) fun _ =>
      Passes.ok fun entry member => .inl (dropBuffered_mem member)
  · split
    · exact Passes.error _
    · refine Passes.ite (fun _ => Passes.error _) fun _ => ?_
      refine Passes.ite (fun _ => Passes.error _) fun _ => ?_
      refine Passes.ite (fun _ => Passes.error _) fun _ => ?_
      exact Passes.next fun item _ => Passes.ok fun entry member => .inl (dropBuffered_mem member)
  · exact Passes.ok fun entry member => .inl member

theorem visitFrames_appended (appended : before.Appended after) (frames : List JournalFrameV1)
    (inside : ∀ frame ∈ frames, frame ∈ before.frames)
    (walks : visitFrames before frames = .ok visit) :
    visitFrames after frames = .ok visit ∧
      ∀ entry ∈ visit.buffered, ∃ frame ∈ frames, entry.data ∈ frame.body.event.refersTo := by
  -- The induction keeps where each buffered entry comes from, so that it still reads back.
  induction frames generalizing visit with
  | nil =>
    cases walks
    exact ⟨rfl, fun entry member => absurd member List.not_mem_nil⟩
  | cons frame older ih =>
    unfold visitFrames at walks ⊢
    cases walked : visitFrames before older with
    | error error => rw [walked] at walks; cases walks
    | ok earlier =>
      rw [walked] at walks
      obtain ⟨same, known⟩ := ih (fun other member => inside other (by simp [member])) walked
      rw [same]
      refine ⟨visitItemEvent_appended ?_ walks, fun entry member => ?_⟩
      · intro entry member content reads
        obtain ⟨source, earlier, refers⟩ := known entry member
        exact appended.reads source (inside source (by simp [earlier])) _ refers content reads
      · rcases visitItemEvent_buffered earlier frame.body.event visit walks entry member with
          old | new
        · obtain ⟨source, earlier, refers⟩ := known entry old
          exact ⟨source, by simp [earlier], refers⟩
        · exact ⟨frame, by simp, new⟩

theorem visitFrames_newer (newer : List JournalFrameV1) {older : List JournalFrameV1}
    (walks : visitFrames disk (newer ++ older) = .ok visit) :
    ∃ earlier added, visitFrames disk older = .ok earlier ∧ visit.items = added ++ earlier.items := by
  induction newer generalizing visit with
  | nil => exact ⟨visit, [], walks, rfl⟩
  | cons frame rest ih =>
    rw [List.cons_append, visitFrames] at walks
    cases walked : visitFrames disk (rest ++ older) with
    | error error => rw [walked] at walks; cases walks
    | ok middle =>
      rw [walked] at walks
      obtain ⟨earlier, added, walks', items⟩ := ih walked
      rcases visitItemEvent_items middle frame.body.event visit walks with
        ⟨_, _, _, _, item, _, more⟩ | ⟨_, same⟩
      · exact ⟨earlier, item :: added, walks', by rw [more, items, List.cons_append]⟩
      · exact ⟨earlier, added, walks', by rw [same, items]⟩

/-- The committed items of a stored run. -/
def storedItems (disk : Disk) : List CommittedRunItemV1 :=
  match visitCommittedRunItems disk with
  | .ok items => items
  | .error _ => []

theorem committedCount_eq (disk : Disk) : committedCount disk = (storedItems disk).length := by
  unfold committedCount storedItems
  cases visitCommittedRunItems disk <;> rfl

/-- The way a stored run has come to its end, when it has. -/
def followedEndOf (env : RunEnvironment) (metaDigest : Sha256DigestV1) (disk : Disk) :
    Option FollowedEndV1 :=
  match inspectStoredRun env metaDigest disk with
  | .ok inspection => inspection.lifecycle.followedEnd
  | .error _ => none

/-- What the readers of a stored run return: an inspection, and pages of items numbered from one. -/
structure StoredReads (env : RunEnvironment) (metaDigest : Sha256DigestV1) (disk : Disk) : Prop where
  visits : ∃ visit, visitFrames disk disk.frames = .ok visit
  inspects : ∃ inspection, inspectStoredRun env metaDigest disk = .ok inspection
  numbered : (storedItems disk).map CommittedRunItemV1.sequence =
    List.range' 1 (storedItems disk).length
  few : (storedItems disk).length ≤ MAX_AFTER_SEQUENCE
  pages : ∀ cursor ≤ MAX_AFTER_SEQUENCE,
    readCommittedRunItemsPage env disk cursor FOLLOW_PAGE_LIMIT =
      .ok { items := (fillPage CommittedRunItemV1.sequence cursor FOLLOW_PAGE_LIMIT []
              (storedItems disk)).1
            nextAfterSequence := (fillPage CommittedRunItemV1.sequence cursor FOLLOW_PAGE_LIMIT []
              (storedItems disk)).2 }

/-- Every stored run can be read. -/
theorem Stored.reads (stored : Stored env metaDigest disk) : StoredReads env metaDigest disk := by
  obtain ⟨bound, recovered, recovers⟩ := stored
  unfold recoverStoredRun at recovers
  cases reads : recoverJournalFile env disk with
  | error error => rw [reads] at recovers; cases recovers
  | ok frames =>
    rw [reads] at recovers
    obtain ⟨rfl, short⟩ := recoverJournalFile_passes frames reads
    obtain ⟨recovery, walks, readable, -⟩ := recoverRunState_passes recovered recovers
    obtain ⟨visit, pending, inspection, visits, pends, inspects, items, positions, lifecycle⟩ :=
      recoverFrames_readers disk.frames recovery walks readable
    obtain ⟨last, older, journal, -⟩ := recoverFrames_terminal disk.frames recovery walks
    have listed : storedItems disk = visit.items.reverse := by
      unfold storedItems visitCommittedRunItems
      rw [visits]
      rfl
    have numbers : (storedItems disk).map CommittedRunItemV1.sequence =
        List.range' 1 recovery.committedItemSequence := by
      rw [listed, List.map_reverse]
      exact items.numbered
    have length : (storedItems disk).length = recovery.committedItemSequence := by
      have lengths := congrArg List.length numbers
      rwa [List.length_map, List.length_range'] at lengths
    refine ⟨⟨visit, visits⟩, ⟨_, inspectStoredRun_eq journal reads bound inspects⟩, ?_, ?_, ?_⟩
    · rw [length]
      exact numbers
    · -- Every committed item has a frame of its own, and the file cannot hold too many frames.
      have inspected : inspection.committedItems ≤ disk.frames.length :=
        inspectFrames_count disk.frames inspection inspects
      rw [length, ← items.count, ← lifecycle.items]
      exact Nat.le_trans inspected short
    · intro cursor reached
      rw [listed]
      exact readCommittedRunItemsPage_eq reads visits (by decide) (Nat.le_refl _) reached

theorem storedItems_appended (appended : before.Appended after)
    (reads : StoredReads env metaDigest before) (reads' : StoredReads env metaDigest after) :
    storedItems before <+: storedItems after := by
  obtain ⟨visit, walks⟩ := reads.visits
  obtain ⟨visit', walks'⟩ := reads'.visits
  obtain ⟨newer, frames⟩ := appended.frames
  have same := (visitFrames_appended appended before.frames (fun _ member => member) walks).1
  rw [frames] at walks'
  obtain ⟨earlier, added, older, items⟩ := visitFrames_newer newer walks'
  rw [same] at older
  cases older
  unfold storedItems visitCommittedRunItems
  rw [frames, walks, walks']
  refine ⟨added.reverse, ?_⟩
  simp [Except.map, items]

theorem StoredReads.behind (reads : StoredReads env metaDigest disk) (cursor : Nat) :
    behind CommittedRunItemV1.sequence cursor (storedItems disk) =
      (storedItems disk).drop cursor := by
  have general : ∀ (items : List CommittedRunItemV1) (start : Nat),
      items.map CommittedRunItemV1.sequence = List.range' (start + 1) items.length →
      items.filter (fun entry => decide (cursor < entry.sequence)) = items.drop (cursor - start) := by
    intro items
    induction items with
    | nil => simp
    | cons item rest ih =>
      intro start numbers
      rw [List.map_cons, List.length_cons, List.range'_succ, List.cons.injEq] at numbers
      have tail := ih (start + 1) numbers.2
      rw [List.filter_cons, tail, numbers.1]
      by_cases later : cursor < start + 1
      · have none : cursor - start = 0 := by omega
        have none' : cursor - (start + 1) = 0 := by omega
        simp [later, none, none']
      · have more : cursor - start = cursor - (start + 1) + 1 := by omega
        simp [later, more]
  have numbers := reads.numbered
  exact general (storedItems disk) 0 numbers

/-! What the generator has seen of the run. -/

/-- The items of the last page that are still to be yielded. -/
def FollowStageV1.queued : FollowStageV1 → List CommittedRunItemV1
  | .yielding items _ => items
  | _ => []

/-- Whether the last page was read to its end and nothing has been read since. -/
def FollowStageV1.pageDone : FollowStageV1 → Bool
  | .yielding _ none | .inspecting | .awaiting | .waiting | .ended .. => true
  | _ => false

/-- Whether the lifecycle was read and the run was not over. -/
def FollowStageV1.sawRunning : FollowStageV1 → Bool
  | .awaiting | .waiting => true
  | _ => false

/-- Whether a change is on its way to the generator. -/
def FollowedRunV1.stirred (state : FollowedRunV1) : Prop :=
  state.owed = true ∨ state.follow.watcher.changed = true

/-- What holds of a followed run between any two steps. -/
structure Following (env : RunEnvironment) (metaDigest : Sha256DigestV1) (start : Nat)
    (state : FollowedRunV1) : Prop where
  stored : Stored env metaDigest state.disk
  /-- What is yielded and queued comes first among the items behind the start. -/
  delivered : state.follow.yielded ++ state.follow.stage.queued <+: (storedItems state.disk).drop start
  cursor : state.follow.afterSequence = start + state.follow.yielded.length
  bounded : state.follow.stage = .opening ∨ start ≤ MAX_AFTER_SEQUENCE ∨
    ∃ error, state.follow.stage = .failed error
  seen : state.seen ≤ (storedItems state.disk).length
  /-- A page that was read to its end held everything that was there. -/
  caught : state.follow.stage.pageDone = true →
    state.follow.yielded ++ state.follow.stage.queued =
      ((storedItems state.disk).take state.seen).drop start
  /-- What was not there then has stirred the watcher. -/
  fresh : state.follow.stage.pageDone = true → (∀ lifecycle last,
      state.follow.stage ≠ .ended lifecycle last) →
    state.seen = (storedItems state.disk).length ∨ state.stirred
  running : state.follow.stage.sawRunning = true →
    followedEndOf env metaDigest state.disk = none ∨ state.stirred
  settled : state.follow.stage = .waiting → state.follow.watcher.changed = false
  finished : ∀ lifecycle last, state.follow.stage = .ended lifecycle last →
    followedEndOf env metaDigest state.disk = some lifecycle ∧ last = state.follow.afterSequence
  sound : ∀ error, state.follow.stage = .failed error →
    state.follow.watcher.failure = true ∨ MAX_AFTER_SEQUENCE < start

namespace Following

variable {start : Nat} {state : FollowedRunV1}

theorem initial (stored : Stored env metaDigest disk) :
    Following env metaDigest start
      { disk, follow := .initial start, owed := false, seen := 0 } := by
  constructor
  · exact stored
  · exact List.nil_prefix
  · rfl
  · exact .inl rfl
  · exact Nat.zero_le _
  all_goals nofun

theorem append (following : Following env metaDigest start state)
    (live : state.follow.closed = false) (appended : state.disk.Appended after)
    (stored : Stored env metaDigest after) :
    Following env metaDigest start { state with disk := after, owed := true } := by
  have grows := storedItems_appended appended following.stored.reads stored.reads
  obtain ⟨added, items⟩ := grows
  constructor
  · exact stored
  · apply following.delivered.trans
    rw [← items, List.drop_append]
    exact List.prefix_append _ _
  · exact following.cursor
  · exact following.bounded
  · have seen := following.seen
    dsimp only
    rw [← items, List.length_append]
    omega
  · intro done
    dsimp only
    -- The items that the last page saw are still the first ones.
    rw [← items, List.take_append_of_le_length following.seen]
    exact following.caught done
  · exact fun _ _ => .inr (.inl rfl)
  · exact fun _ => .inr (.inl rfl)
  · exact following.settled
  · intro lifecycle last ended
    dsimp only at ended
    simp [FollowItemsV1.closed, ended] at live
  · exact following.sound

variable {follow : FollowItemsV1}

/-- What holds of a generator whose stage and watcher change is what it depended on. -/
theorem restage (following : Following env metaDigest start state) {owed : Bool}
    (cursor : follow.afterSequence = state.follow.afterSequence)
    (yielded : follow.yielded = state.follow.yielded)
    (queued : follow.stage.queued = state.follow.stage.queued)
    (bounded : follow.stage = .opening ∨ start ≤ MAX_AFTER_SEQUENCE ∨ ∃ error, follow.stage = .failed error)
    (done : follow.stage.pageDone = true → state.follow.stage.pageDone = true)
    (fresh : follow.stage.pageDone = true → (∀ lifecycle last, follow.stage ≠ .ended lifecycle last) → state.seen = (storedItems state.disk).length ∨ owed = true ∨ follow.watcher.changed = true)
    (running : follow.stage.sawRunning = true → followedEndOf env metaDigest state.disk = none ∨ owed = true ∨ follow.watcher.changed = true)
    (settled : follow.stage = .waiting → follow.watcher.changed = false)
    (finished : ∀ lifecycle last, follow.stage = .ended lifecycle last → followedEndOf env metaDigest state.disk = some lifecycle ∧ last = follow.afterSequence)
    (sound : ∀ error, follow.stage = .failed error → follow.watcher.failure = true ∨ MAX_AFTER_SEQUENCE < start) :
    Following env metaDigest start { state with follow, owed } := by
  constructor
  · exact following.stored
  · dsimp only
    rw [yielded, queued]
    exact following.delivered
  · dsimp only
    rw [cursor, yielded]
    exact following.cursor
  · exact bounded
  · exact following.seen
  · intro ends
    dsimp only at ends ⊢
    rw [yielded, queued]
    exact following.caught (done ends)
  · exact fresh
  · exact running
  · exact settled
  · exact finished
  · exact sound

/-- A notification wakes the generator or is remembered. -/
theorem notify (following : Following env metaDigest start state) :
    Following env metaDigest start { state with follow := state.follow.notified, owed := false } := by
  have bounded := following.bounded
  have finished := following.finished
  have sound := following.sound
  unfold FollowItemsV1.notified
  split
  · rename_i waiting
    rw [waiting] at bounded
    apply following.restage
    · rfl
    · rfl
    · rw [waiting]
      rfl
    · right
      left
      simpa using bounded
    all_goals nofun
  · rename_i opening
    apply following.restage
    · rfl
    · rfl
    · rfl
    · exact bounded
    · exact id
    · rw [opening]
      nofun
    · rw [opening]
      nofun
    · exact following.settled
    · exact finished
    · exact sound
  · rename_i waits opens
    apply following.restage
    · rfl
    · rfl
    · rfl
    · exact bounded
    · exact id
    · exact fun _ _ => .inr (.inr rfl)
    · exact fun _ => .inr (.inr rfl)
    · exact fun waiting => absurd waiting waits
    · exact finished
    · exact sound

theorem breakWatcher (following : Following env metaDigest start state) :
    Following env metaDigest start { state with follow := state.follow.broken } := by
  have bounded := following.bounded
  unfold FollowItemsV1.broken
  dsimp only
  split
  · rename_i waiting
    apply following.restage
    · rfl
    · rfl
    · rw [waiting]
      rfl
    · exact .inr (.inr ⟨_, rfl⟩)
    · nofun
    · nofun
    · nofun
    · nofun
    · nofun
    · exact fun _ _ => .inl rfl
  · exact following.restage rfl rfl rfl bounded id following.fresh following.running
      following.settled following.finished fun _ _ => .inl rfl

theorem abort (following : Following env metaDigest start state) :
    Following env metaDigest start { state with follow := state.follow.abort } := by
  have bounded := following.bounded
  unfold FollowItemsV1.abort
  split
  · rename_i waiting
    rw [waiting] at bounded
    apply following.restage
    · rfl
    · rfl
    · rw [waiting]
      rfl
    · right
      left
      simpa using bounded
    all_goals nofun
  · exact following.restage rfl rfl rfl bounded id following.fresh following.running
      following.settled following.finished following.sound

/-- Between two pages the generator holds nothing of what it depended on. -/
theorem idle (following : Following env metaDigest start state) (stage : FollowStageV1)
    (changed : Bool) (empty : state.follow.stage.queued = [])
    (queued : stage.queued = []) (done : stage.pageDone = false) (saw : stage.sawRunning = false)
    (bounded : stage = .opening ∨ start ≤ MAX_AFTER_SEQUENCE ∨ ∃ error, stage = .failed error)
    (sound : ∀ error, stage = .failed error →
      state.follow.watcher.failure = true ∨ MAX_AFTER_SEQUENCE < start) :
    Following env metaDigest start { state with
      follow := { state.follow with
        watcher := { state.follow.watcher with changed }
        stage } } := by
  apply following.restage
  · rfl
  · rfl
  · rw [empty]
    exact queued
  · exact bounded
  · intro ends
    rw [done] at ends
    cases ends
  · intro ends
    rw [done] at ends
    cases ends
  · intro ends
    rw [saw] at ends
    cases ends
  · intro waits
    dsimp only at waits
    rw [waits] at saw
    cases saw
  · intro lifecycle last ends
    dsimp only at ends
    rw [ends] at done
    cases done
  · exact sound

theorem cursor_bounded (following : Following env metaDigest start state)
    (small : start ≤ MAX_AFTER_SEQUENCE) : state.follow.afterSequence ≤ MAX_AFTER_SEQUENCE := by
  have few := following.stored.reads.few
  have long := following.delivered.length_le
  rw [List.length_append, List.length_drop] at long
  rw [following.cursor]
  omega

theorem behind_cursor (following : Following env metaDigest start state)
    (empty : state.follow.stage.queued = []) :
    (storedItems state.disk).drop start = state.follow.yielded ++
      behind CommittedRunItemV1.sequence state.follow.afterSequence (storedItems state.disk) := by
  have delivered := following.delivered
  rw [empty, List.append_nil] at delivered
  obtain ⟨later, splits⟩ := delivered
  rw [following.stored.reads.behind, following.cursor, ← List.drop_drop, ← splits,
    List.drop_left]

/-- A page holds the first items behind the cursor, all of them when it names no next one. -/
theorem page (following : Following env metaDigest start state)
    (paging : state.follow.stage = .paging) (small : start ≤ MAX_AFTER_SEQUENCE) :
    Following env metaDigest start { state with
      follow := { state.follow with
        stage := .yielding
          (fillPage CommittedRunItemV1.sequence state.follow.afterSequence FOLLOW_PAGE_LIMIT []
            (storedItems state.disk)).1
          (fillPage CommittedRunItemV1.sequence state.follow.afterSequence FOLLOW_PAGE_LIMIT []
            (storedItems state.disk)).2 }
      seen := committedCount state.disk } := by
  have splits := following.behind_cursor (by rw [paging]; rfl)
  have filled := @fillPage_eq _ CommittedRunItemV1.sequence state.follow.afterSequence
    FOLLOW_PAGE_LIMIT (storedItems state.disk) [] (Nat.zero_le _)
  simp only [List.length_nil, Nat.zero_add, Nat.sub_zero, List.nil_append] at filled
  rw [filled]
  set left := behind CommittedRunItemV1.sequence state.follow.afterSequence
    (storedItems state.disk) with leftDefined
  constructor
  · exact following.stored
  · dsimp only [FollowStageV1.queued]
    rw [splits, List.prefix_append_right_inj]
    exact List.take_prefix _ _
  · exact following.cursor
  · exact .inr (.inl small)
  · exact Nat.le_of_eq (committedCount_eq _)
  · intro done
    dsimp only [FollowStageV1.queued] at done ⊢
    rw [committedCount_eq, List.take_length, splits]
    congr 1
    -- A page that leaves items behind names the cursor of the next one.
    by_cases more : FOLLOW_PAGE_LIMIT < left.length
    · exfalso
      rw [if_pos more] at done
      have some_ : (left.take FOLLOW_PAGE_LIMIT).getLast? ≠ none := by
        rw [Ne, List.getLast?_eq_none_iff, List.take_eq_nil_iff, not_or]
        refine ⟨by decide, fun empty => ?_⟩
        rw [empty] at more
        exact absurd more (Nat.not_lt_zero _)
      obtain ⟨last, found⟩ := Option.ne_none_iff_exists'.mp some_
      rw [found] at done
      cases done
    · exact List.take_of_length_le (Nat.le_of_not_lt more)
  · intro _ _
    exact .inl (committedCount_eq _)
  · nofun
  · nofun
  · nofun
  · nofun

/-- Yielding an item moves it from the page to what was yielded, and the cursor behind it. -/
theorem yieldItem (following : Following env metaDigest start state) {item : CommittedRunItemV1}
    {rest : List CommittedRunItemV1} {next : Option Nat}
    (yields : state.follow.stage = .yielding (item :: rest) next) :
    Following env metaDigest start { state with
      follow := { state.follow with
        afterSequence := item.sequence
        yielded := state.follow.yielded ++ [item]
        stage := .yielding rest next } } := by
  have delivered := following.delivered
  have caught := following.caught
  have fresh := following.fresh
  have bounded := following.bounded
  rw [yields] at delivered caught fresh bounded
  have same : (FollowStageV1.yielding (item :: rest) next).pageDone =
      (FollowStageV1.yielding rest next).pageDone := by cases next <;> rfl
  -- The items are numbered from one on, so the item's place tells its sequence.
  have place : item.sequence = start + state.follow.yielded.length + 1 := by
    obtain ⟨later, splits⟩ := delivered
    have found : (storedItems state.disk)[start + state.follow.yielded.length]? = some item := by
      rw [← List.getElem?_drop, ← splits, List.append_assoc,
        List.getElem?_append_right (Nat.le_refl _), Nat.sub_self]
      rfl
    have numbers := congrArg (fun list => list[start + state.follow.yielded.length]?)
      following.stored.reads.numbered
    obtain ⟨within, -⟩ := List.getElem?_eq_some_iff.mp found
    simp only [List.getElem?_map, found, Option.map_some,
      List.getElem?_range' within, Option.some.injEq] at numbers
    omega
  constructor
  · exact following.stored
  · dsimp only [FollowStageV1.queued] at delivered ⊢
    rw [List.append_assoc]
    exact delivered
  · dsimp only
    rw [place, List.length_append, List.length_singleton, Nat.add_assoc]
  · simp only [reduceCtorEq, false_or, exists_false, or_false] at bounded
    exact .inr (.inl bounded)
  · exact following.seen
  · intro done
    dsimp only [FollowStageV1.queued] at caught ⊢
    rw [List.append_assoc]
    exact caught (same.trans done)
  · intro done _
    exact fresh (same.trans done) nofun
  · nofun
  · nofun
  · nofun
  · nofun

/-- A step of the generator keeps what holds of it. -/
theorem advance (following : Following env metaDigest start state)
    (advances : state.follow.advance env metaDigest state.disk = some follow) :
    Following env metaDigest start { state with
      follow
      seen := match state.follow.stage with
        | .paging => committedCount state.disk
        | _ => state.seen } := by
  have reads := following.stored.reads
  obtain ⟨inspection, inspects⟩ := reads.inspects
  have bounded := following.bounded
  have ends : followedEndOf env metaDigest state.disk = inspection.lifecycle.followedEnd := by
    unfold followedEndOf
    rw [inspects]
  unfold FollowItemsV1.advance at advances
  cases stage : state.follow.stage with
  | opening =>
    rw [stage] at advances
    dsimp only at advances ⊢
    unfold parseInteger at advances
    have cursor : state.follow.afterSequence = start + state.follow.yielded.length :=
      following.cursor
    split_ifs at advances with accepted
    · dsimp only at advances
      rw [inspects] at advances
      cases advances
      apply following.idle _ state.follow.watcher.changed (by rw [stage]; rfl) rfl rfl rfl
      · have small : state.follow.afterSequence ≤ MAX_AFTER_SEQUENCE := Int.ofNat_le.mp accepted.2
        exact .inr (.inl (by omega))
      · nofun
    · cases advances
      apply following.idle _ state.follow.watcher.changed (by rw [stage]; rfl) rfl rfl rfl
      · exact .inr (.inr ⟨_, rfl⟩)
      · -- The sequence is only refused when it is too large to start from.
        intro error _
        right
        by_contra small
        have within := following.cursor_bounded (Nat.le_of_not_lt small)
        exact accepted ⟨Int.natCast_nonneg _, Int.ofNat_le.mpr within⟩
  | looping =>
    rw [stage] at advances bounded
    simp only [reduceCtorEq, false_or, exists_false, or_false] at bounded
    dsimp only at advances ⊢
    have idle (next : FollowStageV1) := following.idle next state.follow.watcher.changed
      (by rw [stage]; rfl)
    split_ifs at advances
    · cases advances
      exact idle .returned rfl rfl rfl (.inr (.inl bounded)) nofun
    · cases advances
      exact idle .checking rfl rfl rfl (.inr (.inl bounded)) nofun
  | checking =>
    rw [stage] at advances bounded
    simp only [reduceCtorEq, false_or, exists_false, or_false] at bounded
    dsimp only at advances ⊢
    rw [inspects] at advances
    cases advances
    exact following.idle .paging state.follow.watcher.changed (by rw [stage]; rfl)
      rfl rfl rfl (.inr (.inl bounded)) nofun
  | paging =>
    rw [stage] at advances bounded
    simp only [reduceCtorEq, false_or, exists_false, or_false] at bounded
    dsimp only at advances ⊢
    rw [reads.pages _ (following.cursor_bounded bounded)] at advances
    cases advances
    exact following.page stage bounded
  | yielding items next =>
    rw [stage] at advances bounded
    simp only [reduceCtorEq, false_or, exists_false, or_false] at bounded
    cases items with
    | cons item rest =>
      cases advances
      exact following.yieldItem stage
    | nil =>
      cases next with
      | some cursor =>
        cases advances
        exact following.idle .checking state.follow.watcher.changed (by rw [stage]; rfl)
          rfl rfl rfl (.inr (.inl bounded)) nofun
      | none =>
        cases advances
        apply following.restage
        · rfl
        · rfl
        · rw [stage]
          rfl
        · exact .inr (.inl bounded)
        · rw [stage]
          exact id
        · exact fun _ _ => following.fresh (by rw [stage]; rfl) (by rw [stage]; nofun)
        · nofun
        · nofun
        · nofun
        · nofun
  | inspecting =>
    rw [stage] at advances bounded
    simp only [reduceCtorEq, false_or, exists_false, or_false] at bounded
    dsimp only at advances ⊢
    rw [inspects] at advances
    dsimp only at advances
    have caught := following.fresh (by rw [stage]; rfl) (by rw [stage]; nofun)
    cases finished : inspection.lifecycle.followedEnd with
    | some lifecycle =>
      rw [finished] at advances ends
      cases advances
      apply following.restage
      · rfl
      · rfl
      · rw [stage]
        rfl
      · exact .inr (.inl bounded)
      · rw [stage]
        exact id
      · intro _ open_
        exact absurd rfl (open_ _ _)
      · nofun
      · nofun
      · intro lifecycle' last ended
        cases ended
        exact ⟨ends, rfl⟩
      · nofun
    | none =>
      rw [finished] at advances ends
      cases advances
      apply following.restage
      · rfl
      · rfl
      · rw [stage]
        rfl
      · exact .inr (.inl bounded)
      · rw [stage]
        exact id
      · exact fun _ _ => caught
      · exact fun _ => .inl ends
      · nofun
      · nofun
      · nofun
  | awaiting =>
    rw [stage] at advances bounded
    simp only [reduceCtorEq, false_or, exists_false, or_false] at bounded
    dsimp only at advances ⊢
    have caught := following.fresh (by rw [stage]; rfl) (by rw [stage]; nofun)
    have running := following.running (by rw [stage]; rfl)
    have idle (next : FollowStageV1) (changed : Bool) := following.idle next changed
      (by rw [stage]; rfl)
    split_ifs at advances with aborted failure changed
    · cases advances
      exact idle .returned _ rfl rfl rfl (.inr (.inl bounded)) nofun
    · cases advances
      exact idle (.failed _) _ rfl rfl rfl (.inr (.inr ⟨_, rfl⟩)) fun _ _ => .inl failure
    · cases advances
      exact idle .looping false rfl rfl rfl (.inr (.inl bounded)) nofun
    · -- Nothing has stirred the watcher since the last page, unless an append is still to be told.
      cases advances
      apply following.restage
      · rfl
      · rfl
      · rw [stage]
        rfl
      · exact .inr (.inl bounded)
      · rw [stage]
        exact id
      · exact fun _ _ => caught
      · exact fun _ => running
      · intro _
        dsimp only
        simpa using changed
      · nofun
      · nofun
  | waiting =>
    rw [stage] at advances
    cases advances
  | ended lifecycle last =>
    rw [stage] at advances
    cases advances
  | returned =>
    rw [stage] at advances
    cases advances
  | failed error =>
    rw [stage] at advances
    cases advances

theorem step {event : FollowEventV1} {next : FollowedRunV1}
    (following : Following env metaDigest start state)
    (steps : (followMachine env metaDigest start).step state event next) :
    Following env metaDigest start next := by
  obtain ⟨live, steps⟩ := steps
  cases event with
  | append disk =>
    obtain ⟨appended, stored, rfl⟩ := steps
    exact following.append live appended stored
  | notify =>
    cases steps
    exact following.notify
  | breakWatcher =>
    cases steps
    exact following.breakWatcher
  | abort =>
    cases steps
    exact following.abort
  | advance =>
    obtain ⟨follow, advances, rfl⟩ := steps
    exact following.advance advances

theorem reached {allowed : FollowedRunV1 → FollowEventV1 → Prop}
    (reached : (followMachine env metaDigest start).Reaches allowed state) :
    Following env metaDigest start state := by
  apply reached.invariant
  · intro state starts
    obtain ⟨disk, follow, owed, seen⟩ := state
    obtain ⟨stored, rfl, rfl, rfl⟩ := starts
    exact initial stored
  · exact fun _ _ _ _ steps following => following.step steps

theorem behind_start (following : Following env metaDigest start state) :
    ((storedItems state.disk).filter fun item => decide (start < item.sequence)) =
      (storedItems state.disk).drop start :=
  following.stored.reads.behind start

theorem sequences (following : Following env metaDigest start state) :
    state.follow.yielded.map CommittedRunItemV1.sequence =
      List.range' (start + 1) state.follow.yielded.length := by
  obtain ⟨later, splits⟩ := following.delivered
  have numbers := congrArg (List.drop start) following.stored.reads.numbered
  rw [← List.map_drop, ← splits, List.drop_range'] at numbers
  have front := congrArg (List.take state.follow.yielded.length) numbers
  have long := following.delivered.length_le
  rw [List.length_append, List.length_drop] at long
  rw [← List.map_take, List.append_assoc, List.take_left,
    List.take_range'_of_length_ge (by omega), Nat.mul_one, Nat.add_comm] at front
  exact front

theorem last_sequence (following : Following env metaDigest start state) :
    state.follow.afterSequence =
      (state.follow.yielded.getLast?.map CommittedRunItemV1.sequence).getD start := by
  rw [following.cursor, ← List.getLast?_map, following.sequences, List.getLast?_range']
  cases state.follow.yielded.length with
  | zero => rfl
  | succ count =>
    simp
    omega

end Following

/-- Whether a lifecycle read that finds the run over comes before any item behind the start was
    committed that the last page has not seen. -/
def InspectsInTime (env : RunEnvironment) (metaDigest : Sha256DigestV1) (start : Nat)
    (state : FollowedRunV1) (event : FollowEventV1) : Prop :=
  match event, state.follow.stage with
  | .advance, .inspecting => followedEndOf env metaDigest state.disk = none ∨
      committedCount state.disk ≤ max start state.seen
  | _, _ => True

/-- What following a run from a sequence on promises of the items it yields. -/
structure FollowsItems (env : RunEnvironment) (metaDigest : Sha256DigestV1) (start : Nat)
    (state : FollowedRunV1) : Prop where
  /-- At the end event every committed item behind the start was yielded, once and in order. -/
  ended : ∀ lifecycle last, state.follow.stage = .ended lifecycle last →
    followedEndOf env metaDigest state.disk = some lifecycle ∧
    ∃ items, visitCommittedRunItems state.disk = .ok items ∧
      state.follow.yielded = items.filter (fun item => decide (start < item.sequence)) ∧
      state.follow.yielded.map CommittedRunItemV1.sequence =
        List.range' (start + 1) state.follow.yielded.length ∧
      last = ((items.filter fun item => decide (start < item.sequence)).getLast?.map
        CommittedRunItemV1.sequence).getD start
  /-- A stream that waits with no notification on its way has yielded all there is. -/
  waiting : state.follow.stage = .waiting → state.owed = false →
    followedEndOf env metaDigest state.disk = none ∧
    ∃ items, visitCommittedRunItems state.disk = .ok items ∧
      state.follow.yielded = items.filter fun item => decide (start < item.sequence)
  /-- The stream fails only with its watcher or for a sequence out of bounds. -/
  failed : ∀ error, state.follow.stage = .failed error →
    state.follow.watcher.failure = true ∨ MAX_AFTER_SEQUENCE < start

theorem Stored.visits (stored : Stored env metaDigest disk) :
    visitCommittedRunItems disk = .ok (storedItems disk) := by
  obtain ⟨visit, walks⟩ := stored.reads.visits
  unfold storedItems visitCommittedRunItems
  rw [walks]
  rfl

variable {lifecycle : FollowedEndV1}

theorem Following.ended_iff {start : Nat} {state : FollowedRunV1}
    (following : Following env metaDigest start state) {last : Nat}
    (ended : state.follow.stage = .ended lifecycle last) :
    state.follow.yielded = (storedItems state.disk).drop start ↔
      committedCount state.disk ≤ max start state.seen := by
  have caught := following.caught (by rw [ended]; rfl)
  have seen := following.seen
  rw [ended] at caught
  simp only [FollowStageV1.queued, List.append_nil] at caught
  rw [caught, committedCount_eq]
  constructor
  · intro same
    have lengths := congrArg List.length same
    simp only [List.length_drop, List.length_take] at lengths
    omega
  · intro early
    by_cases all : (storedItems state.disk).length ≤ state.seen
    · rw [List.take_of_length_le all]
    · -- Neither what the page saw nor what came later reaches behind the start.
      rw [List.drop_eq_nil_of_le (by rw [List.length_take]; omega),
        List.drop_eq_nil_of_le (by omega)]

variable {next : FollowedRunV1}

/-- Only a lifecycle read that finds the run over yields the end event, and it changes no more. -/
theorem ended_step {start : Nat} {state : FollowedRunV1} {event : FollowEventV1}
    (steps : (followMachine env metaDigest start).step state event next) {last : Nat}
    (ended : next.follow.stage = .ended lifecycle last) :
    event = .advance ∧ state.follow.stage = .inspecting ∧ next.disk = state.disk ∧
      next.seen = state.seen ∧ followedEndOf env metaDigest state.disk = some lifecycle := by
  obtain ⟨live, steps⟩ := steps
  have unfinished : state.follow.stage ≠ .ended lifecycle last := by
    intro same
    simp [FollowItemsV1.closed, same] at live
  cases event with
  | append disk =>
    obtain ⟨-, -, rfl⟩ := steps
    exact absurd ended unfinished
  | notify =>
    cases steps
    dsimp only at ended
    unfold FollowItemsV1.notified at ended
    split at ended
    · cases ended
    · exact absurd ended unfinished
    · exact absurd ended unfinished
  | breakWatcher =>
    cases steps
    dsimp only at ended
    unfold FollowItemsV1.broken at ended
    dsimp only at ended
    split at ended
    · cases ended
    · exact absurd ended unfinished
  | abort =>
    cases steps
    dsimp only at ended
    unfold FollowItemsV1.abort at ended
    split at ended
    · cases ended
    · exact absurd ended unfinished
  | advance =>
    obtain ⟨follow, advances, rfl⟩ := steps
    unfold FollowItemsV1.advance FollowItemsV1.failing at advances
    dsimp only at ended
    cases stage : state.follow.stage with
    | inspecting =>
      rw [stage] at advances
      dsimp only at advances ⊢
      unfold followedEndOf
      cases inspects : inspectStoredRun env metaDigest state.disk with
      | error error =>
        rw [inspects] at advances
        cases advances
        cases ended
      | ok inspection =>
        rw [inspects] at advances
        dsimp only at advances ⊢
        cases finished : inspection.lifecycle.followedEnd with
        | none =>
          rw [finished] at advances
          cases advances
          cases ended
        | some reported =>
          rw [finished] at advances
          cases advances
          cases ended
          exact ⟨rfl, rfl, rfl, rfl, rfl⟩
    | yielding items next =>
      rw [stage] at advances
      rcases items with _ | ⟨item, rest⟩
      · cases next <;> cases advances <;> cases ended
      · cases advances
        cases ended
    | _ =>
      rw [stage] at advances
      dsimp only at advances
      -- Every other step leads to a stage that is not the end.
      repeat' split at advances
      all_goals cases advances <;> cases ended

/-- In every run whose lifecycle reads come in time, following it loses no committed item. -/
theorem followItems_loses_nothing {start : Nat} {state : FollowedRunV1}
    (reached : (followMachine env metaDigest start).Reaches
      (InspectsInTime env metaDigest start) state) :
    FollowsItems env metaDigest start state := by
  have following := Following.reached reached
  -- The end event is yielded by the one read that the condition is about.
  have timely : ∀ lifecycle last, state.follow.stage = .ended lifecycle last →
      committedCount state.disk ≤ max start state.seen := by
    cases reached with
    | start starts =>
      intro lifecycle last ended
      rw [starts.2.1] at ended
      cases ended
    | next earlier allows steps =>
      intro lifecycle last ended
      obtain ⟨rfl, inspecting, disk, seen, finished⟩ := ended_step steps ended
      unfold InspectsInTime at allows
      rw [inspecting] at allows
      rw [disk, seen]
      rcases allows with running | early
      · rw [running] at finished
        cases finished
      · exact early
  constructor
  · intro lifecycle last ended
    obtain ⟨finished, cursor⟩ := following.finished lifecycle last ended
    have all := (following.ended_iff ended).mpr (timely lifecycle last ended)
    refine ⟨finished, _, following.stored.visits, ?_, following.sequences, ?_⟩
    · rw [all, following.behind_start]
    · rw [cursor, following.last_sequence, following.behind_start, ← all]
  · intro waits told
    have stirred : ¬state.stirred := by
      rintro (owed | changed)
      · rw [told] at owed
        cases owed
      · rw [following.settled waits] at changed
        cases changed
    have running := following.running (by rw [waits]; rfl)
    have fresh := following.fresh (by rw [waits]; rfl) (by rw [waits]; nofun)
    have caught := following.caught (by rw [waits]; rfl)
    refine ⟨running.resolve_right stirred, _, following.stored.visits, ?_⟩
    rw [waits, fresh.resolve_right stirred, List.take_length] at caught
    simp only [FollowStageV1.queued, List.append_nil] at caught
    rw [caught, following.behind_start]
  · exact following.sound

/-! A listing of one page, followed while it is written. -/

/-- A followed run after the generator's next step. -/
def FollowedRunV1.advanced (env : RunEnvironment) (metaDigest : Sha256DigestV1)
    (state : FollowedRunV1) : Option FollowedRunV1 :=
  if state.follow.closed then none
  else (state.follow.advance env metaDigest state.disk).map fun follow =>
    { state with
      follow
      seen := match state.follow.stage with
        | .paging => committedCount state.disk
        | _ => state.seen }

/-- Whether the generator's next step is no lifecycle read that comes too late. -/
def FollowedRunV1.inTime (start : Nat) (state : FollowedRunV1) : Bool :=
  match state.follow.stage with
  | .inspecting => decide (committedCount state.disk ≤ max start state.seen)
  | _ => true

/-- A followed run after a number of the generator's steps that all come in time. -/
def FollowedRunV1.follows (env : RunEnvironment) (metaDigest : Sha256DigestV1) (start : Nat) :
    Nat → FollowedRunV1 → Option FollowedRunV1
  | 0, state => some state
  | count + 1, state =>
    if state.inTime start then
      (state.advanced env metaDigest).bind (FollowedRunV1.follows env metaDigest start count)
    else none

theorem advanced_reaches {start : Nat} {allowed : FollowedRunV1 → FollowEventV1 → Prop}
    {state : FollowedRunV1} (advances : state.advanced env metaDigest = some next)
    (allows : allowed state .advance)
    (reached : (followMachine env metaDigest start).Reaches allowed state) :
    (followMachine env metaDigest start).Reaches allowed next := by
  unfold FollowedRunV1.advanced at advances
  split_ifs at advances with closed
  obtain ⟨follow, steps, rfl⟩ := Option.map_eq_some_iff.mp advances
  exact .next reached allows ⟨by simpa using closed, follow, steps, rfl⟩

variable {count : Nat} {final : FollowedRunV1}

theorem follows_reaches {start : Nat} {state : FollowedRunV1}
    (follows : state.follows env metaDigest start count = some final)
    (reached : (followMachine env metaDigest start).Reaches (InspectsInTime env metaDigest start) state) :
    (followMachine env metaDigest start).Reaches (InspectsInTime env metaDigest start) final := by
  induction count generalizing state with
  | zero =>
    cases follows
    exact reached
  | succ count ih =>
    unfold FollowedRunV1.follows at follows
    split_ifs at follows with early
    obtain ⟨next, advances, rest⟩ := Option.bind_eq_some_iff.mp follows
    refine ih rest (advanced_reaches advances ?_ reached)
    unfold FollowedRunV1.inTime at early
    unfold InspectsInTime
    cases stage : state.follow.stage <;> simp only [stage] at early ⊢
    exact .inr (of_decide_eq_true early)

theorem advanced_disk {state : FollowedRunV1} (advances : state.advanced env metaDigest = some next) :
    next.disk = state.disk := by
  unfold FollowedRunV1.advanced at advances
  split_ifs at advances
  obtain ⟨follow, -, rfl⟩ := Option.map_eq_some_iff.mp advances
  rfl

theorem follows_disk {start : Nat} {state : FollowedRunV1}
    (follows : state.follows env metaDigest start count = some final) :
    final.disk = state.disk := by
  induction count generalizing state with
  | zero =>
    cases follows
    rfl
  | succ count ih =>
    unfold FollowedRunV1.follows at follows
    split_ifs at follows
    obtain ⟨next, advances, rest⟩ := Option.bind_eq_some_iff.mp follows
    rw [ih rest, advanced_disk advances]

/-- A run that is about to be followed from its first item on. -/
def aboutToFollow (disk : Disk) : FollowedRunV1 :=
  { disk, follow := .initial 0, owed := false, seen := 0 }

/-- The disks of a one-page listing when it has started and when it has ended. -/
def listingDisks : Option (Disk × Disk) :=
  match startDetached onePageListing (listRoots 1) none [] true with
  | .error _ => none
  | .ok started => (started.run onePageListing
      [.callReturned 0 (.returned (listedPage [1] none)) [], .turnSettled 0 [],
        .batchSettled [] true]).map fun ended => (started.world.disk, ended.world.disk)

/-- Whether a disk holds a run of the listing that can be recovered. -/
def isStoredListing (disk : Disk) : Bool :=
  decide (boundMeta disk.frames = some onePageListing.metaDigest) &&
    passesTest (recoverStoredRun onePageListing disk) fun _ => true

theorem isStoredListing_spec {disk : Disk} (stored : isStoredListing disk = true) :
    Stored onePageListing onePageListing.metaDigest disk := by
  obtain ⟨bound, recovers⟩ := Bool.and_eq_true_iff.mp stored
  obtain ⟨recovered, recovers, -⟩ := passesTest_spec recovers
  exact ⟨of_decide_eq_true bound, recovered, recovers⟩

theorem aboutToFollow_reaches {disk : Disk} (stored : isStoredListing disk = true)
    (allowed : FollowedRunV1 → FollowEventV1 → Prop) :
    (followMachine onePageListing onePageListing.metaDigest 0).Reaches allowed
      (aboutToFollow disk) :=
  .start ⟨isStoredListing_spec stored, rfl, rfl, rfl⟩

/-- Whether the end event of a terminal run has been yielded after a number of items. -/
def endedAfter (count : Nat) (state : FollowedRunV1) : Bool :=
  state.follow.yielded.length == count &&
    match state.follow.stage with
    | .ended .terminal _ => true
    | _ => false

theorem endedAfter_spec {state : FollowedRunV1} (ends : endedAfter count state = true) :
    state.follow.yielded.length = count ∧ ∃ last, state.follow.stage = .ended .terminal last := by
  obtain ⟨yielded, ends⟩ := Bool.and_eq_true_iff.mp ends
  refine ⟨of_decide_eq_true yielded, ?_⟩
  cases stage : state.follow.stage with
  | ended lifecycle last =>
    cases lifecycle with
    | terminal => exact ⟨last, rfl⟩
    | interrupted => simp [stage] at ends
  | _ => simp [stage] at ends

/-- The listing's one item is yielded before the end event when the stream begins late. -/
theorem followItems_loses_nothing_listing : ∃ state,
    (state.follow.yielded.length = 1 ∧ ∃ last, state.follow.stage = .ended .terminal last) ∧
      FollowsItems onePageListing onePageListing.metaDigest 0 state := by
  have runs : (listingDisks.any fun disks => isStoredListing disks.2 &&
      ((aboutToFollow disks.2).follows onePageListing onePageListing.metaDigest 0 7).any
        (endedAfter 1)) = true := by
    decide +kernel
  obtain ⟨disks, -, runs⟩ := (Option.any_eq_true _ _).mp runs
  obtain ⟨stored, runs⟩ := Bool.and_eq_true_iff.mp runs
  obtain ⟨state, follows, ends⟩ := (Option.any_eq_true _ _).mp runs
  exact ⟨state, endedAfter_spec ends, followItems_loses_nothing
    (follows_reaches follows (aboutToFollow_reaches stored _))⟩

/-- Whether one disk only adds frames to another that refers to no item yet. -/
def addsFrames (before after : Disk) : Bool :=
  before.frames.isSuffixOf after.frames &&
    before.frames.all fun frame => frame.body.event.refersTo.isEmpty

theorem addsFrames_spec {before after : Disk} (adds : addsFrames before after = true) :
    before.Appended after := by
  obtain ⟨suffix, bare⟩ := Bool.and_eq_true_iff.mp adds
  obtain ⟨newer, frames⟩ := List.isSuffixOf_iff_suffix.mp suffix
  refine ⟨⟨newer, frames.symm⟩, fun frame member reference refers => ?_⟩
  have none := List.isEmpty_iff.mp (List.all_eq_true.mp bare frame member)
  rw [none] at refers
  exact absurd refers List.not_mem_nil

/-- A stream that has read an empty page yields the end event without the item that is committed
    before it reads the lifecycle. -/
theorem followItems_loses_item : ∃ state,
    (followMachine onePageListing onePageListing.metaDigest 0).Reaches (fun _ _ => True) state ∧
      (∃ last, state.follow.stage = .ended .terminal last) ∧ state.follow.yielded = [] ∧
      ∃ item, visitCommittedRunItems state.disk = .ok [item] := by
  have runs : (listingDisks.any fun disks => isStoredListing disks.1 && isStoredListing disks.2 &&
      addsFrames disks.1 disks.2 && passesTest (visitCommittedRunItems disks.2) (·.length == 1) &&
      ((aboutToFollow disks.1).follows onePageListing onePageListing.metaDigest 0 5).any fun read =>
        !read.follow.closed &&
          (FollowedRunV1.advanced onePageListing onePageListing.metaDigest
            { read with disk := disks.2, owed := true }).any (endedAfter 0)) = true := by
    decide +kernel
  obtain ⟨⟨before, after⟩, -, runs⟩ := (Option.any_eq_true _ _).mp runs
  simp only [Bool.and_eq_true] at runs
  obtain ⟨⟨⟨⟨stored, stored'⟩, adds⟩, items⟩, runs⟩ := runs
  obtain ⟨read, follows, runs⟩ := (Option.any_eq_true _ _).mp runs
  obtain ⟨live, runs⟩ := Bool.and_eq_true_iff.mp runs
  obtain ⟨state, advances, ends⟩ := (Option.any_eq_true _ _).mp runs
  obtain ⟨yielded, ended⟩ := endedAfter_spec ends
  have disk := follows_disk follows
  obtain ⟨items, visits, single⟩ := passesTest_spec items
  obtain ⟨item, rfl⟩ := List.length_eq_one_iff.mp (of_decide_eq_true single)
  have reached : (followMachine onePageListing onePageListing.metaDigest 0).Reaches
      (fun _ _ => True) read :=
    (follows_reaches follows (aboutToFollow_reaches stored _)).mono fun _ _ _ => trivial
  have writes : (followMachine onePageListing onePageListing.metaDigest 0).step read
      (.append after) { read with disk := after, owed := true } :=
    ⟨by simpa using live, by rw [disk]; exact addsFrames_spec adds, isStoredListing_spec stored', rfl⟩
  have appended := reached.next trivial writes
  refine ⟨state, advanced_reaches advances trivial appended, ended, ?_, item, ?_⟩
  · exact List.length_eq_zero_iff.mp yielded
  · rw [advanced_disk advances]
    exact visits

end Klura
