import Klura.Lock.OwnerFile

/-! Two live processes hold one owner-file lock only after a judged file has been replaced. -/

namespace Klura

namespace LockPcV1

/-- The records that the call in progress writes. -/
def records : LockPcV1 → List OwnerRecordV1
  | .create call | .read call | .judge call _ => [call.owner]
  | .guard call owner _ _ | .recover call owner _ => [call.owner, owner]
  | .idle | .abandon | .release _ | .releaseUnlink _ | .forget => []

/-- The record under which the process holds the recovery guard. -/
def guards : LockPcV1 → Option OwnerRecordV1
  | .recover _ owner _ => some owner
  | _ => none

/-- The marker references that the call in progress has taken beyond those of the handles. -/
def marks : LockPcV1 → Nat
  | .idle | .release _ | .releaseUnlink _ => 0
  | _ => 1

/-- The record that the call in progress has read and still compares with. -/
def seen : LockPcV1 → Option OwnerRecordV1
  | .judge _ current => current
  | .guard _ _ _ (.judge current) | .guard _ _ _ (.compare current)
  | .guard _ _ _ (.unlink current) => current
  | .recover _ _ (.exists owner) | .recover _ _ (.judge owner) | .recover _ _ (.compare owner)
  | .recover _ _ (.unlink owner) => owner
  | _ => none

/-- The record that the call in progress has judged stale. -/
def judged : LockPcV1 → Option OwnerRecordV1
  | .guard _ _ _ (.compare current) | .guard _ _ _ (.unlink current) => current
  | .recover _ _ (.compare owner) | .recover _ _ (.unlink owner) => owner
  | _ => none

/-- The record that the process is about to delete the lock for. -/
def bound : LockPcV1 → Option OwnerRecordV1
  | .recover _ _ (.unlink owner) => owner
  | _ => none

/-- The handle that the process is about to release. -/
def releasing : LockPcV1 → Option OwnerRecordV1
  | .release handle | .releaseUnlink handle => some handle
  | _ => none

theorem records_of_unmarked {pc : LockPcV1} (unmarked : pc.marks = 0) : pc.records = [] := by
  cases pc <;> simp_all [marks, records]

theorem bound_of_unguarded {pc : LockPcV1} (unguarded : pc.guards = none) : pc.bound = none := by
  cases pc <;> simp_all [guards, bound]

end LockPcV1

/-- The records of a process's handles and of its call in progress. -/
def LockProcessV1.owned (process : LockProcessV1) : List OwnerRecordV1 :=
  process.handles ++ process.pc.records

namespace LockStateV1

/-- A record that no live process uses, now or later. -/
def Retired (state : LockStateV1) (record : OwnerRecordV1) : Prop :=
  record.acquireNonce < state.nextNonce ∧
    ((state.process record.processNonce).alive = true →
      record ∉ (state.process record.processNonce).owned)

/-- What holds of every live process. -/
structure ProcessKeeps (state : LockStateV1) (who : Nat) : Prop where
  owned : ∀ record ∈ (state.process who).owned,
    record.processNonce = who ∧ record.acquireNonce < state.nextNonce
  seen : ∀ record ∈ (state.process who).pc.seen, record.acquireNonce < state.nextNonce
  holds : ∀ handle ∈ (state.process who).handles, readLockOwner state.lock = some handle
  single : (state.process who).handles.length ≤ 1
  guards : ∀ record ∈ (state.process who).pc.guards,
    readLockOwner state.recoveryGuard = some record
  marked : (state.process who).markerRefs =
    (state.process who).handles.length + (state.process who).pc.marks
  retired : ∀ record ∈ (state.process who).pc.judged, state.Retired record
  bound : ∀ record ∈ (state.process who).pc.bound, readLockOwner state.lock = some record
  releasing : ∀ handle ∈ (state.process who).pc.releasing, handle ∈ (state.process who).handles

/-- What holds of every state: of its live processes, and of the records on disk. -/
structure LockKeeps (state : LockStateV1) : Prop where
  live : ∀ self, (state.process self).alive = true → state.ProcessKeeps self
  lockKnown : ∀ record ∈ readLockOwner state.lock, record.acquireNonce < state.nextNonce
  guardKnown : ∀ record ∈ readLockOwner state.recoveryGuard,
    record.acquireNonce < state.nextNonce

/-- At most one live process holds an unreleased handle. -/
def Excludes (state : LockStateV1) : Prop :=
  ∀ left right, (state.process left).alive = true → (state.process right).alive = true →
    (state.process left).handles ≠ [] → (state.process right).handles ≠ [] → left = right

/-- The lock file of every live holder is on disk. -/
def HoldersKeepLock (state : LockStateV1) : Prop :=
  ∀ self, (state.process self).alive = true → ∀ handle ∈ (state.process self).handles,
    readLockOwner state.lock = some handle

end LockStateV1

/-- A deletion meets the file it was decided for, or one that a dead process left. -/
def DeletesJudged (state : LockStateV1) : LockEventV1 → Prop
  | .step self _ =>
    match (state.process self).pc with
    | .guard _ _ _ (.unlink current) =>
      ∀ owner ∈ readLockOwner state.recoveryGuard,
        current = some owner ∨ (state.process owner.processNonce).alive = false
    | .recover _ _ (.unlink none) =>
      ∀ owner ∈ readLockOwner state.lock, (state.process owner.processNonce).alive = false
    | _ => True
  | _ => True

variable {setting : OwnerFileSettingV1}

open LockStateV1

theorem lockKeeps_initial : LockKeeps .initial where
  live self _ := by
    constructor <;> simp [LockStateV1.initial, LockProcessV1.owned, LockPcV1.records,
      LockPcV1.seen, LockPcV1.guards, LockPcV1.marks, LockPcV1.judged, LockPcV1.bound,
      LockPcV1.releasing]
  lockKnown := by simp [LockStateV1.initial, readLockOwner]
  guardKnown := by simp [LockStateV1.initial, readLockOwner]

theorem LockStateV1.Retired.kept {before after : LockStateV1} {record : OwnerRecordV1}
    (retired : before.Retired record) (later : before.nextNonce ≤ after.nextNonce)
    (fresh : ∀ self, (after.process self).alive = true → (before.process self).alive = true ∧
      ∀ owned ∈ (after.process self).owned,
        owned ∈ (before.process self).owned ∨ before.nextNonce ≤ owned.acquireNonce) :
    after.Retired record := by
  obtain ⟨known, unused⟩ := retired
  refine ⟨by omega, fun alive member => ?_⟩
  obtain ⟨aliveBefore, kept⟩ := fresh record.processNonce alive
  -- A record of today is either one of yesterday's or newer than the retired one.
  rcases kept record member with old | new
  · exact unused aliveBefore old
  · omega

variable {self : Nat}

variable {before after : LockStateV1}

/-- What a live process keeps survives a step of another one. -/
theorem LockStateV1.ProcessKeeps.frame (keeps : before.ProcessKeeps self)
    (same : after.process self = before.process self) (later : before.nextNonce ≤ after.nextNonce)
    (lock : readLockOwner after.lock = readLockOwner before.lock ∨ (before.process self).handles = [] ∧ (before.process self).pc.bound = none)
    (recoveryGuard : readLockOwner after.recoveryGuard = readLockOwner before.recoveryGuard ∨ (before.process self).pc.guards = none)
    (retired : ∀ record, before.Retired record → after.Retired record) :
    after.ProcessKeeps self where
  owned record member := by
    rw [same] at member
    have owned := keeps.owned record member
    exact ⟨owned.1, by omega⟩
  seen record member := by
    rw [same] at member
    have known := keeps.seen record member
    omega
  holds handle member := by
    rw [same] at member
    rcases lock with kept | ⟨empty, _⟩
    · rw [kept]
      exact keeps.holds handle member
    · simp [empty] at member
  single := by
    rw [same]
    exact keeps.single
  guards record member := by
    rw [same] at member
    rcases recoveryGuard with kept | unguarded
    · rw [kept]
      exact keeps.guards record member
    · simp [unguarded] at member
  marked := by
    rw [same]
    exact keeps.marked
  retired record member := by
    rw [same] at member
    exact retired record (keeps.retired record member)
  bound record member := by
    rw [same] at member
    rcases lock with kept | ⟨_, unbound⟩
    · rw [kept]
      exact keeps.bound record member
    · simp [unbound] at member
  releasing handle member := by
    rw [same] at member ⊢
    exact keeps.releasing handle member

/-- A step of one process keeps everything when it keeps what the other processes rely on. -/
theorem LockStateV1.LockKeeps.move {before after : LockStateV1} {self : Nat}
    (keeps : before.LockKeeps) (later : before.nextNonce ≤ after.nextNonce)
    (others : ∀ other, other ≠ self → after.process other = before.process other)
    (alive : (after.process self).alive = true → (before.process self).alive = true)
    (fresh : ∀ owned ∈ (after.process self).owned,
      owned ∈ (before.process self).owned ∨ before.nextNonce ≤ owned.acquireNonce)
    (lockKnown : ∀ record ∈ readLockOwner after.lock, record.acquireNonce < after.nextNonce)
    (guardKnown : ∀ record ∈ readLockOwner after.recoveryGuard,
      record.acquireNonce < after.nextNonce)
    (lock : readLockOwner after.lock = readLockOwner before.lock ∨
      ∀ other, other ≠ self → (before.process other).alive = true →
        (before.process other).handles = [] ∧ (before.process other).pc.bound = none)
    (recoveryGuard : readLockOwner after.recoveryGuard = readLockOwner before.recoveryGuard ∨
      ∀ other, other ≠ self → (before.process other).alive = true →
        (before.process other).pc.guards = none)
    (mine : (∀ record, before.Retired record → after.Retired record) →
      (after.process self).alive = true → after.ProcessKeeps self) : after.LockKeeps := by
  have retired : ∀ record, before.Retired record → after.Retired record := by
    intro record old
    apply old.kept later
    intro other aliveOther
    by_cases same : other = self
    · subst same
      exact ⟨alive aliveOther, fresh⟩
    · rw [others other same] at aliveOther ⊢
      exact ⟨aliveOther, fun owned member => .inl member⟩
  refine ⟨fun other aliveOther => ?_, lockKnown, guardKnown⟩
  by_cases same : other = self
  · subst same
    exact mine retired aliveOther
  · have unchanged := others other same
    rw [unchanged] at aliveOther
    -- A process that did not move relies on the files only where it holds something.
    apply (keeps.live other aliveOther).frame unchanged later
    · rcases lock with kept | loose
      · exact .inl kept
      · exact .inr (loose other same aliveOther)
    · rcases recoveryGuard with kept | loose
      · exact .inl kept
      · exact .inr (loose other same aliveOther)
    · exact retired

variable {state : LockStateV1} {probe : OwnerProbeV1} {owner : OwnerRecordV1}

variable {file : Option OwnerFileV1}

theorem LockStateV1.LockKeeps.stale_retired (keeps : state.LockKeeps)
    (stale : lockIsDefinitelyStale setting state self probe file (some owner) = true)
    (accurate : probe.Accurate state owner) (known : owner.acquireNonce < state.nextNonce) :
    state.Retired owner := by
  obtain ⟨dead, unmarked⟩ := accurate
  refine ⟨known, fun alive => ?_⟩
  have marked := (keeps.live _ alive).marked
  -- A live owner is judged stale only by its marker, so it has neither handles nor a call.
  have noRefs : (state.process owner.processNonce).markerRefs = 0 := by
    apply unmarked _ alive
    by_cases samePid : owner.pid = setting.pid self
    · by_cases own : owner.processNonce = self
      · simp [lockIsDefinitelyStale, samePid, own] at stale
      · simpa [lockIsDefinitelyStale, samePid, own] using stale
    · cases live : probe.processIsLive with
      | false => simp [dead live] at alive
      | true => simpa [lockIsDefinitelyStale, samePid, live] using stale
  have noHandles : (state.process owner.processNonce).handles = [] := by
    rw [← List.length_eq_zero_iff]
    omega
  have noCall := LockPcV1.records_of_unmarked (show (state.process owner.processNonce).pc.marks = 0
    by omega)
  simp [LockProcessV1.owned, noHandles, noCall]

variable {pc : LockPcV1}

/-- A process that only goes on keeps everything when its new place is in order. -/
theorem LockStateV1.LockKeeps.goto (keeps : state.LockKeeps) {old : LockPcV1}
    (alive : (state.process self).alive = true) (place : (state.process self).pc = old)
    (records : ∀ record ∈ pc.records, record ∈ old.records)
    (seen : ∀ record ∈ pc.seen, record.acquireNonce < state.nextNonce)
    (guards : ∀ record ∈ pc.guards, readLockOwner state.recoveryGuard = some record)
    (marks : pc.marks = old.marks) (judged : ∀ record ∈ pc.judged, state.Retired record)
    (bound : ∀ record ∈ pc.bound, readLockOwner state.lock = some record)
    (releasing : ∀ handle ∈ pc.releasing, handle ∈ (state.process self).handles) :
    (state.goto self pc).LockKeeps := by
  subst place
  have mine := keeps.live self alive
  have owned : ∀ record ∈ ((state.goto self pc).process self).owned,
      record ∈ (state.process self).owned := by
    intro record member
    simp only [goto_process_self, LockProcessV1.owned, List.mem_append] at member ⊢
    exact member.imp_right (records record)
  refine @LockKeeps.move state (state.goto self pc) self keeps (Nat.le_refl _)
    (fun other differs => goto_process_other _ _ differs) (fun _ => alive)
    (fun record member => .inl (owned record member)) keeps.lockKnown keeps.guardKnown
    (.inl rfl) (.inl rfl) ?_
  intro retired _
  constructor
  · exact fun record member => mine.owned record (owned record member)
  · simpa using seen
  · simpa using mine.holds
  · simpa using mine.single
  · simpa using guards
  · simpa [marks] using mine.marked
  · simpa using fun record member => retired record (judged record member)
  · simpa using bound
  · simpa using releasing

variable {record : OwnerRecordV1}

theorem LockStateV1.LockKeeps.guarded_unique (keeps : state.LockKeeps) {other : Nat}
    (alive : (state.process self).alive = true) (aliveOther : (state.process other).alive = true)
    (guarded : record ∈ (state.process self).pc.guards) (differs : other ≠ self) :
    (state.process other).pc.guards = none := by
  cases held : (state.process other).pc.guards with
  | none => rfl
  | some held' =>
    have mine := (keeps.live self alive).guards record guarded
    have theirs := (keeps.live other aliveOther).guards held' held
    -- Both have their own record in the one guard file.
    have same : record = held' := Option.some.inj (mine.symm.trans theirs)
    have owner : ∀ {who : Nat} {record : OwnerRecordV1}, (state.process who).alive = true →
        record ∈ (state.process who).pc.guards → record.processNonce = who := by
      intro who record aliveWho member
      apply ((keeps.live who aliveWho).owned record _).1
      cases pc : (state.process who).pc <;>
        simp_all [LockPcV1.guards, LockProcessV1.owned, LockPcV1.records]
    subst same
    exact absurd ((owner aliveOther held).symm.trans (owner alive guarded)) differs

variable {handle : OwnerRecordV1}

theorem LockStateV1.LockKeeps.handle_owner (keeps : state.LockKeeps)
    (alive : (state.process self).alive = true) (held : handle ∈ (state.process self).handles) :
    handle.processNonce = self :=
  ((keeps.live self alive).owned handle (by simp [LockProcessV1.owned, held])).1

theorem LockStateV1.LockKeeps.holder_eq (keeps : state.LockKeeps)
    (alive : (state.process self).alive = true) (held : handle ∈ (state.process self).handles)
    (onDisk : readLockOwner state.lock = some record) : handle = record :=
  Option.some.inj (((keeps.live self alive).holds handle held).symm.trans onDisk)

theorem LockStateV1.LockKeeps.unheld (keeps : state.LockKeeps)
    (alive : (state.process self).alive = true)
    (loose : ∀ record, readLockOwner state.lock = some record → (state.process record.processNonce).alive = true → record ∉ (state.process record.processNonce).handles) :
    (state.process self).handles = [] := by
  rw [List.eq_nil_iff_forall_not_mem]
  intro handle held
  have owner := keeps.handle_owner alive held
  have onDisk := (keeps.live self alive).holds handle held
  rw [← owner] at alive held
  exact loose handle onDisk alive held

theorem LockStateV1.LockKeeps.loose (keeps : state.LockKeeps)
    (alive : (state.process self).alive = true)
    (handles : ∀ record, readLockOwner state.lock = some record → (state.process record.processNonce).alive = true → record ∉ (state.process record.processNonce).handles)
    (bound : ∀ record, readLockOwner state.lock = some record → record ∉ (state.process self).pc.bound) :
    (state.process self).handles = [] ∧ (state.process self).pc.bound = none := by
  refine ⟨keeps.unheld alive handles, ?_⟩
  cases about : (state.process self).pc.bound with
  | none => rfl
  | some record =>
    have onDisk := (keeps.live self alive).bound record about
    exact absurd about (bound record onDisk)

theorem LockStateV1.LockKeeps.created {state : LockStateV1} (keeps : state.LockKeeps) {self : Nat}
    {call : AcquireCallV1} (alive : (state.process self).alive = true)
    (pc : (state.process self).pc = .create call) (missing : state.lock = none) :
    (({ state with lock := some ⟨call.owner, state.nowMs⟩ }.hold self call.owner).goto self
      .idle).LockKeeps := by
  have mine := keeps.live self alive
  have absent : ∀ record, readLockOwner state.lock ≠ some record := by simp [missing, readLockOwner]
  have own := mine.owned call.owner (by simp [LockProcessV1.owned, pc, LockPcV1.records])
  have none : (state.process self).handles = [] :=
    keeps.unheld alive fun record onDisk => absurd onDisk (absent record)
  refine @LockKeeps.move state _ self keeps (Nat.le_refl _)
    (fun other differs => by simp [hold, differs]) (fun _ => alive) ?_ ?_ keeps.guardKnown
    (.inr fun other _ aliveOther => keeps.loose aliveOther
      (fun record onDisk => absurd onDisk (absent record))
      (fun record onDisk => absurd onDisk (absent record))) (.inl rfl) ?_
  · simp [hold, LockProcessV1.owned, pc, none, LockPcV1.records]
  · simpa [readLockOwner, hold] using own.2
  · intro retired _
    have marked := mine.marked
    constructor <;> simp_all [hold, LockProcessV1.owned, readLockOwner, LockPcV1.records,
      LockPcV1.seen, LockPcV1.guards, LockPcV1.marks, LockPcV1.judged, LockPcV1.bound,
      LockPcV1.releasing]

variable {call : AcquireCallV1}

theorem LockStateV1.LockKeeps.guardCreated (keeps : state.LockKeeps) {attempt : Nat}
    (alive : (state.process self).alive = true)
    (pc : (state.process self).pc = .guard call owner attempt .create)
    (missing : state.recoveryGuard = none) :
    ({ state with recoveryGuard := some ⟨owner, state.nowMs⟩ }.goto self
      (.recover call owner .read)).LockKeeps := by
  have mine := keeps.live self alive
  have own := mine.owned owner (by simp [LockProcessV1.owned, pc, LockPcV1.records])
  refine @LockKeeps.move state _ self keeps (Nat.le_refl _)
    (fun other differs => by simp [differs]) (fun _ => alive) ?_ keeps.lockKnown ?_ (.inl rfl)
    (.inr fun other _ aliveOther => ?_) ?_
  · intro record member
    exact .inl (by simpa [LockProcessV1.owned, pc, LockPcV1.records] using member)
  · simpa [readLockOwner] using own.2
  · -- Nobody is under a guard that is not there.
    cases held : (state.process other).pc.guards with
    | none => rfl
    | some record =>
      have onDisk := (keeps.live other aliveOther).guards record held
      simp [missing, readLockOwner] at onDisk
  · intro retired _
    obtain ⟨owned, seen, holds, single, guards, marked, _, bound, releasing⟩ := mine
    constructor <;> simp_all [LockProcessV1.owned, readLockOwner, LockPcV1.records,
      LockPcV1.seen, LockPcV1.guards, LockPcV1.marks, LockPcV1.judged, LockPcV1.bound,
      LockPcV1.releasing]

/-- Deleting the guard keeps everything when no live process is under it but the deleting one. -/
theorem LockStateV1.LockKeeps.guardDeleted (keeps : state.LockKeeps)
    (alive : (state.process self).alive = true)
    (alone : ∀ other, other ≠ self → (state.process other).alive = true → (state.process other).pc.guards = none)
    (records : ∀ record ∈ pc.records, record ∈ (state.process self).pc.records)
    (marks : pc.marks = (state.process self).pc.marks)
    (plain : pc.seen = none ∧ pc.guards = none ∧ pc.judged = none ∧ pc.releasing = none) :
    ({ state with recoveryGuard := none }.goto self pc).LockKeeps := by
  have mine := keeps.live self alive
  have owned : ∀ record ∈ pc.records ++ (state.process self).handles,
      record ∈ (state.process self).owned := by
    intro record member
    simp only [LockProcessV1.owned, List.mem_append] at member ⊢
    exact member.symm.imp_right (records record)
  refine @LockKeeps.move state _ self keeps (Nat.le_refl _)
    (fun other differs => by simp [differs]) (fun _ => alive) ?_ keeps.lockKnown
    (by simp [readLockOwner]) (.inl rfl) (.inr alone) ?_
  · intro record member
    refine .inl (owned record ?_)
    simpa [LockProcessV1.owned, or_comm] using member
  · intro retired _
    obtain ⟨seen, guards, judged, releasing⟩ := plain
    have unbound := LockPcV1.bound_of_unguarded guards
    constructor
    · intro record member
      refine mine.owned record (owned record ?_)
      simpa [LockProcessV1.owned, or_comm] using member
    · simp [seen]
    · simpa using mine.holds
    · simpa using mine.single
    · simp [guards]
    · simpa [marks] using mine.marked
    · simp [judged]
    · simp [unbound]
    · simp [releasing]

theorem LockStateV1.LockKeeps.lockDeleted (keeps : state.LockKeeps) {judged : Option OwnerRecordV1}
    (alive : (state.process self).alive = true)
    (pc : (state.process self).pc = .recover call owner (.unlink judged))
    (unheld : ∀ record, readLockOwner state.lock = some record → (state.process record.processNonce).alive = true → record ∉ (state.process record.processNonce).handles) :
    ({ state with lock := none }.goto self (.recover call owner .release)).LockKeeps := by
  have mine := keeps.live self alive
  have guarded : owner ∈ (state.process self).pc.guards := by simp [pc, LockPcV1.guards]
  have none : (state.process self).handles = [] := keeps.unheld alive unheld
  refine @LockKeeps.move state _ self keeps (Nat.le_refl _)
    (fun other differs => by simp [differs]) (fun _ => alive) ?_ (by simp [readLockOwner])
    keeps.guardKnown (.inr fun other differs aliveOther => ?_) (.inl rfl) ?_
  · intro record member
    exact .inl (by simpa [LockProcessV1.owned, pc, LockPcV1.records] using member)
  · -- Only the process under the guard is about to delete the lock.
    exact ⟨keeps.unheld aliveOther unheld,
      LockPcV1.bound_of_unguarded (keeps.guarded_unique alive aliveOther guarded differs)⟩
  · intro retired _
    obtain ⟨owned, seen, holds, single, guards, marked, _, bound, releasing⟩ := mine
    constructor <;> simp_all [LockProcessV1.owned, readLockOwner, LockPcV1.records,
      LockPcV1.seen, LockPcV1.guards, LockPcV1.marks, LockPcV1.judged, LockPcV1.bound,
      LockPcV1.releasing]

/-- Releasing the lock ends the hold of the process that released it, and no other. -/
theorem LockStateV1.LockKeeps.released (keeps : state.LockKeeps)
    (alive : (state.process self).alive = true)
    (pc : (state.process self).pc = .releaseUnlink handle) :
    (({ state with lock := none }.drop self handle).goto self .forget).LockKeeps := by
  have mine := keeps.live self alive
  have held := mine.releasing handle (by simp [pc, LockPcV1.releasing])
  have onDisk := mine.holds handle held
  have owner := keeps.handle_owner alive held
  have only : (state.process self).handles = [handle] := by
    rcases handles : (state.process self).handles with _ | ⟨first, _ | ⟨second, rest⟩⟩
    · simp [handles] at held
    · simp only [handles, List.mem_singleton] at held
      rw [held]
    · have single := mine.single
      simp [handles] at single
  refine @LockKeeps.move state _ self keeps (Nat.le_refl _)
    (fun other differs => by simp [drop, differs]) (fun _ => alive) ?_
    (by simp [readLockOwner, drop]) keeps.guardKnown
    (.inr fun other differs aliveOther => ?_) (.inl rfl) ?_
  · simp [drop, LockProcessV1.owned, only, LockPcV1.records]
  · have theirs : (state.process other).handles = [] := by
      rw [List.eq_nil_iff_forall_not_mem]
      intro other' held'
      have same := keeps.holder_eq aliveOther held' onDisk
      rw [same] at held'
      exact differs ((keeps.handle_owner aliveOther held').symm.trans owner)
    refine ⟨theirs, ?_⟩
    cases about : (state.process other).pc.bound with
    | none => rfl
    | some record =>
      -- Who is about to delete the lock has judged its record, which is a live handle here.
      have keepsOther := keeps.live other aliveOther
      have same : record = handle :=
        Option.some.inj ((keepsOther.bound record about).symm.trans onDisk)
      have judged : record ∈ (state.process other).pc.judged := by
        cases place : (state.process other).pc with
        | recover call owner step => cases step <;> simp_all [LockPcV1.bound, LockPcV1.judged]
        | _ => simp_all [LockPcV1.bound]
      have retired := keepsOther.retired record judged
      rw [same] at retired
      obtain ⟨_, unused⟩ := retired
      rw [owner] at unused
      exact absurd (by simp [LockProcessV1.owned, only]) (unused alive)
  · intro retired _
    have marked := mine.marked
    constructor <;> simp_all [drop, LockProcessV1.owned, readLockOwner, LockPcV1.records,
      LockPcV1.seen, LockPcV1.guards, LockPcV1.marks, LockPcV1.judged, LockPcV1.bound,
      LockPcV1.releasing]

theorem LockStateV1.LockKeeps.unmarked (keeps : state.LockKeeps)
    (alive : (state.process self).alive = true) (marks : (state.process self).pc.marks = 1) :
    ((state.releaseProcessMarker self).goto self .idle).LockKeeps := by
  have mine := keeps.live self alive
  refine @LockKeeps.move state _ self keeps (Nat.le_refl _)
    (fun other differs => by simp [releaseProcessMarker, differs]) (fun _ => alive) ?_
    keeps.lockKnown keeps.guardKnown (.inl rfl) (.inl rfl) ?_
  · intro record member
    simp only [releaseProcessMarker, goto_process_self, Function.update_self,
      LockProcessV1.owned, LockPcV1.records, List.append_nil] at member
    exact .inl (by simp [LockProcessV1.owned, member])
  · intro retired _
    have refs : (state.process self).markerRefs = (state.process self).handles.length + 1 := by
      rw [mine.marked, marks]
    constructor
    · intro record member
      simp only [releaseProcessMarker, goto_process_self, Function.update_self,
        LockProcessV1.owned, LockPcV1.records, List.append_nil] at member
      exact mine.owned record (by simp [LockProcessV1.owned, member])
    · simp [LockPcV1.seen]
    · simpa [releaseProcessMarker] using mine.holds
    · simpa [releaseProcessMarker] using mine.single
    · simp [LockPcV1.guards]
    · simp [releaseProcessMarker, LockPcV1.marks, refs]
    · simp [LockPcV1.judged]
    · simp [LockPcV1.bound]
    · simp [LockPcV1.releasing]

theorem readLockOwner_known {bound : Nat}
    (known : ∀ record ∈ readLockOwner file, record.acquireNonce < bound) :
    ∀ record ∈ readLockOwner file, record.acquireNonce < bound + 1 :=
  fun record member => Nat.lt_succ_of_lt (known record member)

/-- Starting an acquisition takes a marker reference and draws a new record. -/
theorem LockStateV1.LockKeeps.acquiring (keeps : state.LockKeeps)
    (alive : (state.process self).alive = true) (idle : (state.process self).pc = .idle) :
    ((state.draw.retainProcessMarker self).goto self
      (.create ⟨currentOwnerRecord setting state self, 0⟩)).LockKeeps := by
  have mine := keeps.live self alive
  refine @LockKeeps.move state _ self keeps (Nat.le_succ _)
    (fun other differs => by simp [retainProcessMarker, draw, differs]) (fun _ => alive) ?_
    (readLockOwner_known keeps.lockKnown) (readLockOwner_known keeps.guardKnown)
    (.inl rfl) (.inl rfl) ?_
  · intro record member
    simp only [retainProcessMarker, draw, goto_process_self, Function.update_self,
      LockProcessV1.owned, LockPcV1.records, List.mem_append, List.mem_singleton] at member
    rcases member with old | new
    · exact .inl (by simp [LockProcessV1.owned, old])
    · exact .inr (by simp [new, currentOwnerRecord])
  · intro retired _
    have marked := mine.marked
    rw [idle] at marked
    constructor
    · intro record member
      simp only [retainProcessMarker, draw, goto_process_self, Function.update_self,
        LockProcessV1.owned, LockPcV1.records, List.mem_append, List.mem_singleton] at member
      rcases member with old | new
      · have known := mine.owned record (by simp [LockProcessV1.owned, old])
        exact ⟨known.1, Nat.lt_succ_of_lt known.2⟩
      · simp [new, currentOwnerRecord, retainProcessMarker, draw]
    · simp [LockPcV1.seen]
    · simpa [retainProcessMarker, draw] using mine.holds
    · simpa [retainProcessMarker, draw] using mine.single
    · simp [LockPcV1.guards]
    · simpa [retainProcessMarker, draw, LockPcV1.marks] using marked
    · simp [LockPcV1.judged]
    · simp [LockPcV1.bound]
    · simp [LockPcV1.releasing]

/-- Starting a recovery draws the record of the guard. -/
theorem LockStateV1.LockKeeps.recovering (keeps : state.LockKeeps) {current : Option OwnerRecordV1}
    (alive : (state.process self).alive = true) (pc : (state.process self).pc = .judge call current) :
    (state.draw.goto self
      (.guard call (currentOwnerRecord setting state self) 0 .create)).LockKeeps := by
  have mine := keeps.live self alive
  refine @LockKeeps.move state _ self keeps (Nat.le_succ _)
    (fun other differs => by simp [draw, differs]) (fun _ => alive) ?_
    (readLockOwner_known keeps.lockKnown) (readLockOwner_known keeps.guardKnown)
    (.inl rfl) (.inl rfl) ?_
  · intro record member
    simp only [draw, goto_process_self, LockProcessV1.owned, LockPcV1.records, List.mem_append,
      List.mem_cons, List.not_mem_nil, or_false] at member
    rcases member with old | old | new
    · exact .inl (by simp [LockProcessV1.owned, old])
    · exact .inl (by simp [LockProcessV1.owned, pc, LockPcV1.records, old])
    · exact .inr (by simp [new, currentOwnerRecord])
  · intro retired _
    have marked := mine.marked
    rw [pc] at marked
    constructor
    · intro record member
      simp only [draw, goto_process_self, LockProcessV1.owned, LockPcV1.records, List.mem_append,
        List.mem_cons, List.not_mem_nil, or_false] at member
      rcases member with old | old | new
      · have known := mine.owned record (by simp [LockProcessV1.owned, old])
        exact ⟨known.1, Nat.lt_succ_of_lt known.2⟩
      · have known := mine.owned record (by simp [LockProcessV1.owned, pc, LockPcV1.records, old])
        exact ⟨known.1, Nat.lt_succ_of_lt known.2⟩
      · simp [new, currentOwnerRecord, draw]
    · simp [LockPcV1.seen]
    · simpa [draw] using mine.holds
    · simpa [draw] using mine.single
    · simp [LockPcV1.guards]
    · simpa [draw, LockPcV1.marks] using marked
    · simp [LockPcV1.judged]
    · simp [LockPcV1.bound]
    · simp [LockPcV1.releasing]

/-- A place of a call that neither reads, judges nor releases anything yet. -/
structure LockPcV1.Plain (pc : LockPcV1) (records : List OwnerRecordV1) : Prop where
  marks : pc.marks = 1
  seen : pc.seen = none
  guards : pc.guards = none
  judged : pc.judged = none
  releasing : pc.releasing = none
  records : ∀ record ∈ pc.records, record ∈ records

theorem nextGuardAttempt_plain (call : AcquireCallV1) (owner : OwnerRecordV1) (attempt : Nat) :
    (nextGuardAttempt call owner attempt).Plain [call.owner, owner] := by
  by_cases more : attempt + 1 < ACQUIRE_ATTEMPTS
  · constructor <;> simp [nextGuardAttempt, more, LockPcV1.marks, LockPcV1.seen, LockPcV1.guards,
      LockPcV1.judged, LockPcV1.releasing, LockPcV1.records]
  · constructor <;> simp [nextGuardAttempt, more, LockPcV1.marks, LockPcV1.seen, LockPcV1.guards,
      LockPcV1.judged, LockPcV1.releasing, LockPcV1.records]

theorem nextLockAttempt_plain (call : AcquireCallV1) (owner : OwnerRecordV1) :
    (nextLockAttempt call).Plain [call.owner, owner] := by
  by_cases more : call.attempt + 1 < ACQUIRE_ATTEMPTS
  · constructor <;> simp [nextLockAttempt, more, LockPcV1.marks, LockPcV1.seen, LockPcV1.guards,
      LockPcV1.judged, LockPcV1.releasing, LockPcV1.records]
  · constructor <;> simp [nextLockAttempt, more, LockPcV1.marks, LockPcV1.seen, LockPcV1.guards,
      LockPcV1.judged, LockPcV1.releasing, LockPcV1.records]

theorem LockStateV1.LockKeeps.goto_plain (keeps : state.LockKeeps) {old : LockPcV1}
    (alive : (state.process self).alive = true) (place : (state.process self).pc = old)
    (marks : old.marks = 1) (plain : pc.Plain old.records) : (state.goto self pc).LockKeeps := by
  have unbound := LockPcV1.bound_of_unguarded plain.guards
  apply keeps.goto alive place plain.records
  · simp [plain.seen]
  · simp [plain.guards]
  · rw [plain.marks, marks]
  · simp [plain.judged]
  · simp [unbound]
  · simp [plain.releasing]

theorem abandon_plain (records : List OwnerRecordV1) : LockPcV1.abandon.Plain records := by
  constructor <;> simp [LockPcV1.marks, LockPcV1.seen, LockPcV1.guards, LockPcV1.judged,
    LockPcV1.releasing, LockPcV1.records]

theorem LockStateV1.LockKeeps.guard_owner (keeps : state.LockKeeps)
    (alive : (state.process self).alive = true) (guarded : record ∈ (state.process self).pc.guards) :
    record ∈ (state.process self).owned ∧ record.processNonce = self := by
  have owned : record ∈ (state.process self).owned := by
    cases place : (state.process self).pc <;>
      simp_all [LockPcV1.guards, LockProcessV1.owned, LockPcV1.records]
  exact ⟨owned, ((keeps.live self alive).owned record owned).1⟩

/-- An operation on the way to the guard keeps everything. -/
theorem withRecoveryGuard_keeps (keeps : state.LockKeeps) {attempt : Nat} {step : GuardPcV1}
    (may : MayStep setting state self probe) (deletes : DeletesJudged state (.step self probe))
    (pc : (state.process self).pc = .guard call owner attempt step) :
    (withRecoveryGuard setting state self probe call owner attempt step).LockKeeps := by
  obtain ⟨alive, _, _, accurate⟩ := may
  have mine := keeps.live self alive
  have next := nextGuardAttempt_plain call owner attempt
  cases step with
  | create =>
    cases onDisk : state.recoveryGuard with
    | none => simpa [withRecoveryGuard, onDisk] using keeps.guardCreated alive pc onDisk
    | some file =>
      simp only [withRecoveryGuard, onDisk]
      apply keeps.goto_plain alive pc rfl
      constructor <;> simp [LockPcV1.marks, LockPcV1.seen, LockPcV1.guards, LockPcV1.judged,
        LockPcV1.releasing, LockPcV1.records]
  | read =>
    apply keeps.goto alive pc <;> simp [LockPcV1.marks, LockPcV1.seen, LockPcV1.guards,
      LockPcV1.judged, LockPcV1.bound, LockPcV1.releasing, LockPcV1.records]
    exact keeps.guardKnown
  | judge current =>
    by_cases stale : lockIsDefinitelyStale setting state self probe state.recoveryGuard current
    · simp only [withRecoveryGuard, stale, if_true]
      have seen := mine.seen
      simp only [pc, LockPcV1.seen] at seen
      simp only [pc, LockPcV1.judging] at accurate
      -- The verdict that lets the deletion go on retires the record it was computed for.
      have retired : ∀ record ∈ current, state.Retired record := by
        intro record member
        have judged : current = some record := member
        subst judged
        exact keeps.stale_retired stale (accurate record rfl) (seen record rfl)
      apply keeps.goto alive pc <;> simp [LockPcV1.marks, LockPcV1.seen, LockPcV1.guards,
        LockPcV1.judged, LockPcV1.bound, LockPcV1.releasing, LockPcV1.records]
      · exact seen
      · exact retired
    · simp only [withRecoveryGuard, stale]
      exact keeps.goto_plain alive pc rfl (abandon_plain _)
  | compare current =>
    by_cases same : ownerRecordsEqual (readLockOwner state.recoveryGuard) current
    · simp only [withRecoveryGuard, same, if_true]
      have seen := mine.seen
      have retired := mine.retired
      simp only [pc, LockPcV1.seen, LockPcV1.judged] at seen retired
      apply keeps.goto alive pc <;> simp [LockPcV1.marks, LockPcV1.seen, LockPcV1.guards,
        LockPcV1.judged, LockPcV1.bound, LockPcV1.releasing, LockPcV1.records]
      · exact seen
      · exact retired
    · simp only [withRecoveryGuard, same]
      exact keeps.goto_plain alive pc rfl next
  | unlink current =>
    have retired := mine.retired
    simp only [pc, LockPcV1.judged] at retired
    simp only [DeletesJudged, pc] at deletes
    refine keeps.guardDeleted alive (fun other _ aliveOther => ?_) (by rw [pc]; exact next.records)
      (by rw [pc]; exact next.marks) ⟨next.seen, next.guards, next.judged, next.releasing⟩
    cases held : (state.process other).pc.guards with
    | none => rfl
    | some record =>
      have onDisk := (keeps.live other aliveOther).guards record held
      obtain ⟨owned, owner⟩ := keeps.guard_owner aliveOther held
      -- The guard on disk is a live process's: neither judged stale nor a dead one's.
      rcases deletes record onDisk with judged | dead
      · obtain ⟨_, unused⟩ := retired record judged
        rw [owner] at unused
        exact absurd owned (unused aliveOther)
      · rw [owner] at dead
        simp [dead] at aliveOther

/-- An operation under the guard keeps everything. -/
theorem recoverStaleLock_keeps (keeps : state.LockKeeps) {step : RecoverPcV1}
    (may : MayStep setting state self probe) (deletes : DeletesJudged state (.step self probe))
    (pc : (state.process self).pc = .recover call owner step) :
    (recoverStaleLock setting state self probe call owner step).LockKeeps := by
  obtain ⟨alive, _, _, accurate⟩ := may
  have mine := keeps.live self alive
  have guarded : readLockOwner state.recoveryGuard = some owner :=
    mine.guards owner (by simp [pc, LockPcV1.guards])
  have next := nextLockAttempt_plain call owner
  have release : (state.goto self (.recover call owner .release)).LockKeeps := by
    apply keeps.goto alive pc <;> simp [LockPcV1.marks, LockPcV1.seen, LockPcV1.guards,
      LockPcV1.judged, LockPcV1.bound, LockPcV1.releasing, LockPcV1.records, guarded]
  have seen := mine.seen
  have retired := mine.retired
  have bound := mine.bound
  rw [pc] at seen retired bound
  cases step with
  | read =>
    apply keeps.goto alive pc <;> simp [LockPcV1.marks, LockPcV1.seen, LockPcV1.guards,
      LockPcV1.judged, LockPcV1.bound, LockPcV1.releasing, LockPcV1.records, guarded]
    exact keeps.lockKnown
  | «exists» judged =>
    by_cases present : state.lock.isSome
    · simp only [recoverStaleLock, present, if_true]
      apply keeps.goto alive pc <;> simp [LockPcV1.marks, LockPcV1.seen, LockPcV1.guards,
        LockPcV1.judged, LockPcV1.bound, LockPcV1.releasing, LockPcV1.records, guarded]
      exact seen
    · simpa [recoverStaleLock, present] using release
  | judge judged =>
    by_cases stale : lockIsDefinitelyStale setting state self probe state.lock judged
    · simp only [recoverStaleLock, stale, if_true]
      simp only [LockPcV1.seen] at seen
      simp only [pc, LockPcV1.judging] at accurate
      have retired : ∀ record ∈ judged, state.Retired record := by
        intro record member
        have same : judged = some record := member
        subst same
        exact keeps.stale_retired stale (accurate record rfl) (seen record rfl)
      apply keeps.goto alive pc <;> simp [LockPcV1.marks, LockPcV1.seen, LockPcV1.guards,
        LockPcV1.judged, LockPcV1.bound, LockPcV1.releasing, LockPcV1.records, guarded]
      · exact seen
      · exact retired
    · simpa [recoverStaleLock, stale] using release
  | compare judged =>
    by_cases same : ownerRecordsEqual (readLockOwner state.lock) judged
    · simp only [recoverStaleLock, same, if_true]
      simp only [LockPcV1.seen, LockPcV1.judged] at seen retired
      have onDisk : readLockOwner state.lock = judged := ownerRecordsEqual_iff.mp same
      apply keeps.goto alive pc <;> simp [LockPcV1.marks, LockPcV1.seen, LockPcV1.guards,
        LockPcV1.judged, LockPcV1.bound, LockPcV1.releasing, LockPcV1.records, guarded]
      · exact seen
      · exact retired
      · exact fun record member => onDisk.trans member
    · simpa [recoverStaleLock, same] using release
  | unlink judged =>
    refine keeps.lockDeleted alive pc fun record onDisk aliveOwner held => ?_
    cases judged with
    | none =>
      -- A verdict on a missing file names no record, so only the condition protects a new lock.
      simp only [DeletesJudged, pc] at deletes
      simp [deletes record onDisk] at aliveOwner
    | some judged =>
      have same : record = judged :=
        Option.some.inj (onDisk.symm.trans (bound judged (by simp [LockPcV1.bound])))
      obtain ⟨_, unused⟩ := retired judged (by simp [LockPcV1.judged])
      rw [same] at aliveOwner held
      exact unused aliveOwner (by simp [LockProcessV1.owned, held])
  | release =>
    simp only [recoverStaleLock, guarded, ownsRecord_self, if_true]
    apply keeps.goto alive pc <;> simp [LockPcV1.marks, LockPcV1.seen, LockPcV1.guards,
      LockPcV1.judged, LockPcV1.bound, LockPcV1.releasing, LockPcV1.records, guarded]
  | releaseUnlink =>
    have under : owner ∈ (state.process self).pc.guards := by simp [pc, LockPcV1.guards]
    exact keeps.guardDeleted alive
      (fun other differs aliveOther => keeps.guarded_unique alive aliveOther under differs)
      (by rw [pc]; exact next.records) (by rw [pc]; exact next.marks)
      ⟨next.seen, next.guards, next.judged, next.releasing⟩

/-- An operation of any process keeps everything. -/
theorem stepProcess_keeps (keeps : state.LockKeeps) (may : MayStep setting state self probe)
    (deletes : DeletesJudged state (.step self probe)) :
    (stepProcess setting state self probe (state.process self).pc).LockKeeps := by
  have alive := may.1
  have mine := keeps.live self alive
  cases pc : (state.process self).pc with
  | idle => exact keeps
  | create call =>
    cases onDisk : state.lock with
    | none => simpa [stepProcess, onDisk] using keeps.created alive pc onDisk
    | some file =>
      simp only [stepProcess, onDisk]
      apply keeps.goto_plain alive pc rfl
      constructor <;> simp [LockPcV1.marks, LockPcV1.seen, LockPcV1.guards, LockPcV1.judged,
        LockPcV1.releasing, LockPcV1.records]
  | read call =>
    apply keeps.goto alive pc <;> simp [LockPcV1.marks, LockPcV1.seen, LockPcV1.guards,
      LockPcV1.judged, LockPcV1.bound, LockPcV1.releasing, LockPcV1.records]
    exact keeps.lockKnown
  | judge call current =>
    by_cases stale : lockIsDefinitelyStale setting state self probe state.lock current
    · simp only [stepProcess, stale, if_true]
      exact keeps.recovering alive pc
    · simp only [stepProcess, stale]
      exact keeps.goto_plain alive pc rfl (abandon_plain _)
  | guard call owner attempt step => exact withRecoveryGuard_keeps keeps may deletes pc
  | recover call owner step => exact recoverStaleLock_keeps keeps may deletes pc
  | abandon => exact keeps.unmarked alive (by simp [pc, LockPcV1.marks])
  | release handle =>
    have held : handle ∈ (state.process self).handles :=
      mine.releasing handle (by simp [pc, LockPcV1.releasing])
    -- The lock on disk is the handle's, so the release goes on to delete it.
    simp only [stepProcess, mine.holds handle held, ownsRecord_self, if_true]
    apply keeps.goto alive pc <;> simp [LockPcV1.marks, LockPcV1.seen, LockPcV1.guards,
      LockPcV1.judged, LockPcV1.bound, LockPcV1.releasing, LockPcV1.records, held]
  | releaseUnlink handle => exact keeps.released alive pc
  | forget => exact keeps.unmarked alive (by simp [pc, LockPcV1.marks])

theorem LockStateV1.LockKeeps.outside {before after : LockStateV1} (keeps : before.LockKeeps)
    (lock : after.lock = before.lock) (recoveryGuard : after.recoveryGuard = before.recoveryGuard)
    (nonce : after.nextNonce = before.nextNonce)
    (live : ∀ self, (after.process self).alive = true → after.process self = before.process self) :
    after.LockKeeps := by
  have retired : ∀ record, before.Retired record → after.Retired record := by
    intro record old
    apply old.kept (by omega)
    intro self alive
    have same := live self alive
    rw [same] at alive ⊢
    exact ⟨alive, fun owned member => .inl member⟩
  refine ⟨fun self alive => ?_, by rw [lock, nonce]; exact keeps.lockKnown,
    by rw [recoveryGuard, nonce]; exact keeps.guardKnown⟩
  have same := live self alive
  rw [same] at alive
  exact (keeps.live self alive).frame same (by omega) (.inl (by rw [lock]))
    (.inl (by rw [recoveryGuard])) retired

theorem lockStep_keeps {event : LockEventV1} (keeps : before.LockKeeps)
    (deletes : DeletesJudged before event) (stepped : lockStep setting before event = some after) :
    after.LockKeeps := by
  cases event with
  | tryAcquire self =>
    simp only [lockStep, Option.ite_none_right_eq_some, Option.some.injEq] at stepped
    obtain ⟨⟨alive, idle⟩, rfl⟩ := stepped
    exact keeps.acquiring alive idle
  | release self handle =>
    simp only [lockStep, Option.ite_none_right_eq_some, Option.some.injEq] at stepped
    obtain ⟨⟨alive, idle, held⟩, rfl⟩ := stepped
    apply keeps.goto alive idle <;> simp [LockPcV1.marks, LockPcV1.seen, LockPcV1.guards,
      LockPcV1.judged, LockPcV1.bound, LockPcV1.releasing, LockPcV1.records, held]
  | step self probe =>
    simp only [lockStep, Option.ite_none_right_eq_some, Option.some.injEq] at stepped
    obtain ⟨may, rfl⟩ := stepped
    exact stepProcess_keeps keeps may deletes
  | die self =>
    simp only [lockStep, Option.some.injEq] at stepped
    subst stepped
    refine @LockKeeps.outside before _ keeps rfl rfl rfl ?_
    intro other alive
    by_cases same : other = self
    · simp [same] at alive
    · simp [same]
  | tick elapsedMs =>
    simp only [lockStep, Option.some.injEq] at stepped
    subst stepped
    exact keeps.outside rfl rfl rfl fun _ _ => rfl

/-- The state after a list of events, where each of them can happen. -/
def lockRun (setting : OwnerFileSettingV1) (state : LockStateV1) :
    List LockEventV1 → Option LockStateV1
  | [] => some state
  | event :: rest => (lockStep setting state event).bind fun after => lockRun setting after rest

theorem lockRun_reaches {events : List LockEventV1}
    (reached : (ownerFileLock setting).Reaches (fun _ _ => True) state)
    (ran : lockRun setting state events = some after) :
    (ownerFileLock setting).Reaches (fun _ _ => True) after := by
  induction events generalizing state with
  | nil =>
    simp only [lockRun, Option.some.injEq] at ran
    exact ran ▸ reached
  | cons event rest ih =>
    simp only [lockRun, Option.bind_eq_some_iff] at ran
    obtain ⟨between, stepped, later⟩ := ran
    exact ih (.next reached trivial stepped) later

/-- Processes whose identifiers are their nonces, with the default grace. -/
def lockProcesses : OwnerFileSettingV1 where
  pid nonce := nonce
  invalidLockGraceMs := 30000

/-- What the probes say of a dead process. -/
def deadOwner : OwnerProbeV1 := ⟨false, some false⟩

/-- A process that makes several operations in a row, its probes finding owners dead. -/
def lockSteps (self count : Nat) : List LockEventV1 :=
  List.replicate count (.step self deadOwner)

/-- Two processes judge the guard of a dead reclaimer, and both come to delete it. -/
def twoReclaimers : List LockEventV1 :=
  -- The lock's holder dies, and so does the first process that takes the guard.
  .tryAcquire 0 :: lockSteps 0 1 ++ .die 0 :: .tryAcquire 3 :: lockSteps 3 4 ++ .die 3 ::
  -- Two more processes judge both files and stand before the deletion of the guard.
  .tryAcquire 1 :: lockSteps 1 7 ++ .tryAcquire 2 :: lockSteps 2 7 ++
  -- The first one comes up to the deletion of the lock under its own guard.
  lockSteps 1 6 ++
  -- The second one deletes that guard, recovers the lock and takes it.
  lockSteps 2 10 ++
  -- The first one deletes the second one's lock and takes it too.
  lockSteps 1 3

/-- The handles of the live processes among two, and the record on disk. -/
def lockView (left right : Nat) (state : LockStateV1) :
    (Bool × List OwnerRecordV1) × (Bool × List OwnerRecordV1) × Option OwnerRecordV1 :=
  (((state.process left).alive, (state.process left).handles),
    ((state.process right).alive, (state.process right).handles), readLockOwner state.lock)

end Klura
