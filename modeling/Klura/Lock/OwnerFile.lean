import Klura.Library.Machine
import Mathlib.Logic.Function.Basic

/-! The owner-file lock, with every file operation of every process as one step. -/

namespace Klura

/-- Tries to create a lock file, or to reclaim one, before giving up. -/
def ACQUIRE_ATTEMPTS : Nat := 3

/-- What a lock file says about the hold that created it. -/
structure OwnerRecordV1 where
  pid : Nat
  processNonce : Nat
  /-- Fresh for every acquisition. -/
  acquireNonce : Nat
  createdAtMs : Nat
  deriving DecidableEq, Repr

/-- A lock file: its content, and when it was created. -/
structure OwnerFileV1 where
  owner : OwnerRecordV1
  mtimeMs : Nat
  deriving DecidableEq, Repr

/-- What the probes say about the process that a record names. -/
structure OwnerProbeV1 where
  /-- Whether its process identifier exists. -/
  processIsLive : Bool
  /-- Whether it holds its marker file open, where the platform can tell. -/
  processHoldsOwnerMarker : Option Bool
  deriving DecidableEq, Repr

/-- What every process of one machine shares. -/
structure OwnerFileSettingV1 where
  /-- The process identifier of each process nonce. -/
  pid : Nat → Nat
  invalidLockGraceMs : Nat

/-- One acquisition in progress: the record it writes and the attempts it has used. -/
structure AcquireCallV1 where
  owner : OwnerRecordV1
  attempt : Nat
  deriving DecidableEq, Repr

/-- Where a process is while it takes the recovery guard. -/
inductive GuardPcV1 where
  | create
  | read
  | judge (current : Option OwnerRecordV1)
  | compare (current : Option OwnerRecordV1)
  | unlink (current : Option OwnerRecordV1)
  deriving DecidableEq, Repr

/-- Where a process is while it holds the recovery guard. -/
inductive RecoverPcV1 where
  | read
  | exists (owner : Option OwnerRecordV1)
  | judge (owner : Option OwnerRecordV1)
  | compare (owner : Option OwnerRecordV1)
  | unlink (owner : Option OwnerRecordV1)
  | release
  | releaseUnlink
  deriving DecidableEq, Repr

/-- The next file operation of a process. -/
inductive LockPcV1 where
  | idle
  | create (call : AcquireCallV1)
  | read (call : AcquireCallV1)
  | judge (call : AcquireCallV1) (current : Option OwnerRecordV1)
  | guard (call : AcquireCallV1) (owner : OwnerRecordV1) (attempt : Nat) (pc : GuardPcV1)
  | recover (call : AcquireCallV1) (owner : OwnerRecordV1) (pc : RecoverPcV1)
  | abandon
  | release (handle : OwnerRecordV1)
  | releaseUnlink (handle : OwnerRecordV1)
  | forget
  deriving DecidableEq, Repr

/-- One process that uses the lock. -/
structure LockProcessV1 where
  alive : Bool
  /-- References on the marker file it holds open. -/
  markerRefs : Nat
  /-- Handles it was given and has not released. -/
  handles : List OwnerRecordV1
  pc : LockPcV1
  /-- When it made its last step. -/
  movedAtMs : Nat

/-- The two files, the clock, and every process. -/
structure LockStateV1 where
  lock : Option OwnerFileV1
  recoveryGuard : Option OwnerFileV1
  nowMs : Nat
  /-- The next nonce that no acquisition has drawn. -/
  nextNonce : Nat
  process : Nat → LockProcessV1

/-- What may happen next. -/
inductive LockEventV1 where
  | tryAcquire (process : Nat)
  | release (process : Nat) (handle : OwnerRecordV1)
  /-- The process makes its next file operation, with what its probes would say. -/
  | step (process : Nat) (probe : OwnerProbeV1)
  | die (process : Nat)
  | tick (elapsedMs : Nat)
  deriving DecidableEq, Repr

/-- The record in a lock file, absent when the file is. -/
def readLockOwner (file : Option OwnerFileV1) : Option OwnerRecordV1 :=
  file.map (·.owner)

/-- Whether two records come from the same hold, or are both absent. -/
def ownerRecordsEqual : Option OwnerRecordV1 → Option OwnerRecordV1 → Bool
  | some left, some right =>
    left.pid == right.pid && left.processNonce == right.processNonce &&
      left.acquireNonce == right.acquireNonce && left.createdAtMs == right.createdAtMs
  | none, none => true
  | _, _ => false

@[simp] theorem ownerRecordsEqual_iff {left right : Option OwnerRecordV1} :
    ownerRecordsEqual left right = true ↔ left = right := by
  cases left with
  | none => cases right <;> simp [ownerRecordsEqual]
  | some left =>
    cases right with
    | none => simp [ownerRecordsEqual]
    | some right =>
      cases left
      cases right
      simp [ownerRecordsEqual, and_assoc]

/-- Whether a lock record is one that the releasing process wrote. -/
def ownsRecord (owner : OwnerRecordV1) : Option OwnerRecordV1 → Bool
  | some current =>
    current.pid == owner.pid && current.processNonce == owner.processNonce &&
      current.createdAtMs == owner.createdAtMs
  | none => false

@[simp] theorem ownsRecord_self (owner : OwnerRecordV1) : ownsRecord owner (some owner) = true := by
  simp [ownsRecord]

section Steps

variable (setting : OwnerFileSettingV1)

/-- Whether a lock file's record proves that nobody holds it. -/
def lockIsDefinitelyStale (state : LockStateV1) (self : Nat) (probe : OwnerProbeV1)
    (file : Option OwnerFileV1) : Option OwnerRecordV1 → Bool
  | some owner =>
    if owner.pid = setting.pid self then
      -- The same process identifier under another nonce is told apart by its marker alone.
      if owner.processNonce = self then false else probe.processHoldsOwnerMarker == some false
    else !probe.processIsLive || probe.processHoldsOwnerMarker == some false
  | none =>
    match file with
    | some file => decide (setting.invalidLockGraceMs ≤ state.nowMs - file.mtimeMs)
    | none => true

/-- The record of a new acquisition by a process. -/
def currentOwnerRecord (state : LockStateV1) (self : Nat) : OwnerRecordV1 :=
  { pid := setting.pid self
    processNonce := self
    acquireNonce := state.nextNonce
    createdAtMs := state.nowMs }

namespace LockStateV1

/-- The state once a process stands at another operation. -/
def goto (state : LockStateV1) (self : Nat) (pc : LockPcV1) : LockStateV1 :=
  { state with
    process := Function.update state.process self
      { state.process self with pc := pc, movedAtMs := state.nowMs } }

/-- The state once the process has drawn the nonce of its next record. -/
def draw (state : LockStateV1) : LockStateV1 :=
  { state with nextNonce := state.nextNonce + 1 }

/-- The state once a process has taken one more reference on its marker. -/
def retainProcessMarker (state : LockStateV1) (self : Nat) : LockStateV1 :=
  { state with
    process := Function.update state.process self
      { state.process self with markerRefs := (state.process self).markerRefs + 1 } }

/-- The state once a process has given up one reference on its marker. -/
def releaseProcessMarker (state : LockStateV1) (self : Nat) : LockStateV1 :=
  { state with
    process := Function.update state.process self
      { state.process self with markerRefs := (state.process self).markerRefs - 1 } }

/-- The state once a process's call has returned a handle. -/
def hold (state : LockStateV1) (self : Nat) (handle : OwnerRecordV1) : LockStateV1 :=
  { state with
    process := Function.update state.process self
      { state.process self with handles := handle :: (state.process self).handles } }

/-- The state once a process no longer has a handle. -/
def drop (state : LockStateV1) (self : Nat) (handle : OwnerRecordV1) : LockStateV1 :=
  { state with
    process := Function.update state.process self
      { state.process self with handles := (state.process self).handles.filter (· ≠ handle) } }

@[simp] theorem goto_process_self (state : LockStateV1) (self : Nat) (pc : LockPcV1) :
    (state.goto self pc).process self =
      { state.process self with pc := pc, movedAtMs := state.nowMs } := by
  simp [goto]

@[simp] theorem goto_process_other (state : LockStateV1) {self other : Nat} (pc : LockPcV1)
    (differs : other ≠ self) : (state.goto self pc).process other = state.process other := by
  simp [goto, differs]

@[simp] theorem goto_lock (state : LockStateV1) (self : Nat) (pc : LockPcV1) :
    (state.goto self pc).lock = state.lock := rfl

@[simp] theorem goto_recoveryGuard (state : LockStateV1) (self : Nat) (pc : LockPcV1) :
    (state.goto self pc).recoveryGuard = state.recoveryGuard := rfl

@[simp] theorem goto_nextNonce (state : LockStateV1) (self : Nat) (pc : LockPcV1) :
    (state.goto self pc).nextNonce = state.nextNonce := rfl

end LockStateV1

/-- Where an acquisition goes on once a recovery has ended. -/
def nextLockAttempt (call : AcquireCallV1) : LockPcV1 :=
  if call.attempt + 1 < ACQUIRE_ATTEMPTS then
    .create { call with attempt := call.attempt + 1 }
  else .abandon

/-- Where an acquisition goes on once an attempt at the guard has failed. -/
def nextGuardAttempt (call : AcquireCallV1) (owner : OwnerRecordV1) (attempt : Nat) : LockPcV1 :=
  if attempt + 1 < ACQUIRE_ATTEMPTS then .guard call owner (attempt + 1) .create else .abandon

/-- One file operation of a process that takes the recovery guard. -/
def withRecoveryGuard (state : LockStateV1) (self : Nat) (probe : OwnerProbeV1)
    (call : AcquireCallV1) (owner : OwnerRecordV1) (attempt : Nat) : GuardPcV1 → LockStateV1
  | .create =>
    match state.recoveryGuard with
    | none =>
      { state with recoveryGuard := some ⟨owner, state.nowMs⟩ }.goto self (.recover call owner .read)
    | some _ => state.goto self (.guard call owner attempt .read)
  | .read => state.goto self (.guard call owner attempt (.judge (readLockOwner state.recoveryGuard)))
  | .judge current =>
    if lockIsDefinitelyStale setting state self probe state.recoveryGuard current then
      state.goto self (.guard call owner attempt (.compare current))
    else state.goto self .abandon
  | .compare current =>
    if ownerRecordsEqual (readLockOwner state.recoveryGuard) current then
      state.goto self (.guard call owner attempt (.unlink current))
    else state.goto self (nextGuardAttempt call owner attempt)
  | .unlink _ =>
    { state with recoveryGuard := none }.goto self (nextGuardAttempt call owner attempt)

/-- One file operation of a process that holds the recovery guard. -/
def recoverStaleLock (state : LockStateV1) (self : Nat) (probe : OwnerProbeV1)
    (call : AcquireCallV1) (owner : OwnerRecordV1) : RecoverPcV1 → LockStateV1
  | .read => state.goto self (.recover call owner (.exists (readLockOwner state.lock)))
  | .exists judged =>
    if state.lock.isSome then state.goto self (.recover call owner (.judge judged))
    else state.goto self (.recover call owner .release)
  | .judge judged =>
    if lockIsDefinitelyStale setting state self probe state.lock judged then
      state.goto self (.recover call owner (.compare judged))
    else state.goto self (.recover call owner .release)
  | .compare judged =>
    if ownerRecordsEqual (readLockOwner state.lock) judged then
      state.goto self (.recover call owner (.unlink judged))
    else state.goto self (.recover call owner .release)
  | .unlink _ => { state with lock := none }.goto self (.recover call owner .release)
  | .release =>
    if ownsRecord owner (readLockOwner state.recoveryGuard) then
      state.goto self (.recover call owner .releaseUnlink)
    else state.goto self (nextLockAttempt call)
  | .releaseUnlink => { state with recoveryGuard := none }.goto self (nextLockAttempt call)

/-- One file operation of a process. -/
def stepProcess (state : LockStateV1) (self : Nat) (probe : OwnerProbeV1) :
    LockPcV1 → LockStateV1
  | .idle => state
  | .create call =>
    match state.lock with
    | none =>
      ({ state with lock := some ⟨call.owner, state.nowMs⟩ }.hold self call.owner).goto self .idle
    | some _ => state.goto self (.read call)
  | .read call => state.goto self (.judge call (readLockOwner state.lock))
  | .judge call current =>
    if lockIsDefinitelyStale setting state self probe state.lock current then
      state.draw.goto self (.guard call (currentOwnerRecord setting state self) 0 .create)
    else state.goto self .abandon
  | .guard call owner attempt pc => withRecoveryGuard setting state self probe call owner attempt pc
  | .recover call owner pc => recoverStaleLock setting state self probe call owner pc
  | .abandon => (state.releaseProcessMarker self).goto self .idle
  | .release handle =>
    if ownsRecord handle (readLockOwner state.lock) then
      state.goto self (.releaseUnlink handle)
    else (state.drop self handle).goto self .forget
  | .releaseUnlink handle => ({ state with lock := none }.drop self handle).goto self .forget
  | .forget => (state.releaseProcessMarker self).goto self .idle

end Steps

/-- The record that a process's next operation judges, where it judges one. -/
def LockPcV1.judging : LockPcV1 → Option OwnerRecordV1
  | .judge _ current => current
  | .guard _ _ _ (.judge current) => current
  | .recover _ _ (.judge owner) => owner
  | _ => none

/-- What the probes say about a record is true of the process that wrote it. -/
def OwnerProbeV1.Accurate (probe : OwnerProbeV1) (state : LockStateV1) (owner : OwnerRecordV1) :
    Prop :=
  (probe.processIsLive = false → (state.process owner.processNonce).alive = false) ∧
    (probe.processHoldsOwnerMarker = some false →
      (state.process owner.processNonce).alive = true →
        (state.process owner.processNonce).markerRefs = 0)

instance (probe : OwnerProbeV1) (state : LockStateV1) (owner : OwnerRecordV1) :
    Decidable (probe.Accurate state owner) :=
  inferInstanceAs (Decidable (_ ∧ _))

/-- Whether a process may take its next step: it lives, has not stalled, and probes accurately. -/
def MayStep (setting : OwnerFileSettingV1) (state : LockStateV1) (self : Nat)
    (probe : OwnerProbeV1) : Prop :=
  (state.process self).alive = true ∧ (state.process self).pc ≠ .idle ∧
    state.nowMs ≤ (state.process self).movedAtMs + setting.invalidLockGraceMs ∧
      ∀ owner ∈ (state.process self).pc.judging, probe.Accurate state owner

instance (setting : OwnerFileSettingV1) (state : LockStateV1) (self : Nat)
    (probe : OwnerProbeV1) : Decidable (MayStep setting state self probe) :=
  inferInstanceAs (Decidable (_ ∧ _))

/-- The state that an event leads to, where it can happen. -/
def lockStep (setting : OwnerFileSettingV1) (state : LockStateV1) : LockEventV1 → Option LockStateV1
  | .tryAcquire self =>
    if (state.process self).alive = true ∧ (state.process self).pc = .idle then
      some ((state.draw.retainProcessMarker self).goto self
        (.create ⟨currentOwnerRecord setting state self, 0⟩))
    else none
  | .release self handle =>
    if (state.process self).alive = true ∧ (state.process self).pc = .idle ∧
        handle ∈ (state.process self).handles then
      some (state.goto self (.release handle))
    else none
  | .step self probe =>
    if MayStep setting state self probe then
      some (stepProcess setting state self probe (state.process self).pc)
    else none
  | .die self =>
    some { state with
      process := Function.update state.process self
        { state.process self with alive := false } }
  | .tick elapsedMs => some { state with nowMs := state.nowMs + elapsedMs }

/-- No lock, no guard, and every process idle. -/
def LockStateV1.initial : LockStateV1 where
  lock := none
  recoveryGuard := none
  nowMs := 0
  nextNonce := 0
  process := fun _ =>
    { alive := true, markerRefs := 0, handles := [], pc := .idle, movedAtMs := 0 }

/-- Any number of processes that take and release the lock on one path. -/
def ownerFileLock (setting : OwnerFileSettingV1) : Machine LockStateV1 LockEventV1 where
  starts state := state = .initial
  step before event after := lockStep setting before event = some after

end Klura
