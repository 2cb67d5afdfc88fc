import Klura.Library.Machine
import Klura.Run.StoredRun

/-! Following a stored run: the stream of its items beside the writer that appends them. -/

namespace Klura

/-- The most items that the stream reads at once. -/
def FOLLOW_PAGE_LIMIT : Nat := 100

/-- The file watcher of a journal: a change that nobody has taken, and whether it broke. -/
structure JournalChangeWatcherV1 where
  changed : Bool
  failure : Bool

/-- How a followed run has come to an end. -/
inductive FollowedEndV1 where
  | terminal
  | interrupted
  deriving DecidableEq

/-- The end that a lifecycle is, when it is one. -/
def StoredRunLifecycleV1.followedEnd : StoredRunLifecycleV1 → Option FollowedEndV1
  | .terminal .. => some .terminal
  | .interrupted .. => some .interrupted
  | .cancelling .. | .nonterminal _ => none

/-- Where the generator stands between two of its steps. -/
inductive FollowStageV1 where
  /-- Before the options are checked and the watcher is opened. -/
  | opening
  /-- At the head of the loop, where the signal is looked at. -/
  | looping
  /-- Before the inspection that precedes a page. -/
  | checking
  /-- Before a page is read. -/
  | paging
  /-- With the rest of a page to yield and the cursor of the next one. -/
  | yielding (items : List CommittedRunItemV1) (next : Option Nat)
  /-- Before the lifecycle is read. -/
  | inspecting
  /-- Before the watcher is asked for a change. -/
  | awaiting
  /-- Waiting for the watcher to wake it. -/
  | waiting
  /-- After the end event. -/
  | ended (lifecycle : FollowedEndV1) (lastSequence : Nat)
  /-- Left without an end event, because the signal was aborted. -/
  | returned
  /-- Left with an error. -/
  | failed (error : RunError)

/-- The generator with its watcher, its signal and what it has yielded. -/
structure FollowItemsV1 where
  afterSequence : Nat
  aborted : Bool
  watcher : JournalChangeWatcherV1
  yielded : List CommittedRunItemV1
  stage : FollowStageV1

namespace FollowItemsV1

/-- The generator before its first step. -/
def initial (afterSequence : Nat) : FollowItemsV1 :=
  { afterSequence, aborted := false, watcher := { changed := false, failure := false }
    yielded := [], stage := .opening }

/-- The generator after an error of a reader. -/
def failing (follow : FollowItemsV1) (error : RunError) : FollowItemsV1 :=
  { follow with stage := .failed error }

variable (env : RunEnvironment) (metaDigest : Sha256DigestV1) (disk : Disk)

/-- The next step of the generator on a run as it is stored now, when it can take one. -/
def advance (follow : FollowItemsV1) : Option FollowItemsV1 :=
  match follow.stage with
  | .opening =>
    match parseInteger follow.afterSequence "run.items.after_sequence" 0 MAX_AFTER_SEQUENCE with
    | .error error => some (follow.failing error)
    | .ok _ =>
      match inspectStoredRun env metaDigest disk with
      | .error error => some (follow.failing error)
      | .ok _ => some { follow with stage := .looping }
  | .looping =>
    if follow.aborted then some { follow with stage := .returned }
    else some { follow with stage := .checking }
  | .checking =>
    match inspectStoredRun env metaDigest disk with
    | .error error => some (follow.failing error)
    | .ok _ => some { follow with stage := .paging }
  | .paging =>
    match readCommittedRunItemsPage env disk follow.afterSequence FOLLOW_PAGE_LIMIT with
    | .error error => some (follow.failing error)
    | .ok page => some { follow with stage := .yielding page.items page.nextAfterSequence }
  | .yielding (item :: rest) next =>
    some { follow with
      afterSequence := item.sequence
      yielded := follow.yielded ++ [item]
      stage := .yielding rest next }
  | .yielding [] (some _) => some { follow with stage := .checking }
  | .yielding [] none => some { follow with stage := .inspecting }
  | .inspecting =>
    match inspectStoredRun env metaDigest disk with
    | .error error => some (follow.failing error)
    | .ok inspection =>
      match inspection.lifecycle.followedEnd with
      | some lifecycle => some { follow with stage := .ended lifecycle follow.afterSequence }
      | none => some { follow with stage := .awaiting }
  | .awaiting =>
    if follow.aborted then some { follow with stage := .returned }
    else if follow.watcher.failure then some (follow.failing (.error "the file watcher failed"))
    else if follow.watcher.changed then
      some { follow with watcher := { follow.watcher with changed := false }, stage := .looping }
    else some { follow with stage := .waiting }
  | .waiting | .ended .. | .returned | .failed _ => none

/-- Whether the generator has closed its watcher. -/
def closed (follow : FollowItemsV1) : Bool :=
  match follow.stage with
  | .ended .. | .returned | .failed _ => true
  | _ => false

/-- The generator after its watcher is told of a change, which wakes it when it waits. -/
def notified (follow : FollowItemsV1) : FollowItemsV1 :=
  match follow.stage with
  | .waiting =>
    { follow with watcher := { follow.watcher with changed := false }, stage := .looping }
  | .opening => follow
  | _ => { follow with watcher := { follow.watcher with changed := true } }

/-- The generator after its watcher broke. -/
def broken (follow : FollowItemsV1) : FollowItemsV1 :=
  let watcher := { follow.watcher with failure := true }
  match follow.stage with
  | .waiting => { follow with watcher, stage := .failed (.error "the file watcher failed") }
  | _ => { follow with watcher }

/-- The generator after its signal was aborted. -/
def abort (follow : FollowItemsV1) : FollowItemsV1 :=
  match follow.stage with
  | .waiting => { follow with aborted := true, stage := .returned }
  | _ => { follow with aborted := true }

end FollowItemsV1

/-- Whether a disk holds a run that can be recovered and is bound to this metadata. -/
def Stored (env : RunEnvironment) (metaDigest : Sha256DigestV1) (disk : Disk) : Prop :=
  boundMeta disk.frames = some metaDigest ∧
    ∃ recovered, recoverStoredRun env disk = .ok recovered

/-- The references that an event makes durable. -/
def JournalEventV1.refersTo : JournalEventV1 → List BlobRefV1
  | .itemBuffered _ _ data _ => [data]
  | _ => []

/-- A disk whose journal was appended to and that still reads back every buffered item. -/
structure Disk.Appended (before after : Disk) : Prop where
  frames : ∃ newer, after.frames = newer ++ before.frames
  reads : ∀ frame ∈ before.frames, ∀ reference ∈ frame.body.event.refersTo, ∀ content,
    readDataBlob before reference = .ok content → readDataBlob after reference = .ok content

/-- A followed run: what is stored of it, the generator, and what the model remembers. -/
structure FollowedRunV1 where
  disk : Disk
  follow : FollowItemsV1
  /-- Whether the watcher owes a notification for an append. -/
  owed : Bool
  /-- How many committed items the run had when the last page was read. -/
  seen : Nat

/-- What may happen next to a followed run. -/
inductive FollowEventV1 where
  /-- The run's writer appends to its directory, which then holds this. -/
  | append (disk : Disk)
  /-- The watcher tells of a change. -/
  | notify
  /-- The watcher breaks. -/
  | breakWatcher
  /-- The signal is aborted. -/
  | abort
  /-- The generator takes its next step; after a yield, because the consumer asks for more. -/
  | advance

/-- How many items a stored run has committed. -/
def committedCount (disk : Disk) : Nat :=
  match visitCommittedRunItems disk with
  | .ok items => items.length
  | .error _ => 0

/-- The machine of a run that is written and followed from a sequence on. -/
def followMachine (env : RunEnvironment) (metaDigest : Sha256DigestV1) (afterSequence : Nat) :
    Machine FollowedRunV1 FollowEventV1 where
  starts state := Stored env metaDigest state.disk ∧ state.follow = .initial afterSequence ∧
    state.owed = false ∧ state.seen = 0
  step before event after :=
    -- The stream is over once its watcher is closed.
    before.follow.closed = false ∧
    match event with
    | .append disk => before.disk.Appended disk ∧ Stored env metaDigest disk ∧
        after = { before with disk, owed := true }
    | .notify => after = { before with follow := before.follow.notified, owed := false }
    | .breakWatcher => after = { before with follow := before.follow.broken }
    | .abort => after = { before with follow := before.follow.abort }
    | .advance => ∃ follow, before.follow.advance env metaDigest before.disk = some follow ∧
        after = { before with
          follow
          seen := match before.follow.stage with
            | .paging => committedCount before.disk
            | _ => before.seen }

end Klura
