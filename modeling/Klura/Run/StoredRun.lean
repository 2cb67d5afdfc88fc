import Klura.Run.Recovery

/-! The readers of a stored run: its journal file, its lifecycle and the pages of its items. -/

namespace Klura

/-- The most bytes that a file may have to be read at once. -/
def MAX_READ_FILE_BYTES : Nat := 2147483647

/-- The bytes of the journal file that a list of frames makes. -/
def journalFileBytes (frames : List JournalFrameV1) : Nat :=
  (frames.map fun frame => frameBytes (canonicalJson frame.body.value)).sum

/-- A journal error of a file whose bytes cannot have been written by the appender. -/
def journalCorrupt {α : Type} (message : String) : Except RunError α :=
  .error (.runJournal .journalCorrupt message)

/-- Checks one frame against the frame before it. -/
def readJournalFrame (env : RunEnvironment) (older : List JournalFrameV1)
    (frame : JournalFrameV1) : Except RunError Unit := do
  let text := canonicalJson frame.body.value
  if MAX_FRAME_BODY_BYTES_V1 < text.length then
    journalCorrupt "journal frame declares an oversized body"
  else if frame.digest ≠ env.sha256Digest text then
    journalCorrupt "journal frame checksum does not match its body"
  else do
    (parseJournalFrameBody env frame.body s!"journal.frame[{older.length}]").mapError fun error =>
      if error.isPublicContractError then .runJournal .journalCorrupt error.message else error
    if frame.body.runId ≠ env.runId then
      journalCorrupt "journal frame belongs to a different run"
    else if frame.body.sequence ≠ older.length + 1 then
      journalCorrupt "journal sequence is not contiguous"
    else if frame.body.previousFrameDigest ≠ older.head?.map JournalFrameV1.digest then
      journalCorrupt "journal hash chain is broken"
    else return ()

/-- Checks every frame of a journal, which are given newest first. -/
def readJournal (env : RunEnvironment) : List JournalFrameV1 → Except RunError Unit
  | [] => .ok ()
  | frame :: older => do
    readJournal env older
    readJournalFrame env older frame

/-- Reads the journal file, whose frames are returned newest first. -/
def recoverJournalFile (env : RunEnvironment) (disk : Disk) :
    Except RunError (List JournalFrameV1) := do
  if MAX_READ_FILE_BYTES < journalFileBytes disk.frames then
    throw (.error "file size is greater than 2 GiB")
  readJournal env disk.frames
  return disk.frames

/-- Whether a run is over, and why, as its stored frames tell it. -/
inductive StoredRunLifecycleV1 where
  | nonterminal (lastSequence : Nat)
  | interrupted (reason : InterruptionReasonV1) (sequence : Nat)
  | cancelling (source : RunCancellationSourceV1) (sequence : Nat)
  | terminal (resultKind : RunResultKindV1) (stop : TerminalRunStopV1) (sequence : Nat)

/-- The last recorded cause behind a stop. -/
structure StoredStopReasonV1 where
  stop : RunStopV1
  message : String
  nodeId : Option RunNodeIdV1
  taskKindId : Option StableContractIdV1
  sequence : Nat

/-- What an inspection reports of a stored run. -/
structure StoredRunInspectionV1 where
  stateVersion : Nat
  lifecycle : StoredRunLifecycleV1
  committedItemCount : Nat
  stopReason : Option StoredStopReasonV1

/-- What an inspection has gathered from the frames before. -/
structure InspectionStateV1 where
  terminal : Option (RunResultKindV1 × TerminalRunStopV1 × Nat)
  interrupted : Option (InterruptionReasonV1 × Nat)
  cancelling : Option (RunCancellationSourceV1 × Nat)
  committedItems : Nat
  stopReason : Option StoredStopReasonV1

/-- The inspection before its first frame. -/
def InspectionStateV1.initial : InspectionStateV1 :=
  { terminal := none, interrupted := none, cancelling := none, committedItems := 0
    stopReason := none }

/-- The lifecycle that the strongest of the gathered facts stands for. -/
def InspectionStateV1.lifecycle (state : InspectionStateV1) (lastSequence : Nat) :
    StoredRunLifecycleV1 :=
  match state.terminal, state.cancelling, state.interrupted with
  | some (resultKind, stop, sequence), _, _ => .terminal resultKind stop sequence
  | none, some (source, sequence), _ => .cancelling source sequence
  | none, none, some (reason, sequence) => .interrupted reason sequence
  | none, none, none => .nonterminal lastSequence

/-- An inspection's refusal of a journal. -/
def inspectionIssue {α : Type} (message : String) : Except RunError α :=
  .error (.publicContract "run.journal" message)

/-- The inspection after one more frame that is not terminal. -/
def inspectEvent (state : InspectionStateV1) (sequence : Nat) : JournalEventV1 → InspectionStateV1
  | .itemCommitted .. => { state with committedItems := state.committedItems + 1 }
  | .stopReason nodeId taskKindId stop message =>
    { state with stopReason := some { stop, message, nodeId, taskKindId, sequence } }
  | .interrupted reason => { state with interrupted := some (reason, sequence) }
  | .stateChanged _ => { state with interrupted := none }
  | .cancelRequested source => { state with cancelling := some (source, sequence) }
  | _ => state

/-- The inspection after one more frame. -/
def inspectFrame (state : InspectionStateV1) (body : JournalFrameBodyV1) :
    Except RunError InspectionStateV1 :=
  match body.event with
  | .terminal descriptor _ =>
    if state.terminal.isSome then inspectionIssue "contains more than one terminal frame"
    else .ok { state with
      terminal := some (descriptor.resultKind, descriptor.stop, body.sequence) }
  | event =>
    if state.terminal.isSome then inspectionIssue "contains work after its terminal frame"
    else .ok (inspectEvent state body.sequence event)

/-- The inspection of a journal's frames, which are given newest first. -/
def inspectFrames : List JournalFrameV1 → Except RunError InspectionStateV1
  | [] => .ok .initial
  | frame :: older => do
    let state ← inspectFrames older
    inspectFrame state frame.body

/-- The metadata that an event binds a run to. -/
def JournalEventV1.boundMeta : JournalEventV1 → Option Sha256DigestV1
  | .runCreated metaDigest _ => some metaDigest
  | _ => none

/-- The metadata that a journal, given newest first, binds its run to in its first frame. -/
def boundMeta (frames : List JournalFrameV1) : Option Sha256DigestV1 :=
  frames.getLast?.bind fun first => first.body.event.boundMeta

/-- Reads the durable lifecycle without assigning semantics to a missing terminal frame. -/
def inspectStoredRun (env : RunEnvironment) (metaDigest : Sha256DigestV1) (disk : Disk) :
    Except RunError StoredRunInspectionV1 :=
  Except.mapError (fun error =>
      if error.isPublicContractError then .publicContract "run.journal" error.message else error) do
    let frames ← recoverJournalFile env disk
    if frames.isEmpty then inspectionIssue "is missing its run creation frame"
    else if boundMeta frames ≠ some metaDigest then
      inspectionIssue "run creation frame does not bind metadata"
    else do
      let state ← inspectFrames frames
      let lastSequence := (frames.head?.map fun frame => frame.body.sequence).getD 0
      return {
        stateVersion := lastSequence
        lifecycle := state.lifecycle lastSequence
        committedItemCount := state.committedItems
        stopReason := state.stopReason }

/-- Whether durable run state proves that the run can no longer dispatch traffic. -/
def isRunTerminalOrUnstarted (env : RunEnvironment) (disk : Disk) : Bool :=
  match recoverJournalFile env disk with
  | .error _ => false
  | .ok [] => true
  | .ok (last :: _) => last.body.event.isTerminal

/-- Reconstructs the durable state of a stored run. -/
def recoverStoredRun (env : RunEnvironment) (disk : Disk) : Except RunError RecoveredRunStateV1 := do
  let _ ← (recoverJournalFile env disk).mapError asRecoveryError
  recoverRunState env disk

/-- Reads the committed items of a stored run. -/
def readStoredRunItems (env : RunEnvironment) (disk : Disk) :
    Except RunError (List JsonValueV1) := do
  let _ ← recoverJournalFile env disk
  readCommittedRunItems disk

/-- Reads the buffered items of a stored run that have not been resolved. -/
def readStoredPendingItems (env : RunEnvironment) (disk : Disk) :
    Except RunError (List BufferedRunItemV1) := do
  let _ ← recoverJournalFile env disk
  readPendingBufferedRunItems disk

/-- The last sequence after which a page of items may begin. -/
def MAX_AFTER_SEQUENCE : Nat := 1000000000

/-- The most items that one page may hold. -/
def MAX_PAGE_LIMIT : Nat := 100

/-- One page of the committed items, with the sequence after which the next page begins. -/
structure CommittedRunItemsPageV1 where
  items : List CommittedRunItemV1
  nextAfterSequence : Option Nat

/-- Walks over frames, given oldest first, until a page of items is full. -/
def pageFrames (disk : Disk) (afterSequence limit : Nat) (visit : ItemVisitV1)
    (paged : List CommittedRunItemV1) :
    List JournalFrameV1 → Except RunError CommittedRunItemsPageV1
  | [] => .ok { items := paged, nextAfterSequence := none }
  | frame :: later => do
    let next ← visitItemEvent disk visit frame.body.event
    match frame.body.event, next.items with
    | .itemCommitted .., item :: _ =>
      if item.sequence ≤ afterSequence then pageFrames disk afterSequence limit next paged later
      else if limit ≤ paged.length then
        match paged.getLast? with
        | none => .error (.runResult "item page has no terminal cursor")
        | some last => return { items := paged, nextAfterSequence := some last.sequence }
      else pageFrames disk afterSequence limit next (paged ++ [item]) later
    | _, _ => pageFrames disk afterSequence limit next paged later

/-- Reads one bounded, exclusive page from the committed journal item sequence. -/
def readCommittedRunItemsPage (env : RunEnvironment) (disk : Disk) (afterSequence limit : Nat) :
    Except RunError CommittedRunItemsPageV1 := do
  parseInteger afterSequence "run.items.after_sequence" 0 MAX_AFTER_SEQUENCE
  parseInteger limit "run.items.limit" 1 MAX_PAGE_LIMIT
  let frames ← recoverJournalFile env disk
  pageFrames disk afterSequence limit .initial [] frames.reverse

/-- Reads page after page from a sequence on, in at most a number of pages. -/
def followPages (env : RunEnvironment) (disk : Disk) (limit : Nat) :
    Nat → Nat → Except RunError (List CommittedRunItemV1)
  | 0, _ => .error (.error "the pages have not come to an end")
  | pages + 1, afterSequence => do
    let page ← readCommittedRunItemsPage env disk afterSequence limit
    match page.nextAfterSequence with
    | none => return page.items
    | some next => do
      let items ← followPages env disk limit pages next
      return page.items ++ items

end Klura
