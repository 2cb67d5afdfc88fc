import Klura.Library.Program
import Klura.Run.Contract

/-! The state of an executing run: its durable writes, its counters and its live helpers. -/

namespace Klura

/-- What one spool blob holds. -/
inductive BlobContentV1 where
  | node (node : ScrapeNodeV1)
  | item (item : JsonValueV1)

/-- The JSON a blob's bytes are the canonical text of. -/
def BlobContentV1.value : BlobContentV1 → JsonValueV1
  | .node state => scrapeNodeValue state
  | .item value => value

/-- One append to the run's directory: a spool blob or a journal frame. -/
inductive DurableWriteV1 where
  | blob (content : BlobContentV1) (reference : BlobRefV1)
  | frame (frame : JournalFrameV1)

/-- Everything the run has appended, newest first, so that a crash keeps a tail of it. -/
abbrev Disk : Type := List DurableWriteV1

namespace Disk

/-- The frame a write is, when it is one. -/
def frameOf : DurableWriteV1 → Option JournalFrameV1
  | .frame frame => some frame
  | .blob .. => none

/-- The blob a write is, when it is one. -/
def blobOf : DurableWriteV1 → Option (BlobContentV1 × BlobRefV1)
  | .frame _ => none
  | .blob content reference => some (content, reference)

/-- The journal's frames, newest first. -/
def frames (disk : Disk) : List JournalFrameV1 := disk.filterMap frameOf

/-- The spool's blobs, newest first. -/
def blobs (disk : Disk) : List (BlobContentV1 × BlobRefV1) := disk.filterMap blobOf

/-- The bytes of the journal file. -/
def journalBytes (disk : Disk) : Nat := (disk.frames.head?.map JournalFrameV1.endOffset).getD 0

/-- The bytes of the data spool. -/
def spoolBytes (disk : Disk) : Nat :=
  (disk.blobs.head?.map fun blob => blob.2.offset + blob.2.length).getD 0

end Disk

/-- An item that is durable and not yet visible. -/
structure BufferedRunItemV1 where
  nodeId : RunNodeIdV1
  identityDigest : Sha256DigestV1
  logicalOrder : ItemLogicalOrderV1
  item : JsonValueV1
  itemBytes : Nat
  reservedOutputBytes : Nat

/-- The counters and sets one execution of a run keeps in memory. -/
structure ExecutionStateV1 where
  sequence : Nat
  previousDigest : Option Sha256DigestV1
  executionEpoch : Nat
  summary : ScrapeRunSummaryV1
  identityDigests : List Sha256DigestV1
  maximumJournalBytes : Nat
  maximumJournalFrames : Nat
  localStateBytes : Int
  retainedFanoutItemBytes : Int
  outputBytes : Int
  tasksStarted : Nat
  pagesStarted : Nat
  nextNodeOrdinal : Nat
  nextItemSequence : Nat
  knownNodeIds : List RunNodeIdV1
  bufferedItems : List BufferedRunItemV1
  reservedItemCount : Int
  reservedOutputBytes : Int
  reservedIdentityStateBytes : Int
  reservedTargetRequests : Int
  reservedReorderBufferBytes : Int
  hadIndependentFailure : Bool
  terminal : Bool

/-- The run-owned sibling file a file output is written to. -/
structure FileRunOutputSinkV1 where
  requestedPath : String
  format : RunOutputFormatV1
  csvColumns : Option (List CsvColumnV1)
  maxOutputBytes : Nat
  /-- The file's text, without the bracket that closes a JSON array. -/
  written : Bytes
  bytesWritten : Nat
  itemsWritten : Nat
  closed : Bool

/-- The active cutoffs of a run with the last value each has seen. -/
structure SemanticStopTrackerV1 where
  previous : List (StableContractIdV1 × Int)
  active : List (SemanticStopV1 × Int)

/-- The nodes waiting to be dispatched, with the bytes they take. -/
structure FrontierV1 where
  nodes : List ScrapeNodeV1
  encodedBytes : Int
  maximumBytes : Nat

/-- How the promise of one commit turn was settled. -/
inductive TurnSettlement where
  | resolved
  | rejected (reason : RunError)

/-- The order in which the chains of one dispatch batch commit. -/
structure AttemptOrderV1 where
  nextAllocated : Nat
  nextCommit : Nat
  abortReason : Option RunError
  waiters : List Nat
  settled : List (Nat × TurnSettlement)

/-- Everything the code of one executing run reads and writes. -/
structure World where
  disk : Disk
  state : ExecutionStateV1
  sink : Option FileRunOutputSinkV1
  semanticStops : SemanticStopTrackerV1
  frontier : FrontierV1
  /-- The stop the execution control has latched. -/
  controlStop : Option RunStopV1
  /-- Whether a cancellation has been recorded. -/
  cancellationRequested : Bool
  attemptOrder : AttemptOrderV1
  /-- The stop a chain of the current batch has reported. -/
  batchStop : Option RunStopV1
  /-- Whether the deadline has passed at each coming look at the clock. -/
  clock : List Bool
  /-- Whether linking the prepared output to its destination succeeds. -/
  linkSucceeds : Bool

/-- A program of the run service. -/
abbrev RunProgram (α : Type) : Type := Program World RunError α

/-- Updates the execution state. -/
def modifyState (update : ExecutionStateV1 → ExecutionStateV1) : RunProgram PUnit :=
  modify fun world => { world with state := update world.state }

/-- Raises the issue a contract check reports. -/
def orRaise {α : Type} : Except ContractIssueV1 α → RunProgram α
  | .ok value => pure value
  | .error issue => throw issue.raised

/-- Raises the issue a contract check reports as an invalid item. -/
def orItemInvalid {α : Type} : Except ContractIssueV1 α → RunProgram α
  | .ok value => pure value
  | .error issue => throw (.itemValidation issue.raised.message)

end Klura
