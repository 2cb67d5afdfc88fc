import Klura.Contracts.Common

/-! Journal events and frames, and the JSON their bytes and digests are taken of. -/

namespace Klura

/-- The bytes of the spool one durable value occupies, with their digest. -/
structure BlobRefV1 where
  offset : Nat
  length : Nat
  sha256 : Sha256DigestV1
  deriving DecidableEq

/-- A stable hierarchy position assigned before a collection node is enqueued. -/
structure ItemLogicalOrderV1 where
  nodeOrdinal : Nat
  pageOrdinal : Int
  itemOrdinal : Nat
  deriving DecidableEq

/-- Why a run stopped before its source was exhausted. -/
inductive RunStopV1 where
  | cancelled
  | deadlineExhausted
  | taskFailed
  | runBudgetExhausted
  | itemInvalid
  | outputSinkFailure
  deriving DecidableEq

/-- How a run that finished its work stopped. -/
inductive RunCompletionStopV1 where
  | sourceExhausted
  | dateCutoffReached (semanticStopId : StableContractIdV1)
  deriving DecidableEq

/-- How a terminal result says its run stopped. -/
inductive TerminalRunStopV1 where
  | stopped (stop : RunStopV1)
  | completed (stop : RunCompletionStopV1)
  deriving DecidableEq

/-- Who asked for a cancellation. -/
inductive RunCancellationSourceV1 where
  | foregroundSigint
  | sdkCancel
  | mcpCancel
  | cliCancel
  deriving DecidableEq

/-- What one attempt's result turned out to be. -/
inductive ResultKindV1 where
  | outcome
  | unclassifiedResponse
  | ambiguousResponse
  | verificationFailed
  | projectionFailed
  | failure
  deriving DecidableEq

/-- The kind of result a run ends with. -/
inductive RunResultKindV1 where
  | scrapeOutcome
  | scrapePartial
  | scrapeFailure
  deriving DecidableEq

/-- The format of a file output. -/
inductive RunOutputFormatV1 where
  | json
  | ndjson
  | csv
  deriving DecidableEq

/-- Why an unfinished run was marked interrupted. -/
inductive InterruptionReasonV1 where
  | daemonStopped
  | daemonCrash
  | processCrash
  | browserCrash
  deriving DecidableEq

/-- The counters a run reports. -/
structure ScrapeRunSummaryV1 where
  itemsEmitted : Nat
  itemsDuplicate : Nat
  tasksCompleted : Nat
  tasksFailed : Nat
  targetRequests : Nat
  deriving DecidableEq

/-- The output a terminal result names. -/
inductive TerminalOutputV1 where
  | inline (partialResult : Bool)
  | file (path : String) (format : RunOutputFormatV1) (partialResult : Bool)
  | none
  deriving DecidableEq

/-- Everything a terminal frame says about its run. -/
structure TerminalResultDescriptorV1 where
  resultKind : RunResultKindV1
  stop : TerminalRunStopV1
  summary : ScrapeRunSummaryV1
  output : TerminalOutputV1
  deriving DecidableEq

/-- The state a `state_changed` frame announces. -/
inductive JournalStateV1 where
  | queued
  | running (executionEpoch : Nat)
  deriving DecidableEq

/-- One journaled step of a run. -/
inductive JournalEventV1 where
  | runCreated (metaDigest : Sha256DigestV1) (initialNodes : Option (List BlobRefV1))
  | stateChanged (state : JournalStateV1)
  | nodeEnqueued (nodeId : RunNodeIdV1) (logicalKeyDigest : Sha256DigestV1)
      (nodeState : BlobRefV1) (taskKindId : StableContractIdV1) (rootOrdinal : Nat)
      (seedOrdinal : Option Nat) (depth outputOrdinal : Nat)
  | nodeProgressed (nodeId : RunNodeIdV1) (nodeState : BlobRefV1)
  | nodeReplayAuthorized (nodeId : RunNodeIdV1) (taskKindId : StableContractIdV1)
  | attemptIntent (nodeId : RunNodeIdV1) (taskKindId : StableContractIdV1)
  | attemptObserved (nodeId : RunNodeIdV1) (taskKindId : StableContractIdV1)
      (resultKind : ResultKindV1) (attempts : Nat)
  | taskCompleted (nodeId : RunNodeIdV1) (taskKindId : StableContractIdV1)
  | itemBuffered (nodeId : RunNodeIdV1) (identityDigest : Sha256DigestV1) (data : BlobRefV1)
      (logicalOrder : ItemLogicalOrderV1)
  | itemCommitted (nodeId : RunNodeIdV1) (identityDigest : Sha256DigestV1)
      (logicalOrder : ItemLogicalOrderV1) (itemSequence : Nat)
  | itemDuplicate (nodeId : RunNodeIdV1) (identityDigest : Sha256DigestV1)
      (logicalOrder : ItemLogicalOrderV1)
  | sinkCommitted (throughItemSequence byteOffset : Nat) (prefixDigest : Sha256DigestV1)
  | outputPrepared (pathDigest contentDigest : Sha256DigestV1) (byteLength : Nat)
      (terminalDescriptor : TerminalResultDescriptorV1)
      (terminalDescriptorDigest : Sha256DigestV1)
  | outputCommitted (contentDigest : Sha256DigestV1) (byteLength : Nat)
      (terminalDescriptorDigest : Sha256DigestV1)
  | nodeCompleted (nodeId : RunNodeIdV1)
  | taskSkipped (nodeId : RunNodeIdV1) (taskKindId : StableContractIdV1) (stop : RunStopV1)
  | stopReason (nodeId : Option RunNodeIdV1) (taskKindId : Option StableContractIdV1)
      (stop : RunStopV1) (message : String)
  | interrupted (reason : InterruptionReasonV1)
  | cancelRequested (source : RunCancellationSourceV1)
  | terminal (descriptor : TerminalResultDescriptorV1) (descriptorDigest : Sha256DigestV1)
  deriving DecidableEq

/-- The signed content of one frame. -/
structure JournalFrameBodyV1 where
  runId : RunIdV1
  sequence : Nat
  executionEpoch : Nat
  previousFrameDigest : Option Sha256DigestV1
  event : JournalEventV1
  deriving DecidableEq

/-- One frame as it stands in the journal file. -/
structure JournalFrameV1 where
  body : JournalFrameBodyV1
  digest : Sha256DigestV1
  offset : Nat
  endOffset : Nat
  deriving DecidableEq

/-! The texts of the closed unions, as the journal writes them. -/

/-- The text of a stop. -/
def RunStopV1.text : RunStopV1 → String
  | .cancelled => "cancelled"
  | .deadlineExhausted => "deadline_exhausted"
  | .taskFailed => "task_failed"
  | .runBudgetExhausted => "run_budget_exhausted"
  | .itemInvalid => "item_invalid"
  | .outputSinkFailure => "output_sink_failure"

/-- The text of a cancellation source. -/
def RunCancellationSourceV1.text : RunCancellationSourceV1 → String
  | .foregroundSigint => "foreground_sigint"
  | .sdkCancel => "sdk_cancel"
  | .mcpCancel => "mcp_cancel"
  | .cliCancel => "cli_cancel"

/-- The text of an attempt's result kind. -/
def ResultKindV1.text : ResultKindV1 → String
  | .outcome => "outcome"
  | .unclassifiedResponse => "unclassified_response"
  | .ambiguousResponse => "ambiguous_response"
  | .verificationFailed => "verification_failed"
  | .projectionFailed => "projection_failed"
  | .failure => "failure"

/-- The text of a run's result kind. -/
def RunResultKindV1.text : RunResultKindV1 → String
  | .scrapeOutcome => "scrape_outcome"
  | .scrapePartial => "scrape_partial"
  | .scrapeFailure => "scrape_failure"

/-- The text of an output format. -/
def RunOutputFormatV1.text : RunOutputFormatV1 → String
  | .json => "json"
  | .ndjson => "ndjson"
  | .csv => "csv"

/-- The text of an interruption's reason. -/
def InterruptionReasonV1.text : InterruptionReasonV1 → String
  | .daemonStopped => "daemon_stopped"
  | .daemonCrash => "daemon_crash"
  | .processCrash => "process_crash"
  | .browserCrash => "browser_crash"

/-- A text as JSON. -/
def textValue (text : String) : JsonValueV1 := .string (utf8 text)

/-- A natural number as JSON. -/
def natValue (value : Nat) : JsonValueV1 := .number (.ofInt value)

/-- A digest as JSON. -/
def digestValue (digest : Sha256DigestV1) : JsonValueV1 := .string digest.text

/-- A node identifier as JSON. -/
def nodeIdValue (nodeId : RunNodeIdV1) : JsonValueV1 := .string nodeId.text

/-- An identifier as JSON. -/
def idValue (id : StableContractIdV1) : JsonValueV1 := textValue id.text

/-- An optional field, absent as null. -/
def nullable {α : Type} (value : Option α) (render : α → JsonValueV1) : JsonValueV1 :=
  (value.map render).getD .null

/-- A blob reference as JSON. -/
def BlobRefV1.value (reference : BlobRefV1) : JsonValueV1 :=
  .object [("offset", natValue reference.offset), ("length", natValue reference.length),
    ("sha256", digestValue reference.sha256)]

/-- An item position as JSON. -/
def ItemLogicalOrderV1.value (order : ItemLogicalOrderV1) : JsonValueV1 :=
  .object [("node_ordinal", natValue order.nodeOrdinal),
    ("page_ordinal", .number (.ofInt order.pageOrdinal)),
    ("item_ordinal", natValue order.itemOrdinal)]

/-- A completion stop as JSON. -/
def RunCompletionStopV1.value : RunCompletionStopV1 → JsonValueV1
  | .sourceExhausted => .object [("kind", textValue "source_exhausted")]
  | .dateCutoffReached id =>
    .object [("kind", textValue "date_cutoff_reached"), ("semantic_stop_id", idValue id)]

/-- A terminal stop as JSON. -/
def TerminalRunStopV1.value : TerminalRunStopV1 → JsonValueV1
  | .stopped stop => textValue stop.text
  | .completed stop => stop.value

/-- A summary as JSON. -/
def ScrapeRunSummaryV1.value (summary : ScrapeRunSummaryV1) : JsonValueV1 :=
  .object [("items_emitted", natValue summary.itemsEmitted),
    ("items_duplicate", natValue summary.itemsDuplicate),
    ("tasks_completed", natValue summary.tasksCompleted),
    ("tasks_failed", natValue summary.tasksFailed),
    ("target_requests", natValue summary.targetRequests)]

/-- A terminal output as JSON. -/
def TerminalOutputV1.value : TerminalOutputV1 → JsonValueV1
  | .inline isPartial => .object [("kind", textValue "inline"), ("partial", .boolean isPartial)]
  | .file path format isPartial =>
    .object [("kind", textValue "file"), ("path", textValue path), ("format", textValue format.text),
      ("partial", .boolean isPartial)]
  | .none => .object [("kind", textValue "none")]

/-- A terminal descriptor as JSON. -/
def TerminalResultDescriptorV1.value (descriptor : TerminalResultDescriptorV1) : JsonValueV1 :=
  .object [("descriptor_schema_version", natValue 1),
    ("result_kind", textValue descriptor.resultKind.text), ("stop", descriptor.stop.value),
    ("summary", descriptor.summary.value), ("output", descriptor.output.value)]

/-- The state a `state_changed` frame carries, as JSON. -/
def JournalStateV1.value : JournalStateV1 → JsonValueV1
  | .queued => .object [("kind", textValue "queued")]
  | .running epoch =>
    .object [("kind", textValue "running"), ("execution_epoch", natValue epoch),
      ("current_node_id", .null)]

/-- An event as JSON. -/
def JournalEventV1.value : JournalEventV1 → JsonValueV1
  | .runCreated metaDigest none =>
    .object [("kind", textValue "run_created"), ("meta_digest", digestValue metaDigest)]
  | .runCreated metaDigest (some initialNodes) =>
    .object [("kind", textValue "run_created"), ("meta_digest", digestValue metaDigest),
      ("initial_nodes", .array (initialNodes.map BlobRefV1.value))]
  | .stateChanged state =>
    .object [("kind", textValue "state_changed"), ("state", state.value)]
  | .nodeEnqueued nodeId keyDigest nodeState taskKindId rootOrdinal seedOrdinal depth ordinal =>
    .object [("kind", textValue "node_enqueued"), ("node_id", nodeIdValue nodeId),
      ("logical_key_digest", digestValue keyDigest), ("node_state", nodeState.value),
      ("task_kind_id", idValue taskKindId), ("root_ordinal", natValue rootOrdinal),
      ("seed_ordinal", nullable seedOrdinal natValue), ("depth", natValue depth),
      ("output_ordinal", natValue ordinal)]
  | .nodeProgressed nodeId nodeState =>
    .object [("kind", textValue "node_progressed"), ("node_id", nodeIdValue nodeId),
      ("node_state", nodeState.value)]
  | .nodeReplayAuthorized nodeId taskKindId =>
    .object [("kind", textValue "node_replay_authorized"), ("node_id", nodeIdValue nodeId),
      ("task_kind_id", idValue taskKindId)]
  | .attemptIntent nodeId taskKindId =>
    .object [("kind", textValue "attempt_intent"), ("node_id", nodeIdValue nodeId),
      ("task_kind_id", idValue taskKindId)]
  | .attemptObserved nodeId taskKindId resultKind attempts =>
    .object [("kind", textValue "attempt_observed"), ("node_id", nodeIdValue nodeId),
      ("task_kind_id", idValue taskKindId), ("result_kind", textValue resultKind.text),
      ("attempts", natValue attempts)]
  | .taskCompleted nodeId taskKindId =>
    .object [("kind", textValue "task_completed"), ("node_id", nodeIdValue nodeId),
      ("task_kind_id", idValue taskKindId)]
  | .itemBuffered nodeId identityDigest data logicalOrder =>
    .object [("kind", textValue "item_buffered"), ("node_id", nodeIdValue nodeId),
      ("identity_digest", digestValue identityDigest), ("data", data.value),
      ("logical_order", logicalOrder.value)]
  | .itemCommitted nodeId identityDigest logicalOrder itemSequence =>
    .object [("kind", textValue "item_committed"), ("node_id", nodeIdValue nodeId),
      ("identity_digest", digestValue identityDigest), ("logical_order", logicalOrder.value),
      ("item_sequence", natValue itemSequence)]
  | .itemDuplicate nodeId identityDigest logicalOrder =>
    .object [("kind", textValue "item_duplicate"), ("node_id", nodeIdValue nodeId),
      ("identity_digest", digestValue identityDigest), ("logical_order", logicalOrder.value)]
  | .sinkCommitted through byteOffset prefixDigest =>
    .object [("kind", textValue "sink_committed"), ("through_item_sequence", natValue through),
      ("byte_offset", natValue byteOffset), ("prefix_digest", digestValue prefixDigest)]
  | .outputPrepared pathDigest contentDigest byteLength descriptor descriptorDigest =>
    .object [("kind", textValue "output_prepared"), ("path_digest", digestValue pathDigest),
      ("content_digest", digestValue contentDigest), ("byte_length", natValue byteLength),
      ("terminal_descriptor", descriptor.value),
      ("terminal_descriptor_digest", digestValue descriptorDigest)]
  | .outputCommitted contentDigest byteLength descriptorDigest =>
    .object [("kind", textValue "output_committed"), ("content_digest", digestValue contentDigest),
      ("byte_length", natValue byteLength),
      ("terminal_descriptor_digest", digestValue descriptorDigest)]
  | .nodeCompleted nodeId =>
    .object [("kind", textValue "node_completed"), ("node_id", nodeIdValue nodeId)]
  | .taskSkipped nodeId taskKindId stop =>
    .object [("kind", textValue "task_skipped"), ("node_id", nodeIdValue nodeId),
      ("task_kind_id", idValue taskKindId), ("stop", textValue stop.text)]
  | .stopReason nodeId taskKindId stop message =>
    .object [("kind", textValue "stop_reason"), ("node_id", nullable nodeId nodeIdValue),
      ("task_kind_id", nullable taskKindId idValue), ("stop", textValue stop.text),
      ("message", textValue message)]
  | .interrupted reason =>
    .object [("kind", textValue "interrupted"), ("reason", textValue reason.text)]
  | .cancelRequested source =>
    .object [("kind", textValue "cancel_requested"), ("source", textValue source.text)]
  | .terminal descriptor descriptorDigest =>
    .object [("kind", textValue "terminal"), ("descriptor", descriptor.value),
      ("descriptor_digest", digestValue descriptorDigest)]

/-- A frame body as JSON. -/
def JournalFrameBodyV1.value (body : JournalFrameBodyV1) : JsonValueV1 :=
  .object [("frame_schema_version", natValue 1), ("run_id", .string body.runId.text),
    ("sequence", natValue body.sequence), ("execution_epoch", natValue body.executionEpoch),
    ("previous_frame_digest", nullable body.previousFrameDigest digestValue),
    ("event", body.event.value)]

end Klura
