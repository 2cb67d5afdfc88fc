import Klura.Run.State

/-! Appending to the journal and the spool: what is checked, what is refused and what is written. -/

namespace Klura

/-- Largest body any frame may carry. -/
def MAX_FRAME_BODY_BYTES_V1 : Nat := 1048576

/-- Largest terminal descriptor a frame may carry. -/
def MAX_TERMINAL_DESCRIPTOR_BYTES_V1 : Nat := 16384

/-- Upper bound on a recorded stop reason. -/
def STOP_REASON_MESSAGE_BYTES_V1 : Nat := 512

/-- Whether ordinary work may append this many more frames. -/
def hasOrdinaryJournalCapacity (state : ExecutionStateV1) (frameCount : Nat) : Bool :=
  decide (1 ≤ frameCount) &&
    decide (state.sequence + frameCount + JOURNAL_EMERGENCY_FRAME_RESERVE_V1 ≤
      state.maximumJournalFrames)

/-- Checks the integers of a blob reference. -/
def parseBlobRef (reference : BlobRefV1) (field : String) : Except RunError Unit := do
  parseInteger reference.offset (field ++ ".offset") 0 JsonNumber.maxSafeInteger
  parseInteger reference.length (field ++ ".length") 0 JsonNumber.maxSafeInteger

/-- Checks the integers of an item position. -/
def parseItemLogicalOrder (order : ItemLogicalOrderV1) (field : String) :
    Except RunError Unit := do
  parseInteger order.nodeOrdinal (field ++ ".node_ordinal") 0 JsonNumber.maxSafeInteger
  parseInteger order.pageOrdinal (field ++ ".page_ordinal") 0 1000
  parseInteger order.itemOrdinal (field ++ ".item_ordinal") 0 1000000

/-- Checks that a terminal stop belongs to the kind of result it stands beside. -/
def parseTerminalRunStop (stop : TerminalRunStopV1) (field : String)
    (resultKind : RunResultKindV1) : Except RunError Unit :=
  match resultKind, stop with
  | .scrapeOutcome, .completed _ => .ok ()
  | .scrapeOutcome, .stopped _ => .error (.publicContract field "must be a completion stop object")
  | _, .stopped _ => .ok ()
  | _, .completed _ => .error (.publicContract field "is invalid")

/-- Checks the counters of a terminal summary. -/
def parseTerminalSummary (summary : ScrapeRunSummaryV1) (field : String) :
    Except RunError Unit := do
  parseInteger summary.itemsEmitted (field ++ ".items_emitted") 0 JsonNumber.maxSafeInteger
  parseInteger summary.itemsDuplicate (field ++ ".items_duplicate") 0 JsonNumber.maxSafeInteger
  parseInteger summary.tasksCompleted (field ++ ".tasks_completed") 0 JsonNumber.maxSafeInteger
  parseInteger summary.tasksFailed (field ++ ".tasks_failed") 0 JsonNumber.maxSafeInteger
  parseInteger summary.targetRequests (field ++ ".target_requests") 0 JsonNumber.maxSafeInteger

/-- Checks that a file output names a path. -/
def parseTerminalOutput (output : TerminalOutputV1) (field : String) : Except RunError Unit :=
  match output with
  | .file path _ _ =>
    if path = "" then .error (.publicContract (field ++ ".path") "must be a non-empty string")
    else .ok ()
  | _ => .ok ()

/-- Checks a terminal descriptor and the bytes it takes. -/
def parseTerminalResultDescriptor (descriptor : TerminalResultDescriptorV1) (field : String) :
    Except RunError Unit := do
  parseTerminalRunStop descriptor.stop (field ++ ".stop") descriptor.resultKind
  parseTerminalSummary descriptor.summary (field ++ ".summary")
  parseTerminalOutput descriptor.output (field ++ ".output")
  if MAX_TERMINAL_DESCRIPTOR_BYTES_V1 < canonicalBytes descriptor.value then
    throw (.publicContract field "exceeds the 16 KiB terminal descriptor bound")

/-- The digest of a descriptor that passes its own checks. -/
def calculateTerminalDescriptorDigest (env : RunEnvironment)
    (descriptor : TerminalResultDescriptorV1) : Except RunError Sha256DigestV1 := do
  parseTerminalResultDescriptor descriptor "terminal_descriptor"
  return env.digestOf descriptor.value

/-- Checks a descriptor together with the digest that stands beside it. -/
def parseBoundDescriptor (env : RunEnvironment) (descriptor : TerminalResultDescriptorV1)
    (digest : Sha256DigestV1) (descriptorField digestField : String) : Except RunError Unit := do
  parseTerminalResultDescriptor descriptor descriptorField
  let expected ← calculateTerminalDescriptorDigest env descriptor
  if digest ≠ expected then
    throw (.publicContract digestField "does not match the terminal descriptor")

/-- Checks every bounded field of an event. -/
def parseJournalEvent (env : RunEnvironment) (event : JournalEventV1) (field : String) :
    Except RunError Unit :=
  match event with
  | .runCreated _ none => .ok ()
  | .runCreated _ (some initialNodes) => do
    if 1000 < initialNodes.length then
      throw (.publicContract (field ++ ".initial_nodes") "must contain at most 1,000 nodes")
    for reference in initialNodes do parseBlobRef reference (field ++ ".initial_nodes")
  | .stateChanged .queued => .ok ()
  | .stateChanged (.running epoch) =>
    parseInteger epoch (field ++ ".state.execution_epoch") 0 JsonNumber.maxSafeInteger
  | .nodeEnqueued _ _ nodeState _ rootOrdinal seedOrdinal depth outputOrdinal => do
    parseBlobRef nodeState (field ++ ".node_state")
    parseInteger rootOrdinal (field ++ ".root_ordinal") 0 JsonNumber.maxSafeInteger
    match seedOrdinal with
    | none => pure ()
    | some seed => parseInteger seed (field ++ ".seed_ordinal") 0 JsonNumber.maxSafeInteger
    parseInteger depth (field ++ ".depth") 0 3
    parseInteger outputOrdinal (field ++ ".output_ordinal") 0 JsonNumber.maxSafeInteger
  | .nodeProgressed _ nodeState => parseBlobRef nodeState (field ++ ".node_state")
  | .attemptObserved _ _ _ attempts =>
    parseInteger attempts (field ++ ".attempts") 0 JsonNumber.maxSafeInteger
  | .itemBuffered _ _ data logicalOrder => do
    parseBlobRef data (field ++ ".data")
    parseItemLogicalOrder logicalOrder (field ++ ".logical_order")
  | .itemCommitted _ _ logicalOrder itemSequence => do
    parseItemLogicalOrder logicalOrder (field ++ ".logical_order")
    parseInteger itemSequence (field ++ ".item_sequence") 1 JsonNumber.maxSafeInteger
  | .itemDuplicate _ _ logicalOrder => parseItemLogicalOrder logicalOrder (field ++ ".logical_order")
  | .sinkCommitted throughItemSequence byteOffset _ => do
    parseInteger throughItemSequence (field ++ ".through_item_sequence") 1
      JsonNumber.maxSafeInteger
    parseInteger byteOffset (field ++ ".byte_offset") 1 JsonNumber.maxSafeInteger
  | .outputPrepared _ _ byteLength descriptor descriptorDigest => do
    parseBoundDescriptor env descriptor descriptorDigest (field ++ ".terminal_descriptor")
      (field ++ ".terminal_descriptor_digest")
    parseInteger byteLength (field ++ ".byte_length") 0 JsonNumber.maxSafeInteger
  | .outputCommitted _ byteLength _ =>
    parseInteger byteLength (field ++ ".byte_length") 0 JsonNumber.maxSafeInteger
  | .stopReason _ _ _ message => parseString message (field ++ ".message")
      STOP_REASON_MESSAGE_BYTES_V1
  | .terminal descriptor descriptorDigest =>
    parseBoundDescriptor env descriptor descriptorDigest (field ++ ".descriptor")
      (field ++ ".descriptor_digest")
  | .nodeReplayAuthorized .. | .attemptIntent .. | .taskCompleted .. | .nodeCompleted _
  | .taskSkipped .. | .interrupted _ | .cancelRequested _ => .ok ()

/-- Checks every bounded field of a frame body. -/
def parseJournalFrameBody (env : RunEnvironment) (body : JournalFrameBodyV1) (field : String) :
    Except RunError Unit := do
  parseInteger body.sequence (field ++ ".sequence") 1 JsonNumber.maxSafeInteger
  parseInteger body.executionEpoch (field ++ ".execution_epoch") 0 JsonNumber.maxSafeInteger
  parseJournalEvent env body.event (field ++ ".event")

/-- The text a frame body is written as, once it passes its checks. -/
def encodeJournalFrame (env : RunEnvironment) (body : JournalFrameBodyV1) :
    Except RunError Bytes := do
  parseJournalFrameBody env body "journal.frame"
  let text := canonicalJson body.value
  if MAX_FRAME_BODY_BYTES_V1 < text.length then
    throw (.runJournal .durableBudgetExhausted "journal frame body exceeds 1 MiB")
  return text

/-- The bytes a frame takes in the journal file around its body's text. -/
def frameBytes (text : Bytes) : Nat :=
  JOURNAL_FRAME_HEADER_BYTES_V1 + text.length + JOURNAL_FRAME_TRAILER_BYTES_V1

/-- The frame a body is appended as, when the journal's budgets and chain accept it. -/
def appendJournalFrame (env : RunEnvironment) (disk : Disk) (body : JournalFrameBodyV1)
    (maximumBytes maximumFrames reservedBytes : Nat) : Except RunError JournalFrameV1 := do
  let frames := disk.frames
  if maximumFrames < 1 ∨ maximumFrames ≤ frames.length then
    throw (.runJournal .durableBudgetExhausted "journal frame budget is exhausted")
  parseJournalFrameBody env body "journal.frame"
  if body.sequence ≠ (frames.head?.map fun frame => frame.body.sequence).getD 0 + 1 then
    throw (.runJournal .journalCorrupt "appended sequence is not contiguous")
  if body.previousFrameDigest ≠ frames.head?.map JournalFrameV1.digest then
    throw (.runJournal .journalCorrupt "appended frame does not extend the hash chain")
  let text ← encodeJournalFrame env body
  let priorBytes := disk.journalBytes
  if maximumBytes < priorBytes + frameBytes text + reservedBytes then
    throw (.runJournal .durableBudgetExhausted "journal byte budget is exhausted")
  return { body, digest := env.sha256Digest text, offset := priorBytes,
           endOffset := priorBytes + frameBytes text }

/-- The frame body the execution state would append next. -/
def ExecutionStateV1.nextBody (env : RunEnvironment) (state : ExecutionStateV1)
    (event : JournalEventV1) : JournalFrameBodyV1 :=
  { runId := env.runId, sequence := state.sequence + 1, executionEpoch := state.executionEpoch,
    previousFrameDigest := state.previousDigest, event }

/-- The execution state once a frame has been appended. -/
def ExecutionStateV1.appended (state : ExecutionStateV1) (frame : JournalFrameV1) :
    ExecutionStateV1 :=
  { state with sequence := frame.body.sequence, previousDigest := some frame.digest }

/-- The world once a frame has been appended. -/
def World.appended (world : World) (frame : JournalFrameV1) : World :=
  { world with disk := .frame frame :: world.disk, state := world.state.appended frame }

/-- Appends one frame of ordinary work, or reports that its frame budget is spent. -/
def append (env : RunEnvironment) (event : JournalEventV1) : RunProgram Bool := do
  let world ← get
  if !hasOrdinaryJournalCapacity world.state 1 then return false
  else
    match appendJournalFrame env world.disk (world.state.nextBody env event)
        env.policy.durable.maxJournalBytes world.state.maximumJournalFrames
        JOURNAL_EMERGENCY_BYTE_RESERVE_V1 with
    | .error error => throw error
    | .ok frame =>
      set (world.appended frame)
      return true

/-- The frame an emergency event is appended as, from the terminalization allowance. -/
def appendEmergencyJournalFrame (env : RunEnvironment) (disk : Disk) (maximumJournalBytes : Nat)
    (body : JournalFrameBodyV1) (maximumJournalFrames : Nat) : Except RunError JournalFrameV1 := do
  -- The cursor's sequence is the one before the frame being built.
  if maximumJournalFrames < body.sequence then
    throw (.error "journal frame budget cannot record a terminal result")
  let text ← encodeJournalFrame env body
  if JOURNAL_EMERGENCY_FRAME_BODY_BYTES_V1 < text.length then
    throw (.error "emergency journal event exceeds its reserved body budget")
  appendJournalFrame env disk body maximumJournalBytes maximumJournalFrames 0

/-- Whether an event ends its run. -/
def JournalEventV1.isTerminal : JournalEventV1 → Bool
  | .terminal .. => true
  | _ => false

/-- The world once an emergency frame has been appended. -/
def World.appendedEmergency (world : World) (frame : JournalFrameV1) : World :=
  let appended := world.appended frame
  { appended with
    state := { appended.state with
      terminal := appended.state.terminal || frame.body.event.isTerminal } }

/-- Appends an emergency event from the terminalization allowance. -/
def appendEmergency (env : RunEnvironment) (event : JournalEventV1) : RunProgram PUnit := do
  let world ← get
  match appendEmergencyJournalFrame env world.disk world.state.maximumJournalBytes
      (world.state.nextBody env event) world.state.maximumJournalFrames with
  | .error error => throw error
  | .ok frame => set (world.appendedEmergency frame)

/-- Appends a durable value to the spool. -/
def appendDataBlob (env : RunEnvironment) (content : BlobContentV1) (maximumBytes : Nat) :
    RunProgram BlobRefV1 := do
  let world ← get
  let text := canonicalJson content.value
  let currentLength := world.disk.spoolBytes
  if maximumBytes < currentLength + text.length then
    throw (.dataSpool .durableBudgetExhausted "data spool byte budget is exhausted")
  else
    let reference : BlobRefV1 :=
      { offset := currentLength, length := text.length, sha256 := env.sha256Digest text }
    set { world with disk := .blob content reference :: world.disk }
    return reference

/-- The longest text of whole characters that fits in a number of bytes. -/
def takeBytes : Nat → List Char → List Char
  | _, [] => []
  | budget, char :: rest =>
    if char.utf8Size ≤ budget then char :: takeBytes (budget - char.utf8Size) rest else []

/-- Fits a cause into one stop_reason frame. -/
def boundStopReasonMessage (message : String) : String :=
  if message.utf8ByteSize ≤ STOP_REASON_MESSAGE_BYTES_V1 then message
  else
    -- A cut inside a character decodes to replacement characters, which are dropped with any
    -- that the message itself ended in.
    let cut := takeBytes (STOP_REASON_MESSAGE_BYTES_V1 - 4) message.toList
    String.ofList (cut.reverse.dropWhile (· = '\uFFFD')).reverse ++ "…"

/-- What is recorded beside a stop. -/
inductive StopCauseV1 where
  | text (message : String)
  | raised (error : RunError)

/-- A stop's cause as one line of text, whatever raised it. -/
def causeText : StopCauseV1 → String
  | .text message => message
  | .raised error => error.message

/-- Writes the cause behind a stop beside the frames that chose it, on the emergency path. -/
def recordStopReason (env : RunEnvironment) (nodeId : RunNodeIdV1)
    (taskKindId : StableContractIdV1) (stop : RunStopV1) (cause : StopCauseV1) :
    RunProgram PUnit :=
  appendEmergency env
    (.stopReason (some nodeId) (some taskKindId) stop (boundStopReasonMessage (causeText cause)))

end Klura
