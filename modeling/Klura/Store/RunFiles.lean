import Klura.Contracts.Records
import Klura.Contracts.Sha256
import Klura.Library.Files
import Klura.Library.SafeInteger

/-! The files of a run: its metadata, which is written once, and the spool that values are appended
to. -/

namespace Klura

open StrictJson

namespace RunFiles

/-- The most bytes that the metadata of a run is read from. -/
def META_MAX_BYTES_V1 : Nat := 1024 * 1024

/-- The most levels that a reader accepts of metadata and of a value in the spool. -/
def READER_DEPTH : Nat := 12

/-- The most bytes that the path of an output takes. -/
def MAX_OUTPUT_PATH_BYTES : Nat := 4096

/-- The largest safe integer. -/
def MAX_SAFE_INTEGER : Nat := 2 ^ 53 - 1

/-- The texts of keys. -/
def keysOf (keys : List String) : List Units := keys.map ascii

/-- An identifier of a contract or a capability. -/
def parseStableIdentifier : ValueParser := textParser parseStableContractId

/-- A digest. -/
def parseDigest : ValueParser := textParser parseSha256Digest

/-- A version. -/
def parseVersionText : ValueParser := textParser parsePackageVersion

/-- The integer that a number stands for. -/
def integerOf : JsValue → Nat
  | .number (.finite _ magnitude) => magnitude.units / unitsPerOne
  | _ => 0

/-- The text that a value is. -/
def textOf : JsValue → Units
  | .string text => text
  | _ => []

/-- A range of versions that is not empty. -/
def parseRuntimeRange : ValueParser :=
  recordParser (keysOf ["minimum_inclusive", "maximum_exclusive"])
    [.own "minimum_inclusive" parseVersionText, .own "maximum_exclusive" parseVersionText,
      .check fun fields field =>
        if 0 ≤ comparePackageVersions (textOf (memberOf fields "minimum_inclusive"))
          (textOf (memberOf fields "maximum_exclusive")) then
          fail field "minimum_inclusive must be lower than maximum_exclusive"
        else .ok ()]

/-- The package and the capability that a run works with. -/
def parseArtifact : ValueParser :=
  recordParser (keysOf ["package_id", "version", "package_digest", "capability", "runtime_range",
      "collection_contract_digest"])
    [.own "package_id" (textParser parsePackageId), .own "version" parseVersionText,
      .own "package_digest" parseDigest, .own "capability" parseStableIdentifier,
      .own "runtime_range" parseRuntimeRange, .own "collection_contract_digest" parseDigest]

/-- The classes of failure that may be tried again. -/
def RETRY_CLASSES : List Units :=
  [ascii "rate_limited", ascii "transport_failure", ascii "upstream_unavailable"]

/-- The classes of an array, none of them twice. -/
def parseClasses (field : Units) : Nat → List Units → List JsValue →
    Except PublicContractError (List Units)
  | _, seen, [] => .ok seen
  | index, seen, entry :: rest =>
    let place := field ++ ascii "[" ++ natText index ++ ascii "]"
    match entry with
    | .string text =>
      if text ∉ RETRY_CLASSES then fail place "must be a supported retry class"
      else if text ∈ seen then fail place "must not contain duplicates"
      else parseClasses field (index + 1) (seen ++ [text]) rest
    | _ => fail place "must be a supported retry class"

/-- The classes that are tried again, in order. -/
def parseRetryClasses : ValueParser := fun value field =>
  match value with
  | .array items =>
    if RETRY_CLASSES.length < items.length then fail field "must be an array of retry classes"
    else do
      let classes ← parseClasses field 0 [] items
      if !isAscending classes then fail field "must be in canonical lexical order"
      else .ok (.array (classes.map .string))
  | _ => fail field "must be an array of retry classes"

/-- A ratio up to a quarter. -/
def parseJitterRatio : ValueParser := fun value field =>
  match value with
  | .number (.finite negative magnitude) =>
    if (negative = true ∧ magnitude.units ≠ 0) ∨ unitsPerOne < 4 * magnitude.units then
      fail field "must be a finite number from 0 to 0.25"
    else .ok value
  | _ => fail field "must be a finite number from 0 to 0.25"

/-- A truth value. -/
def parseBoolean : ValueParser := fun value field =>
  match value with
  | .boolean truth => .ok (.boolean truth)
  | _ => fail field "must be a boolean"

/-- Whether an array has no values. -/
def isEmptyArray : JsValue → Bool
  | .array items => items.isEmpty
  | _ => false

/-- How often and when a call is tried again. -/
def parseCallRetryPolicy : ValueParser :=
  recordParser (keysOf ["max_retries", "on", "base_delay_ms", "max_delay_ms", "jitter_ratio",
      "honor_structural_retry_after"])
    [.own "max_retries" (integerParser 0 2), .own "on" parseRetryClasses,
      .check fun fields field =>
        if (integerOf (memberOf fields "max_retries") = 0) ≠ isEmptyArray (memberOf fields "on") then
          fail field "max_retries:0 iff on is empty"
        else .ok (),
      .own "base_delay_ms" (integerParser 100 30000),
      .member "max_delay_ms" fun fields =>
        integerParser (integerOf (memberOf fields "base_delay_ms")) 60000,
      .own "jitter_ratio" parseJitterRatio, .own "honor_structural_retry_after" parseBoolean]

/-- The bounds on what a run stores. -/
def parseDurableBounds : ValueParser :=
  recordParser (keysOf ["max_frontier_bytes", "max_data_spool_bytes", "max_journal_bytes",
      "max_journal_frames", "max_reorder_buffer_bytes", "max_local_state_bytes"])
    [.own "max_frontier_bytes" (integerParser 1 268435456),
      .own "max_data_spool_bytes" (integerParser 1 2147483648),
      .own "max_journal_bytes" (integerParser 393432 268435456),
      .own "max_journal_frames" (integerParser 6 10000000),
      .own "max_reorder_buffer_bytes" (integerParser 1 67108864),
      .own "max_local_state_bytes" (integerParser 1 4294967296)]

/-- The most items that a run may be asked for. -/
def MAX_ITEM_LIMIT_V1 : Nat := 1000000

/-- The policy of a run. -/
def parseScrapeRunPolicy : ValueParser :=
  recordParser (keysOf ["max_concurrency", "per_request_timeout_ms", "total_timeout_ms",
      "max_requests", "max_tasks", "max_pages", "max_items", "max_encoded_item_bytes",
      "max_output_bytes", "retry", "durable"])
    [.own "per_request_timeout_ms" (integerParser 1000 60000),
      .own "total_timeout_ms" (integerParser 1000 3600000),
      .check fun fields field =>
        if integerOf (memberOf fields "total_timeout_ms") <
            integerOf (memberOf fields "per_request_timeout_ms") then
          fail field "total_timeout_ms must cover one request timeout"
        else .ok (),
      .own "max_concurrency" (integerParser 1 32), .own "max_requests" (integerParser 1 1000),
      .own "max_tasks" (integerParser 1 1000), .own "max_pages" (integerParser 1 1000),
      .own "max_items" (integerParser 1 MAX_ITEM_LIMIT_V1),
      .own "max_encoded_item_bytes" (integerParser 1 16384),
      .own "max_output_bytes" (integerParser 1 2147483648),
      .own "retry" parseCallRetryPolicy, .own "durable" parseDurableBounds]

/-- Whether a value is a positive safe integer. -/
def isPositiveInteger (value : JsValue) : Bool :=
  match value with
  | .number (.finite negative magnitude) =>
    decide (magnitude.units % unitsPerOne = 0 ∧ negative = false ∧
      1 ≤ magnitude.units / unitsPerOne ∧ magnitude.units / unitsPerOne ≤ MAX_SAFE_INTEGER)
  | _ => false

/-- Checks each entry of the named limits. -/
def checkNamedLimits (field : Units) : Fields → Except PublicContractError Unit
  | [] => .ok ()
  | (id, candidate) :: rest => do
    let _ ← parseStableContractId (.string id) (memberField field id)
    if !isPositiveInteger candidate then
      fail (memberField field id) "must be a positive safe integer"
    else checkNamedLimits field rest

/-- The limits that a caller has named. -/
def parseNamedLimits : ValueParser := fun value field => do
  let limits ← parseBoundedRecord value field 64
  checkNamedLimits field limits
  .ok (.object limits)

/-- The bounds that a run keeps. -/
def parseEffectiveBounds : ValueParser :=
  recordParser (keysOf ["policy", "named_limits"])
    [.own "named_limits" parseNamedLimits, .own "policy" parseScrapeRunPolicy]

/-- An absolute path without empty parts, dots and double dots. -/
def resolvePath (path : Units) : Units :=
  47 :: [47].intercalate ((path.splitOn 47).foldl
    (fun resolved segment =>
      if segment = [] ∨ segment = [46] then resolved
      else if segment = [46, 46] then resolved.dropLast
      else resolved ++ [segment]) [])

/-- Whether a path may be accepted, and the error where it may not. -/
def pathIssue (path : Units) : Option String :=
  if path = [] then some "must be a non-empty absolute path"
  else if MAX_OUTPUT_PATH_BYTES < utf8Length path ∨ 0 ∈ path then some "is invalid"
  else if path.head? ≠ some 47 then some "must be an absolute path"
  else if resolvePath path ≠ path then some "must be a normalized absolute path"
  else none

/-- An absolute and normalized path. -/
def parseAbsoluteOutputPath : ValueParser := fun value field =>
  match value with
  | .string path =>
    match pathIssue path with
    | some issue => fail field issue
    | none => .ok (.string path)
  | _ => fail field "must be a non-empty absolute path"

/-- A text that is one of a few. -/
def choiceParser (choices : List Units) (message : String) : ValueParser := fun value field =>
  match value with
  | .string text => if text ∈ choices then .ok (.string text) else fail field message
  | _ => fail field message

/-- Where the items of a run go. -/
def parseRunOutput : ValueParser := fun value field =>
  match value with
  | .object fields =>
    if textOf (memberOf fields "kind") = ascii "inline" then
      recordParser (keysOf ["kind"]) [.own "kind" (choiceParser [ascii "inline"] "is invalid")]
        value field
    else if textOf (memberOf fields "kind") = ascii "file" then
      recordParser (keysOf ["kind", "requested_path", "format"])
        [.own "kind" (choiceParser [ascii "file"] "is invalid"),
          .own "requested_path" parseAbsoluteOutputPath,
          .own "format" (choiceParser [ascii "json", ascii "ndjson", ascii "csv"]
            "must be json, ndjson, or csv")] value field
    else fail (memberField field (ascii "kind")) "must be inline or file"
  | _ => fail field "must be an object"

/-- The exact browser state that a run works with. -/
def parseRunSessionReference : ValueParser :=
  recordParser (keysOf ["authentication_contract_id", "session_name", "generation", "state_digest",
      "authentication_contract_digest"])
    [.own "authentication_contract_id" parseStableIdentifier,
      .own "session_name" (textParser parseSessionName),
      .own "generation" (integerParser 1 MAX_SAFE_INTEGER), .own "state_digest" parseDigest,
      .own "authentication_contract_digest" parseDigest]

/-- An instant to the second. -/
def parseInstant : ValueParser := textParser StrictJson.parseRfc3339Instant

/-- The keys that the metadata of a run must have. -/
def requiredKeys : List Units :=
  keysOf ["meta_schema_version", "run_id", "start_operation_id", "artifact", "canonical_input",
    "selected_input_mode_id", "effective_bounds", "output", "created_at"]

/-- A one. -/
def parseOne : ValueParser := fun value field =>
  if value.isNat 1 then .ok value else fail field "must be 1"

/-- An input that nests no deeper than a bound. -/
def parseCanonicalInput : ValueParser := fun value field => do
  assertJsonValue value field READER_DEPTH
  .ok value

/-- The steps that rebuild the members that the metadata of a run must have. -/
def metaSteps : List RecordStep :=
  [.own "meta_schema_version" parseOne, .own "canonical_input" parseCanonicalInput,
    .own "run_id" (textParser parseRunId),
    .own "start_operation_id" (textParser parseRunOperationId), .own "artifact" parseArtifact,
    .own "selected_input_mode_id" parseStableIdentifier,
    .own "effective_bounds" parseEffectiveBounds, .own "output" parseRunOutput,
    .own "created_at" parseInstant]

/-- The step that rebuilds the session of a run that has one. -/
def sessionSteps (fields : Fields) : List RecordStep :=
  if (member fields (ascii "session")).isSome then [.own "session" parseRunSessionReference] else []

/-- The metadata of a run. -/
def parseRunMeta : ValueParser := fun value field => do
  let fields ← parseBoundedRecord value field 10
  match fields.find? fun entry => decide (entry.1 ∉ requiredKeys ++ [ascii "session"]) with
  | some entry => fail (memberField field entry.1) "is not allowed"
  | none =>
    match requiredKeys.find? fun key => (member fields key).isNone with
    | some key => fail (memberField field key) "is required"
    | none => (runSteps fields field (metaSteps ++ sessionSteps fields)).map .object

/-- The metadata of a run with its digest. -/
structure RunMetaEnvelopeV1 where
  payload : JsValue
  metaDigest : Units

/-- The digest of the canonical text of a value. -/
def canonicalDigest (value : JsValue) : Except PublicContractError Units :=
  (StrictJson.canonicalJson value).map fun text =>
    (sha256Digest (encodeUtf8 text)).text.map UInt8.toUInt16

/-- The value that metadata and its digest are written as. -/
def RunMetaEnvelopeV1.value (envelope : RunMetaEnvelopeV1) : JsValue :=
  .object [(ascii "meta_envelope_schema_version", .number (.ofNat 1 one_small)),
    (ascii "payload", envelope.payload), (ascii "meta_digest", .string envelope.metaDigest)]

/-- Metadata that has been checked, with its digest. -/
def createRunMetaEnvelope (runMeta : JsValue) : Except PublicContractError RunMetaEnvelopeV1 := do
  let payload ← parseRunMeta runMeta (ascii "run.meta")
  let metaDigest ← canonicalDigest payload
  .ok { payload, metaDigest }

/-- The keys of metadata with its digest. -/
def envelopeKeys : List Units := keysOf ["meta_envelope_schema_version", "payload", "meta_digest"]

/-- Metadata that is the one its digest was made of. -/
def parseRunMetaEnvelope (value : JsValue) (field : Units) :
    Except PublicContractError RunMetaEnvelopeV1 := do
  let fields ← parseExactRecord value field envelopeKeys
  if !(memberOf fields "meta_envelope_schema_version").isNat 1 then
    fail (memberField field (ascii "meta_envelope_schema_version")) "must be 1"
  else
    let payload ← parseRunMeta (memberOf fields "payload") (memberField field (ascii "payload"))
    let digest ← parseSha256Digest (memberOf fields "meta_digest")
      (memberField field (ascii "meta_digest"))
    let metaDigest ← canonicalDigest payload
    if digest ≠ metaDigest then
      fail (memberField field (ascii "meta_digest")) "does not match canonical metadata"
    else .ok { payload, metaDigest := digest }

/-- The metadata files of runs, by the ids of the runs. -/
abbrev MetaFiles : Type := Files Units

/-- Creates the directory of a run with its metadata. -/
def create (files : MetaFiles) (runMeta : JsValue) :
    Except PublicContractError (RunMetaEnvelopeV1 × FileWrite Units) := do
  let parsed ← parseRunMeta runMeta (ascii "run.meta")
  let runId := textOf (memberOf (match parsed with | .object fields => fields | _ => []) "run_id")
  if (files runId).isSome then fail (ascii "run_id") "already exists"
  else
    let envelope ← createRunMetaEnvelope parsed
    let text ← StrictJson.canonicalJson envelope.value
    .ok (envelope, .writeExclusive runId (encodeUtf8 text))

/-- Reads the metadata of a run. -/
def read (files : MetaFiles) (runId : Units) : Except PublicContractError RunMetaEnvelopeV1 := do
  let runId ← parseRunId (.string runId) (ascii "run_id")
  match files runId with
  | none => fail (ascii "run_id") "is not found"
  | some bytes =>
    let value ← parseFile bytes (ascii "run.meta.json") META_MAX_BYTES_V1 READER_DEPTH
    parseRunMetaEnvelope value (ascii "run.meta.json")

/-! The spool. -/

/-- The errors of the spool. -/
inductive DataSpoolErrorCode where
  | durableBudgetExhausted
  | spoolCorrupt
  deriving DecidableEq

/-- Why the spool refuses. -/
inductive DataSpoolFailure where
  | spool (code : DataSpoolErrorCode) (message : Units)
  | contract (error : PublicContractError)
  deriving DecidableEq

/-- Where a value stands in the spool. -/
structure SpoolRefV1 where
  offset : Nat
  length : Nat
  sha256 : Sha256DigestV1

/-- Appends a value to the spool. -/
def appendDataBlob (spool : Bytes) (value : JsValue) (maximumBytes : Nat) :
    Except DataSpoolFailure (SpoolRefV1 × Bytes) := do
  if MAX_SAFE_INTEGER < maximumBytes then
    throw (.spool .durableBudgetExhausted (ascii "data spool budget is invalid"))
  let text ← (StrictJson.canonicalJson value).mapError .contract
  let bytes := encodeUtf8 text
  if MAX_SAFE_INTEGER < spool.length ∨ maximumBytes < spool.length + bytes.length then
    throw (.spool .durableBudgetExhausted (ascii "data spool byte budget is exhausted"))
  .ok ({ offset := spool.length, length := bytes.length, sha256 := sha256Digest bytes },
    spool ++ bytes)

/-- Checks where a value stands. -/
def parseBlobRef (reference : SpoolRefV1) (field : Units) : Except PublicContractError Unit :=
  let refused (key : String) : Except PublicContractError Unit := .error {
    field := memberField field (ascii key)
    message := ascii "must be an integer from 0 to " ++ natText MAX_SAFE_INTEGER }
  if MAX_SAFE_INTEGER < reference.offset then refused "offset"
  else if MAX_SAFE_INTEGER < reference.length then refused "length"
  else .ok ()

/-- Reads a value from the spool. -/
def readDataBlob (spool : Bytes) (reference : SpoolRefV1) : Except DataSpoolFailure JsValue := do
  (parseBlobRef reference (ascii "blob_ref")).mapError .contract
  if spool.length < reference.offset + reference.length then
    throw (.spool .spoolCorrupt (ascii "blob reference is outside the data spool"))
  let slice := (spool.drop reference.offset).take reference.length
  if (sha256Digest slice).bits ≠ reference.sha256.bits then
    throw (.spool .spoolCorrupt (ascii "blob digest does not match spool bytes"))
  let value ← (parseFile slice (ascii "data_spool_blob") reference.length READER_DEPTH).mapError
    .contract
  let text ← (StrictJson.canonicalJson value).mapError .contract
  if encodeUtf8 text ≠ slice then
    throw (.spool .spoolCorrupt (ascii "blob is not canonical JSON"))
  .ok value

/-- A natural number that is a safe integer. -/
abbrev SafeNat : Type := { value : Nat // value < 2 ^ 53 }

/-- A safe integer as a value. -/
def safeValue (number : SafeNat) : JsValue := .number (.ofNat number.val number.property)

/-- A safe integer as a value, or null in its place. -/
def optionalValue : Option SafeNat → JsValue
  | none => .null
  | some number => safeValue number

/-- What makes a node the one it is: its place among the roots, or the item it was fanned out from. -/
inductive LogicalKeyV1 where
  | root (rootOrdinal : SafeNat) (seedOrdinal : Option SafeNat)
  | fanout (parentNodeId edgeId parentItemDigest : Units)

/-- The value of a logical key. -/
def LogicalKeyV1.value : LogicalKeyV1 → JsValue
  | .root rootOrdinal seedOrdinal =>
    .object [(ascii "kind", .string (ascii "root")), (ascii "root_ordinal", safeValue rootOrdinal),
      (ascii "seed_ordinal", optionalValue seedOrdinal)]
  | .fanout parentNodeId edgeId parentItemDigest =>
    .object [(ascii "kind", .string (ascii "fanout")),
      (ascii "parent_node_id", .string parentNodeId), (ascii "edge_id", .string edgeId),
      (ascii "parent_item_digest", .string parentItemDigest)]

/-- A task of a run with its input. -/
structure ScrapeNode where
  nodeId : Units
  logicalKey : LogicalKeyV1
  taskKindId : Units
  capability : Units
  input : JsValue
  rootOrdinal : SafeNat
  seedOrdinal : Option SafeNat
  depth : SafeNat
  outputOrdinal : SafeNat
  seenInputDigests : List Units
  pagesStartedInChain : SafeNat

/-- The value that a task is stored as. -/
def scrapeNodeValue (node : ScrapeNode) : JsValue :=
  .object [(ascii "node_id", .string node.nodeId), (ascii "logical_key", node.logicalKey.value),
    (ascii "task_kind_id", .string node.taskKindId),
    (ascii "capability", .string node.capability), (ascii "input", node.input),
    (ascii "root_ordinal", safeValue node.rootOrdinal),
    (ascii "seed_ordinal", optionalValue node.seedOrdinal),
    (ascii "depth", safeValue node.depth),
    (ascii "output_ordinal", safeValue node.outputOrdinal),
    (ascii "seen_input_digests", .array (node.seenInputDigests.map .string)),
    (ascii "pages_started_in_chain", safeValue node.pagesStartedInChain)]

/-- Checks a value against a schema, once it is known to be one of JSON that is not too deep. -/
def validateJsonSchema (validateAgainstSchema : JsValue → Units → Except PublicContractError Unit)
    (value : JsValue) (field : Units) : Except PublicContractError Unit := do
  assertJsonValue value field READER_DEPTH
  validateAgainstSchema value field

end RunFiles

end Klura
