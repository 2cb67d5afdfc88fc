import Klura.Contracts.Sha256
import Klura.Contracts.Stored
import Klura.Library.Check
import Klura.Library.Files
import Klura.Library.Machine
import Klura.Library.SafeInteger

/-! The store of run operations: a small record for each operation id, so that a retry repeats
nothing. -/

namespace Klura

open StrictJson

/-- The most bytes a record is read from. -/
def OPERATION_BYTES_V1 : Nat := 64 * 1024

/-- The most levels a result and a record nest. -/
def OPERATION_DEPTH : Nat := 12

/-- A command that a run operation may be. -/
inductive RunOperationCommandV1 where
  | start
  | resume
  | cancel
  | discard
  deriving DecidableEq

/-- The text of a command. -/
def RunOperationCommandV1.text : RunOperationCommandV1 → Units
  | .start => ascii "start"
  | .resume => ascii "resume"
  | .cancel => ascii "cancel"
  | .discard => ascii "discard"

/-- The record of an operation, whose result is null until it is completed. -/
structure RunOperationRecordV1 where
  operationId : Units
  command : RunOperationCommandV1
  argumentsDigest : Units
  runId : Option Units
  result : JsValue

/-- A value as the language holds it: no object has a key twice. -/
abbrev OwnValue : Type := { value : JsValue // value.KeysDiffer }

/-- What a client reserves an operation with. -/
structure ReserveRunOperationInputV1 where
  operationId : Units
  command : Units
  arguments : OwnValue
  runId : Option Units

/-- A reservation: a new one, or the record of an earlier one. -/
inductive ReservedRunOperationV1 where
  | reserved (record : RunOperationRecordV1)
  | replayed (record : RunOperationRecordV1)

/-- The record that a reservation returns. -/
def ReservedRunOperationV1.record : ReservedRunOperationV1 → RunOperationRecordV1
  | .reserved record | .replayed record => record

/-- Why the store refused. -/
inductive RunOperationErrorCode where
  | operationConflict
  | operationInProgress
  | localStateInvalid
  deriving DecidableEq

/-- The errors of the store: one of its own, or a contract error of an argument. -/
inductive RunOperationFailure where
  | operation (code : RunOperationErrorCode) (message : String)
  | contract (error : PublicContractError)
  deriving DecidableEq

/-- The checked form of what an operation is reserved with. -/
structure ParsedReservationV1 where
  operationId : Units
  command : RunOperationCommandV1
  argumentsDigest : Units
  runId : Option Units

/-- A command. -/
def parseCommand (value : JsValue) (field : Units) :
    Except PublicContractError RunOperationCommandV1 :=
  match value with
  | .string text =>
    if text = ascii "start" then .ok .start
    else if text = ascii "resume" then .ok .resume
    else if text = ascii "cancel" then .ok .cancel
    else if text = ascii "discard" then .ok .discard
    else fail field "must be a supported run operation command"
  | _ => fail field "must be a supported run operation command"

/-- A run id that a record may do without. -/
def parseOptionalRunId (value : JsValue) (field : Units) :
    Except PublicContractError (Option Units) :=
  match value with
  | .null => .ok none
  | value => (parseRunId value field).map some

/-- A run id that a client may do without. -/
def parseGivenRunId (runId : Option Units) (field : Units) :
    Except PublicContractError (Option Units) :=
  match runId with
  | none => .ok none
  | some runId => (parseRunId (.string runId) field).map some

/-- The text of the digest of a text. -/
def textDigest (text : Units) : Units :=
  (sha256Digest (encodeUtf8 text)).text.map UInt8.toUInt16

/-- A run id of its own, from sixteen random bytes. -/
def createRunId (random : BitVec 128) : Units :=
  (RunIdV1.text ⟨random⟩).map UInt8.toUInt16

/-- Checks what an operation is reserved with. -/
def parseReservation (input : ReserveRunOperationInputV1) :
    Except PublicContractError ParsedReservationV1 := do
  assertJsonValue input.arguments.val (ascii "run_operation.arguments") OPERATION_DEPTH
  let operationId ← parseRunOperationId (.string input.operationId)
    (ascii "run_operation.operation_id")
  let command ← parseCommand (.string input.command) (ascii "run_operation.command")
  let arguments ← StrictJson.canonicalJson input.arguments.val
  let runId ← parseGivenRunId input.runId (ascii "run_operation.run_id")
  .ok { operationId, command, argumentsDigest := textDigest arguments, runId }

/-- The keys of a record. -/
def operationRecordKeys : List Units :=
  [ascii "operation_schema_version", ascii "operation_id", ascii "command",
    ascii "arguments_digest", ascii "run_id", ascii "result"]

/-- The value of a member that a record is known to have. -/
def required (fields : Fields) (key : String) : JsValue := (member fields (ascii key)).getD .null

/-- Checks a result that is not the null of an operation that is not completed. -/
def assertResult (value : JsValue) (field : Units) : Except PublicContractError Unit :=
  match value with
  | .null => .ok ()
  | result => assertJsonValue result field OPERATION_DEPTH

/-- The record that a value is. -/
def parseRecord (value : JsValue) (field : Units) :
    Except PublicContractError RunOperationRecordV1 := do
  let fields ← parseExactRecord value field operationRecordKeys
  if !(required fields "operation_schema_version").isNat 1 then
    fail (memberField field (ascii "operation_schema_version")) "must be 1"
  else
    let result := required fields "result"
    assertResult result (memberField field (ascii "result"))
    let operationId ← parseRunOperationId (required fields "operation_id")
      (memberField field (ascii "operation_id"))
    let command ← parseCommand (required fields "command") (memberField field (ascii "command"))
    let argumentsDigest ← parseSha256Digest (required fields "arguments_digest")
      (memberField field (ascii "arguments_digest"))
    let runId ← parseOptionalRunId (required fields "run_id") (memberField field (ascii "run_id"))
    .ok { operationId, command, argumentsDigest, runId, result }

/-- A run id, or null in its place. -/
def runIdValue : Option Units → JsValue
  | none => .null
  | some runId => .string runId

/-- The value that a record is written as. -/
def RunOperationRecordV1.value (record : RunOperationRecordV1) : JsValue :=
  .object [(ascii "operation_schema_version", .number (.ofNat 1 one_small)),
    (ascii "operation_id", .string record.operationId),
    (ascii "command", .string record.command.text),
    (ascii "arguments_digest", .string record.argumentsDigest),
    (ascii "run_id", runIdValue record.runId),
    (ascii "result", record.result)]

/-- The bytes that a record is written as. -/
def encodeRecord (record : RunOperationRecordV1) : Except PublicContractError Bytes :=
  (StrictJson.canonicalJson record.value).map encodeUtf8

/-- The directory of the records: each operation id has its file. -/
abbrev OperationFiles : Type := Files Units

/-- Reads the record of an operation, when there is one. -/
def readRecord (files : OperationFiles) (operationId : Units) :
    Except RunOperationFailure (Option RunOperationRecordV1) :=
  match files operationId with
  | none => .ok none
  | some bytes =>
    match parseFile bytes (ascii "run_operation.record") OPERATION_BYTES_V1 OPERATION_DEPTH >>=
        fun value => parseRecord value (ascii "run_operation.record") with
    | .ok record => .ok (some record)
    | .error _ => .error (.operation .localStateInvalid "operation record is invalid")

/-- Checks that a record is the one that an operation is reserved with again. -/
def assertMatches (record : RunOperationRecordV1) (input : ParsedReservationV1) :
    Except RunOperationFailure Unit :=
  if record.command ≠ input.command ∨ record.argumentsDigest ≠ input.argumentsDigest ∨
      (input.runId ≠ none ∧ record.runId ≠ input.runId) then
    .error (.operation .operationConflict
      "operation id is already bound to different command arguments")
  else .ok ()

/-- The record of a new reservation, with a run id of its own when a run is started without one. -/
def ParsedReservationV1.newRecord (parsed : ParsedReservationV1) (random : BitVec 128) :
    RunOperationRecordV1 :=
  { operationId := parsed.operationId
    command := parsed.command
    argumentsDigest := parsed.argumentsDigest
    runId := if parsed.command = .start ∧ parsed.runId = none then some (createRunId random)
      else parsed.runId
    result := .null }

/-- Reserves an operation, or finds it reserved before; what it writes comes with the answer. -/
def reserve (files : OperationFiles) (input : ReserveRunOperationInputV1) (random : BitVec 128) :
    Except RunOperationFailure (ReservedRunOperationV1 × FileWrite Units) := do
  let parsed ← (parseReservation input).mapError .contract
  match ← readRecord files parsed.operationId with
  | some existing =>
    assertMatches existing parsed
    .ok (.replayed existing, .keep)
  | none =>
    let record := parsed.newRecord random
    let bytes ← (encodeRecord record).mapError .contract
    .ok (.reserved record, .writeExclusive record.operationId bytes)

/-- Completes an operation with its result, or finds it completed with the same one before. -/
def complete (files : OperationFiles) (operationId : Units) (result : OwnValue) :
    Except RunOperationFailure (RunOperationRecordV1 × FileWrite Units) := do
  let operationId ← (parseRunOperationId (.string operationId)
    (ascii "run_operation.complete.operation_id")).mapError .contract
  (assertJsonValue result.val (ascii "run_operation.complete.result") OPERATION_DEPTH).mapError
    .contract
  match ← readRecord files operationId with
  | none => .error (.operation .localStateInvalid "operation record is not found")
  | some existing =>
    match existing.result with
    | .null =>
      let completed := { existing with result := result.val }
      let bytes ← (encodeRecord completed).mapError .contract
      .ok (completed, .writeAtomic operationId bytes)
    | durable =>
      let durableText ← (StrictJson.canonicalJson durable).mapError .contract
      let resultText ← (StrictJson.canonicalJson result.val).mapError .contract
      if durableText ≠ resultText then
        .error (.operation .operationConflict
          "operation already has a different durable result")
      else .ok (existing, .keep)

/-- Removes a reservation that is not completed. -/
def abandon (files : OperationFiles) (operationId : Units) :
    Except RunOperationFailure (FileWrite Units) := do
  let operationId ← (parseRunOperationId (.string operationId)
    (ascii "run_operation.abandon.operation_id")).mapError .contract
  match ← readRecord files operationId with
  | none => .ok .keep
  | some existing =>
    match existing.result with
    | .null => .ok (.unlink operationId)
    | _ => .error (.operation .localStateInvalid "completed operation cannot be abandoned")

/-- A call of a client, with the random bytes it would make a run id of. -/
inductive RunOperationCallV1 where
  | reserve (input : ReserveRunOperationInputV1) (random : BitVec 128)
  | complete (operationId : Units) (result : OwnValue)
  | abandon (operationId : Units)

/-- What a call writes, when it is not refused. -/
def RunOperationCallV1.write (call : RunOperationCallV1) (files : OperationFiles) :
    Except RunOperationFailure (FileWrite Units) :=
  match call with
  | .reserve input random => (Klura.reserve files input random).map Prod.snd
  | .complete operationId result => (Klura.complete files operationId result).map Prod.snd
  | .abandon operationId => Klura.abandon files operationId

/-- What may happen next to the store; its lock lets one call at a time in. -/
inductive RunOperationEventV1 where
  /-- A call returns, or is refused. -/
  | returns (call : RunOperationCallV1)
  /-- The process dies in a call and leaves these files. -/
  | crashes (call : RunOperationCallV1) (files : OperationFiles)

/-- The machine of the store: clients call it, from any process, and may die. -/
def operationMachine : Machine OperationFiles RunOperationEventV1 where
  starts files := files = fun _ => none
  step before event after :=
    match event with
    | .returns call =>
      match call.write before with
      | .ok write => after = write.apply before
      | .error _ => after = before
    | .crashes call files =>
      (match call.write before with
        | .ok write => write.Interrupted before files
        | .error _ => files = before) ∧ after = files

end Klura
