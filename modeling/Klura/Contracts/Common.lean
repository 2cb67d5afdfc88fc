import Klura.Contracts.Json

/-! Identifiers, digests and the error classes that decide how a failed run stops. -/

namespace Klura

/-- Whether a character may follow the first one of an identifier. -/
def isIdentifierChar (char : Char) : Bool :=
  ('a' ≤ char && char ≤ 'z') || ('0' ≤ char && char ≤ '9') || char = '_'

/-- Whether a text is a canonical lowercase snake_case identifier. -/
def isStableIdentifier (text : String) : Bool :=
  match text.toList with
  | [] => false
  | first :: rest => ('a' ≤ first && first ≤ 'z') && rest.all isIdentifierChar &&
      decide (rest.length ≤ 63)

/-- A stable contract identifier that its parser accepted. -/
structure StableContractIdV1 where
  text : String
  canonical : isStableIdentifier text = true
  deriving DecidableEq

/-- Capability identifiers share the shape of every other stable identifier. -/
abbrev CapabilityIdV1 : Type := StableContractIdV1

/-- A SHA-256 digest. -/
structure Sha256DigestV1 where
  bits : BitVec 256
  deriving DecidableEq

/-- The text of a digest: sixty-four lower-case hexadecimal digits. -/
def Sha256DigestV1.text (digest : Sha256DigestV1) : Bytes :=
  hexDigits 64 digest.bits.toNat []

/-- The identifier of one run. -/
structure RunIdV1 where
  bits : BitVec 128
  deriving DecidableEq

/-- The text of a run identifier. -/
def RunIdV1.text (runId : RunIdV1) : Bytes :=
  utf8 "run_v1_" ++ hexDigits 32 runId.bits.toNat []

/-- The identifier of one node of a run's graph. -/
structure RunNodeIdV1 where
  bits : BitVec 128
  deriving DecidableEq

/-- The text of a node identifier. -/
def RunNodeIdV1.text (nodeId : RunNodeIdV1) : Bytes :=
  utf8 "node_v1_" ++ hexDigits 32 nodeId.bits.toNat []

/-- Why the data spool refused. -/
inductive DataSpoolErrorCode where
  | durableBudgetExhausted
  | spoolCorrupt
  deriving DecidableEq

/-- Why the journal refused. -/
inductive RunJournalErrorCode where
  | journalCorrupt
  | durableBudgetExhausted
  deriving DecidableEq

/-- Why the output sink refused. -/
inductive RunOutputSinkErrorCode where
  | outputBudgetExhausted
  | outputFormatInvalid
  | csvProjectionInvalid
  | outputExists
  | outputSinkFailure
  deriving DecidableEq

/-- The errors a run can raise, by the class its handlers tell them apart with. -/
inductive RunError where
  | runBudgetExceeded (message : String)
  | itemValidation (message : String)
  | semanticStopItem (message : String)
  | dataSpool (code : DataSpoolErrorCode) (message : String)
  | runJournal (code : RunJournalErrorCode) (message : String)
  | runOutputSink (code : RunOutputSinkErrorCode) (message : String)
  | runRecovery (message : String)
  | runResult (message : String)
  | scrapeResume (message : String)
  | publicContract (field : String) (message : String)
  | attemptOrder (message : String)
  | outputPublicationPending
  | error (message : String)
  deriving DecidableEq

namespace RunError

/-- Whether an error is an instance of the contract error class, which several classes extend. -/
def isPublicContractError : RunError → Bool
  | .dataSpool .. | .runJournal .. | .runOutputSink .. | .runRecovery _ | .runResult _
  | .scrapeResume _ | .publicContract .. => true
  | _ => false

/-- Whether an error is an instance of the output sink's error class. -/
def isRunOutputSinkError : RunError → Bool
  | .runOutputSink .. => true
  | _ => false

/-- The message an error carries, which contract errors begin with the field they check. -/
def message : RunError → String
  | .dataSpool _ text => "data_spool: " ++ text
  | .runJournal _ text => "run_journal: " ++ text
  | .runOutputSink _ text => "run.output: " ++ text
  | .runRecovery text => "run.recovery: " ++ text
  | .runResult text => "run_result: " ++ text
  | .scrapeResume text => "run.resume: " ++ text
  | .publicContract field text => field ++ ": " ++ text
  | .runBudgetExceeded text | .itemValidation text | .semanticStopItem text
  | .attemptOrder text | .error text => text
  | .outputPublicationPending => "prepared output could not be finalized in the active process"

end RunError

/-- Checks an integer against the range its field declares. -/
def parseInteger (value : Int) (field : String) (minimum maximum : Nat) : Except RunError Unit :=
  if (minimum : Int) ≤ value ∧ value ≤ maximum then .ok ()
  else .error (.publicContract field
    (s!"must be an integer from {minimum} to {maximum}"))

/-- Checks the bytes of a string against the bound its field declares. -/
def parseString (value : String) (field : String) (maxBytes : Nat) : Except RunError Unit :=
  if value.utf8ByteSize ≤ maxBytes then .ok ()
  else .error (.publicContract field s!"must be at most {maxBytes} UTF-8 bytes")

end Klura
