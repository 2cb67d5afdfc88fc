import Klura.Contracts.JsonText
import Mathlib.Logic.Function.Basic

/-! Strategy candidates of one capability: staging, verification, evidence, review, promotion. -/

namespace Klura

/-- The tiers of strategies, in the order in which they are looked up. -/
inductive StrategyTier where
  | fetch
  | pageScript
  | recordedPath
  deriving DecidableEq

/-- All tiers. -/
def STRATEGY_TIERS : List StrategyTier := [.fetch, .pageScript, .recordedPath]

/-- The classes a verification run is put in. -/
inductive CandidateClassification where
  | explicitSuccess
  | explicitFailure
  | transportAccepted
  | transportFailure
  | notRun
  | deliveryUnknown
  deriving DecidableEq

/-- The outcomes of the verification after a save. -/
inductive PostSaveValidation where
  | passed
  | transportPassed
  | declined
  | skipped
  deriving DecidableEq

/-- The verdicts of a review. -/
inductive StrategyCandidateReviewVerdict where
  | verifiedSuccess
  | verifiedFailure
  | inconclusive
  deriving DecidableEq

/-- A proof that a strategy was verified. -/
structure PostSaveVerificationProofV1 where
  platform : Units
  capability : Units
  tier : StrategyTier
  strategyDigest : Units
  runtimeBuildId : Units
  verifierContract : Units

/-- What a verification run of a candidate recorded. -/
structure CandidateVerification where
  classification : CandidateClassification
  status : Nat
  checkedAtMs : Nat
  evidenceDigest : Option Units
  evidenceReviewable : Option Bool

/-- A judgment about the evidence of a candidate. -/
structure SemanticReview (ι : Type) where
  verdict : StrategyCandidateReviewVerdict
  candidateId : ι
  evidenceDigest : Units
  reviewedAtMs : Nat
  rationale : Units

/-- The identifier of a candidate: its tier and the digest of its bytes. -/
structure CandidateId where
  tier : StrategyTier
  digest : Units
  deriving DecidableEq

/-- The metadata of a strategy, or a part of it; its other members are listed. -/
structure RuntimeMeta where
  postSaveValidation : Option PostSaveValidation
  /-- None also for a malformed proof. -/
  postSaveVerification : Option PostSaveVerificationProofV1
  candidateVerification : Option CandidateVerification
  semanticReview : Option (SemanticReview CandidateId)
  others : List (Units × JsValue)

/-- The metadata without members. -/
def RuntimeMeta.empty : RuntimeMeta :=
  { postSaveValidation := none, postSaveVerification := none, candidateVerification := none,
    semanticReview := none, others := [] }

/-- Metadata with the members of a patch over its own. -/
def RuntimeMeta.patched (base patch : RuntimeMeta) : RuntimeMeta :=
  { postSaveValidation := patch.postSaveValidation <|> base.postSaveValidation
    postSaveVerification := patch.postSaveVerification <|> base.postSaveVerification
    candidateVerification := patch.candidateVerification <|> base.candidateVerification
    semanticReview := patch.semanticReview <|> base.semanticReview
    others := patch.others.foldl
      (fun members member => OrderedMap.set members member.1 member.2) base.others }

/-- A strategy: its tier, its metadata and its other members. -/
structure Strategy where
  strategy : StrategyTier
  runtimeMeta : Option RuntimeMeta
  members : List (Units × JsValue)

/-- The state of the active strategies when a candidate was staged. -/
inductive ActiveStrategyBaseline where
  | absent
  | present (sha256 : Units)
  deriving DecidableEq

/-- The record beside a candidate. -/
structure StrategyCandidateSidecarV2 where
  candidateId : CandidateId
  candidateDigest : Units
  baselineActive : ActiveStrategyBaseline
  verification : Option RuntimeMeta

/-- The kinds of evidence bodies. -/
inductive EvidenceBodyKind where
  | json
  | text
  | null
  | undefined
  | unserializable
  deriving DecidableEq

/-- The body of a verification run. -/
inductive EvidenceBody where
  | undefined
  | value (value : JsValue)
  | unserializable

/-- The evidence that a verification run left. -/
structure StrategyCandidateEvidenceV1 where
  candidateId : CandidateId
  candidateDigest : Units
  classification : CandidateClassification
  status : Nat
  checkedAtMs : Nat
  bodyKind : EvidenceBodyKind
  bodySha256 : Units
  bodyTotalChars : Nat
  reviewable : Bool
  bodyText : Option Units
  finalUrl : Option Units

/-- The files of one capability, each written and removed as a whole. -/
structure CandidateFiles where
  active : StrategyTier → Option Units
  candidate : CandidateId → Option Units
  sidecar : CandidateId → Option StrategyCandidateSidecarV2
  evidence : CandidateId → Option StrategyCandidateEvidenceV1

/-- The operations on files: a file renamed into place, or unlinked. -/
inductive CandidateFileOp where
  | active (tier : StrategyTier) (bytes : Option Units)
  | candidate (id : CandidateId) (bytes : Option Units)
  | sidecar (id : CandidateId) (record : Option StrategyCandidateSidecarV2)
  | evidence (id : CandidateId) (artifact : Option StrategyCandidateEvidenceV1)

/-- The files after an operation. -/
def CandidateFiles.apply (files : CandidateFiles) : CandidateFileOp → CandidateFiles
  | .active tier bytes => { files with active := Function.update files.active tier bytes }
  | .candidate id bytes => { files with candidate := Function.update files.candidate id bytes }
  | .sidecar id record => { files with sidecar := Function.update files.sidecar id record }
  | .evidence id artifact =>
    { files with evidence := Function.update files.evidence id artifact }

/-- The errors of candidates. -/
inductive StrategyCandidateErrorCode where
  | candidateMissing
  | digestMismatch
  | tierMismatch
  | malformedJson
  | verificationMissing
  | verificationInvalid
  | notVerified
  | evidenceMissing
  | evidenceInvalid
  | evidenceMismatch
  | evidenceUnreviewable
  | promotionConflict
  deriving DecidableEq

/-- What the functions of candidates rest on. -/
structure CandidateWorld where
  platform : Units
  capability : Units
  /-- The hexadecimal digest of a text. -/
  sha256 : Units → Units
  /-- The text of a strategy as JSON.stringify indents it. -/
  serializeJson : Strategy → Units
  /-- The strategy that a JSON text gives, none where JSON.parse throws. -/
  parseJson : Units → Option Strategy
  /-- The text of evidence as JSON.stringify indents it. -/
  serializeEvidence : StrategyCandidateEvidenceV1 → Units
  /-- The JSON text of the digests of the active strategies. -/
  describeActive : List (StrategyTier × Units) → Units
  /-- The digest of a strategy without what verification stamps on it. -/
  postSaveStrategyDigest : Strategy → Units

/-- The code units of a body that a review may cover. -/
def MAX_REVIEWABLE_EVIDENCE_CHARS : Nat := 1000000

/-- The contract that proofs are made under. -/
def POST_SAVE_VERIFIER_CONTRACT : Units := ascii "post-save-verification-v1"

section Loading

variable (world : CandidateWorld)

/-- The strategy of a candidate and its digest, checked against the identifier. -/
def loadCheckedStrategyCandidateRecord (files : CandidateFiles) (id : CandidateId) :
    Except StrategyCandidateErrorCode (Option (Strategy × Units)) :=
  match files.candidate id with
  | none => .ok none
  | some sourceBytes =>
    let digest := world.sha256 sourceBytes
    if digest ≠ id.digest then .error .digestMismatch
    else
      match world.parseJson sourceBytes with
      | none => .error .malformedJson
      | some strategy =>
        if strategy.strategy ≠ id.tier then .error .tierMismatch
        else .ok (some (strategy, digest))

/-- The digests of the active strategies, by tier. -/
def activeDigests (active : StrategyTier → Option Units) : List (StrategyTier × Units) :=
  STRATEGY_TIERS.filterMap fun tier => (active tier).map fun bytes => (tier, world.sha256 bytes)

/-- The state of the active strategies. -/
def activeStrategyBaseline (active : StrategyTier → Option Units) : ActiveStrategyBaseline :=
  match activeDigests world active with
  | [] => .absent
  | digests => .present (world.sha256 (world.describeActive digests))

/-- The record beside a candidate, checked against the identifier. -/
def loadCandidateSidecar (files : CandidateFiles) (id : CandidateId) :
    Except StrategyCandidateErrorCode (Option StrategyCandidateSidecarV2) :=
  match files.sidecar id with
  | none => .ok none
  | some record =>
    if record.candidateId = id then .ok (some record) else .error .verificationInvalid

/-- The candidate and its record, which must be there and agree. -/
def loadCandidateWithSidecar (files : CandidateFiles) (id : CandidateId) :
    Except StrategyCandidateErrorCode (Strategy × Units × StrategyCandidateSidecarV2) := do
  match ← loadCheckedStrategyCandidateRecord world files id with
  | none => .error .candidateMissing
  | some (strategy, digest) =>
    match ← loadCandidateSidecar files id with
    | none => .error .verificationMissing
    | some sidecar =>
      if sidecar.candidateDigest ≠ digest then .error .verificationInvalid
      else .ok (strategy, digest, sidecar)

/-- The kind and the text of a body. -/
def encodeEvidenceBody : EvidenceBody → EvidenceBodyKind × Units
  | .undefined => (.undefined, ascii "undefined")
  | .value .null => (.null, ascii "null")
  | .value (.string text) => (.text, text)
  | .value value => (.json, jsonStringify value)
  | .unserializable => (.unserializable, [])

/-- What a verification run hands over as evidence. -/
structure EvidenceInput where
  classification : CandidateClassification
  status : Nat
  checkedAtMs : Nat
  body : EvidenceBody
  finalUrl : Option Units

/-- The evidence of a verification run. -/
def buildEvidenceArtifact (id : CandidateId) (candidateDigest : Units) (input : EvidenceInput) :
    StrategyCandidateEvidenceV1 :=
  let (bodyKind, bodyText) := encodeEvidenceBody input.body
  let reviewable :=
    bodyKind ≠ .unserializable ∧ bodyText.length ≤ MAX_REVIEWABLE_EVIDENCE_CHARS
  { candidateId := id, candidateDigest, classification := input.classification,
    status := input.status, checkedAtMs := input.checkedAtMs, bodyKind,
    bodySha256 := world.sha256 bodyText, bodyTotalChars := bodyText.length,
    reviewable := decide reviewable, bodyText := if reviewable then some bodyText else none,
    finalUrl := input.finalUrl.filter (· ≠ []) }

/-- Whether evidence that was read is well formed. -/
def evidenceWellFormed (id : CandidateId) (artifact : StrategyCandidateEvidenceV1) : Bool :=
  artifact.candidateId == id &&
    (match artifact.bodyText with
    | some text => artifact.reviewable && text.length == artifact.bodyTotalChars &&
      world.sha256 text == artifact.bodySha256
    | none => !artifact.reviewable)

/-- The evidence of a candidate, checked against its record. -/
def loadCheckedCandidateEvidence (files : CandidateFiles) (id : CandidateId)
    (sidecar : StrategyCandidateSidecarV2) :
    Except StrategyCandidateErrorCode (StrategyCandidateEvidenceV1 × Units) :=
  match sidecar.verification.bind RuntimeMeta.candidateVerification with
  | none => .error .evidenceMissing
  | some verification =>
    match verification.evidenceDigest, files.evidence id with
    | none, _ | _, none => .error .evidenceMissing
    | some expectedDigest, some artifact =>
      if !evidenceWellFormed world id artifact then .error .evidenceInvalid
      else
        let digest := world.sha256 (world.serializeEvidence artifact)
        if digest ≠ expectedDigest then .error .evidenceMismatch
        else if artifact.candidateDigest ≠ sidecar.candidateDigest ∨
            artifact.classification ≠ verification.classification ∨
            artifact.status ≠ verification.status ∨
            artifact.checkedAtMs ≠ verification.checkedAtMs then .error .evidenceMismatch
        else .ok (artifact, digest)

/-- Whether a proof is current for a strategy. -/
def proofIsCurrent (strategy : Strategy) (proof : PostSaveVerificationProofV1) : Bool :=
  proof.platform == world.platform && proof.capability == world.capability &&
    proof.verifierContract == POST_SAVE_VERIFIER_CONTRACT && proof.tier == strategy.strategy &&
      proof.strategyDigest == world.postSaveStrategyDigest strategy

end Loading

section Operations

variable (world : CandidateWorld)

/-- The candidate that a strategy is staged as. -/
def stagedId (data : Strategy) : CandidateId :=
  { tier := data.strategy, digest := world.sha256 (world.serializeJson data) }

/-- Stage a strategy: its bytes, no evidence, and a record of the active strategies. -/
def stageStrategyCandidate (files : CandidateFiles) (data : Strategy) : List CandidateFileOp :=
  let id := stagedId world data
  [.candidate id (some (world.serializeJson data)), .evidence id none,
    .sidecar id (some {
      candidateId := id, candidateDigest := id.digest,
      baselineActive := activeStrategyBaseline world files.active, verification := none })]

/-- Record a patch of the metadata beside a candidate. -/
def writeStrategyCandidateVerification (files : CandidateFiles) (id : CandidateId)
    (patch : RuntimeMeta) : Except StrategyCandidateErrorCode (List CandidateFileOp) := do
  let (_, _, sidecar) ← loadCandidateWithSidecar world files id
  .ok [.sidecar id (some { sidecar with
    verification := some ((sidecar.verification.getD .empty).patched patch) })]

/-- Record the evidence of a verification run with its metadata. -/
def writeStrategyCandidateExecutionEvidence (files : CandidateFiles) (id : CandidateId)
    (patch : RuntimeMeta) (verification : CandidateVerification) (input : EvidenceInput) :
    Except StrategyCandidateErrorCode (List CandidateFileOp) := do
  let (_, digest, sidecar) ← loadCandidateWithSidecar world files id
  let artifact := buildEvidenceArtifact world id digest input
  let evidenceDigest := world.sha256 (world.serializeEvidence artifact)
  let merged := (sidecar.verification.getD .empty).patched patch
  .ok [.evidence id (some artifact),
    .sidecar id (some { sidecar with
      verification := some { merged with
        candidateVerification := some { verification with
          evidenceDigest := some evidenceDigest
          evidenceReviewable := some artifact.reviewable } } })]

/-- Record a review of the evidence. -/
def recordStrategyCandidateSemanticReview (files : CandidateFiles) (id : CandidateId)
    (evidenceDigest : Units) (verdict : StrategyCandidateReviewVerdict) (rationale : Units)
    (nowMs : Nat) : Except StrategyCandidateErrorCode (List CandidateFileOp) := do
  let (_, _, sidecar) ← loadCandidateWithSidecar world files id
  let (artifact, digest) ← loadCheckedCandidateEvidence world files id sidecar
  if digest ≠ evidenceDigest then .error .evidenceMismatch
  else if !artifact.reviewable then .error .evidenceUnreviewable
  else if artifact.classification ≠ .transportAccepted then .error .notVerified
  else
    let priorMeta := sidecar.verification.getD .empty
    .ok [.sidecar id (some { sidecar with
      verification := some { priorMeta with
        postSaveValidation :=
          some (if verdict = .verifiedSuccess then .passed else .transportPassed)
        semanticReview := some {
          verdict, candidateId := id, evidenceDigest, reviewedAtMs := nowMs, rationale } } })]

/-- Whether a verification ended in explicit success. -/
def explicitlySuccessful (verification : RuntimeMeta) : Bool :=
  verification.postSaveValidation == some .passed &&
    verification.candidateVerification.any fun run => run.classification == .explicitSuccess

/-- Whether a review of the recorded evidence found success. -/
def reviewedSuccessfully (id : CandidateId) (verification : RuntimeMeta) : Bool :=
  verification.postSaveValidation == some .passed &&
    match verification.candidateVerification, verification.semanticReview with
    | some run, some review => run.classification == .transportAccepted &&
      review.verdict == .verifiedSuccess && review.candidateId == id &&
        some review.evidenceDigest == run.evidenceDigest
    | _, _ => false

/-- Whether a candidate may be promoted by what is recorded of it. -/
def promotable (files : CandidateFiles) (id : CandidateId)
    (sidecar : StrategyCandidateSidecarV2) : Except StrategyCandidateErrorCode Bool :=
  let verification := sidecar.verification.getD .empty
  -- Only a reviewed candidate has its evidence read again.
  if reviewedSuccessfully id verification then do
    let (_, digest) ← loadCheckedCandidateEvidence world files id sidecar
    .ok (explicitlySuccessful verification ||
      verification.semanticReview.any fun review => review.evidenceDigest == digest)
  else .ok (explicitlySuccessful verification)

/-- The strategy that is made active for a candidate. -/
def promotedStrategy (candidate : Strategy) (verification : Option RuntimeMeta) : Strategy :=
  let own := candidate.runtimeMeta.getD .empty
  { candidate with runtimeMeta := some (own.patched (verification.getD .empty)) }

/-- Promote a candidate: write the active strategy, then remove what was staged. -/
def promoteStrategyCandidate (files : CandidateFiles) (id : CandidateId) :
    Except StrategyCandidateErrorCode (List CandidateFileOp) := do
  let (candidate, _, sidecar) ← loadCandidateWithSidecar world files id
  match (sidecar.verification.getD .empty).postSaveVerification with
  | none => .error .verificationInvalid
  | some proof =>
    if !proofIsCurrent world candidate proof then .error .verificationInvalid
    else if !(← promotable world files id sidecar) then .error .notVerified
    else if sidecar.baselineActive ≠ activeStrategyBaseline world files.active
    then .error .promotionConflict
    else
      .ok [.active candidate.strategy
          (some (world.serializeJson (promotedStrategy candidate sidecar.verification))),
        .candidate id none, .sidecar id none, .evidence id none]

end Operations

/-- The operations on one capability that hold its mutation lock. -/
inductive CandidateOperation where
  | stage (data : Strategy)
  | verify (id : CandidateId) (patch : RuntimeMeta)
  | evidence (id : CandidateId) (patch : RuntimeMeta) (verification : CandidateVerification)
      (input : EvidenceInput)
  | review (id : CandidateId) (evidenceDigest : Units) (verdict : StrategyCandidateReviewVerdict)
      (rationale : Units) (nowMs : Nat)
  | promote (id : CandidateId)
  /-- A save, a patch, a stamp, a demotion or an archival of active strategies. -/
  | mutate (changes : List (StrategyTier × Option Units))

/-- The file operations that an operation does one after another, none where it throws. -/
def fileOpsOf (world : CandidateWorld) (files : CandidateFiles) :
    CandidateOperation → List CandidateFileOp
  | .stage data => stageStrategyCandidate world files data
  | .verify id patch => ((writeStrategyCandidateVerification world files id patch).toOption).getD []
  | .evidence id patch verification input =>
    ((writeStrategyCandidateExecutionEvidence world files id patch verification input).toOption).getD
      []
  | .review id evidenceDigest verdict rationale nowMs =>
    ((recordStrategyCandidateSemanticReview world files id evidenceDigest verdict rationale
      nowMs).toOption).getD []
  | .promote id => ((promoteStrategyCandidate world files id).toOption).getD []
  | .mutate changes => changes.map fun change => .active change.1 change.2

end Klura
