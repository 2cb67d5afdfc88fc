import Klura.Library.Machine
import Klura.Contracts.Sha256
import Klura.Library.Utf8
import Klura.Strategies.Candidates

/-! Promotion of a strategy candidate, in every order of operations and with crashes. -/

namespace Klura

/-- The files of a capability, with what was staged for each candidate. -/
structure CandidateState where
  files : CandidateFiles
  /-- The strategy whose bytes were last written for a candidate. -/
  staged : CandidateId → Option Strategy
  /-- The active strategies when the record of a candidate's last staging was made. -/
  activeAt : CandidateId → Option (StrategyTier → Option Units)

/-- An operation under the lock, with the file operations it does before it ends or crashes. -/
structure CandidateEvent where
  operation : CandidateOperation
  done : Nat

/-- The files after an event. -/
def filesAfter (world : CandidateWorld) (files : CandidateFiles) (event : CandidateEvent) :
    CandidateFiles :=
  ((fileOpsOf world files event.operation).take event.done).foldl CandidateFiles.apply files

/-- The state after an event. -/
def candidateNext (world : CandidateWorld) (state : CandidateState) (event : CandidateEvent) :
    CandidateState :=
  { files := filesAfter world state.files event
    staged := match event.operation with
      | .stage data =>
        if 1 ≤ event.done then Function.update state.staged (stagedId world data) (some data)
        else state.staged
      | _ => state.staged
    activeAt := match event.operation with
      | .stage data =>
        if 3 ≤ event.done then
          Function.update state.activeAt (stagedId world data) (some state.files.active)
        else state.activeAt
      | _ => state.activeAt }

/-- The operations of any number of processes on one capability, from no candidate on. -/
def candidateMachine (world : CandidateWorld) : Machine CandidateState CandidateEvent where
  starts state := ∀ id, state.files.candidate id = none ∧ state.files.sidecar id = none
  step state event after := after = candidateNext world state event

/-- No crash separates the evidence of a candidate from its record, or a promotion from the
removal of the candidate, and evidence is recorded by the runs it is of. -/
def KeepsTogether (_ : CandidateState) (event : CandidateEvent) : Prop :=
  match event.operation with
  | .stage _ => event.done ≤ 1 ∨ 3 ≤ event.done
  | .verify _ patch => patch.candidateVerification = none
  | .evidence _ _ verification input =>
    verification.classification = input.classification ∧ (event.done = 0 ∨ 2 ≤ event.done)
  | .promote _ => event.done = 0 ∨ 2 ≤ event.done
  | .review .. | .mutate _ => True

/-- The evidence on disk is the one that a verification run of a candidate recorded. -/
structure EvidenceOf (world : CandidateWorld) (files : CandidateFiles) (id : CandidateId)
    (run : CandidateVerification) (artifact : StrategyCandidateEvidenceV1) : Prop where
  stored : files.evidence id = some artifact
  digest : run.evidenceDigest = some (world.sha256 (world.serializeEvidence artifact))
  candidate : artifact.candidateDigest = id.digest
  classification : artifact.classification = run.classification

/-- A promotion that was due, and what it wrote. -/
structure PromotedFrom (world : CandidateWorld) (before after : CandidateState)
    (id : CandidateId) (data candidate : Strategy) (verification : RuntimeMeta)
    (run : CandidateVerification) (artifact : StrategyCandidateEvidenceV1)
    (proof : PostSaveVerificationProofV1) (activeThen : StrategyTier → Option Units) : Prop where
  staged : before.staged id = some data
  bytes : before.files.candidate id = some (world.serializeJson data)
  named : id = stagedId world data
  parsed : world.parseJson (world.serializeJson data) = some candidate
  recorded : ∃ sidecar, before.files.sidecar id = some sidecar ∧
    sidecar.candidateDigest = id.digest ∧ sidecar.verification = some verification
  proven : verification.postSaveVerification = some proof ∧ proofIsCurrent world candidate proof
  ran : verification.candidateVerification = some run
  evidence : EvidenceOf world before.files id run artifact
  passed : verification.postSaveValidation = some .passed
  success : run.classification = .explicitSuccess ∨ run.classification = .transportAccepted ∧
    ∃ review, verification.semanticReview = some review ∧ review.verdict = .verifiedSuccess ∧
      review.candidateId = id ∧
        review.evidenceDigest = world.sha256 (world.serializeEvidence artifact)
  since : before.activeAt id = some activeThen
  baseline : activeStrategyBaseline world activeThen =
    activeStrategyBaseline world before.files.active
  unchanged : Function.Injective world.sha256 → Function.Injective world.describeActive →
    activeThen = before.files.active
  active : after.files.active = Function.update before.files.active candidate.strategy
    (some (world.serializeJson (promotedStrategy candidate (some verification))))
  removed : after.files.candidate id = none

/-- What an event does to the active strategies, and what is left to retry of a promotion. -/
def PromotionSound (world : CandidateWorld) (before : CandidateState) (event : CandidateEvent)
    (after : CandidateState) : Prop :=
  match event.operation with
  | .mutate _ => True
  | .promote id =>
    (after.files.active = before.files.active ∧
      fileOpsOf world after.files (.promote id) = fileOpsOf world before.files (.promote id)) ∨
    ∃ data candidate verification run artifact proof activeThen,
      PromotedFrom world before after id data candidate verification run artifact proof activeThen
  | _ => after.files.active = before.files.active

section Digests

variable {world : CandidateWorld}

theorem mem_activeDigests {active : StrategyTier → Option Units} {tier : StrategyTier}
    {digest : Units} :
    (tier, digest) ∈ activeDigests world active ↔ (active tier).map world.sha256 = some digest := by
  have listed : tier ∈ STRATEGY_TIERS := by cases tier <;> decide
  simp only [activeDigests, List.mem_filterMap, Option.map_eq_some_iff, Prod.mk.injEq]
  constructor
  · intro held
    obtain ⟨other, _, bytes, found, rfl, rfl⟩ := held
    exact ⟨bytes, found, rfl⟩
  · intro held
    obtain ⟨bytes, found, rfl⟩ := held
    exact ⟨tier, listed, bytes, found, rfl, rfl⟩

theorem activeStrategyBaseline_injective {left right : StrategyTier → Option Units}
    (digests : Function.Injective world.sha256) (texts : Function.Injective world.describeActive)
    (same : activeStrategyBaseline world left = activeStrategyBaseline world right) :
    left = right := by
  have lists : activeDigests world left = activeDigests world right := by
    simp only [activeStrategyBaseline] at same
    split at same
    · rename_i none_left
      split at same
      · rename_i none_right
        rw [none_left, none_right]
      · cases same
    · split at same
      · cases same
      · exact texts (digests (ActiveStrategyBaseline.present.inj same))
  funext tier
  apply Option.map_injective digests
  apply Option.ext
  intro digest
  rw [← mem_activeDigests, ← mem_activeDigests, lists]

end Digests

section Specs

variable {world : CandidateWorld} {files : CandidateFiles} {id : CandidateId}

/-- A candidate that loads with its record is the one the identifier names. -/
structure Loaded (world : CandidateWorld) (files : CandidateFiles) (id : CandidateId)
    (candidate : Strategy) (digest : Units) (sidecar : StrategyCandidateSidecarV2) : Prop where
  bytes : ∃ text, files.candidate id = some text ∧ world.sha256 text = id.digest ∧
    world.parseJson text = some candidate
  digest : digest = id.digest
  tier : candidate.strategy = id.tier
  beside : files.sidecar id = some sidecar
  named : sidecar.candidateId = id
  agrees : sidecar.candidateDigest = id.digest

variable {sidecar : StrategyCandidateSidecarV2}

/-- A candidate that loads has been checked. -/
theorem loadCandidateWithSidecar_loaded {candidate : Strategy} {digest : Units}
    (loads : loadCandidateWithSidecar world files id = .ok (candidate, digest, sidecar)) :
    Loaded world files id candidate digest sidecar := by
  simp only [loadCandidateWithSidecar, loadCheckedStrategyCandidateRecord, loadCandidateSidecar,
    bind, Except.bind] at loads
  cases stored : files.candidate id with
  | none => simp [stored] at loads
  | some text =>
    simp only [stored] at loads
    by_cases hashed : world.sha256 text = id.digest
    · simp only [hashed, ne_eq, not_true_eq_false, if_false] at loads
      cases parsed : world.parseJson text with
      | none => simp [parsed] at loads
      | some strategy =>
        simp only [parsed] at loads
        by_cases tier : strategy.strategy = id.tier
        · simp only [tier, not_true_eq_false, if_false] at loads
          cases beside : files.sidecar id with
          | none => simp [beside] at loads
          | some record =>
            simp only [beside] at loads
            by_cases named : record.candidateId = id
            · simp only [named, if_true] at loads
              by_cases agrees : record.candidateDigest = id.digest
              · simp only [agrees, not_true_eq_false, if_false, Except.ok.injEq,
                  Prod.mk.injEq] at loads
                obtain ⟨rfl, rfl, rfl⟩ := loads
                exact ⟨⟨text, stored, hashed, parsed⟩, rfl, tier, beside, named, agrees⟩
              · simp [agrees] at loads
            · simp [named] at loads
        · simp [tier] at loads
    · simp [hashed] at loads

/-- What a verification must say for a promotion, as the files are. -/
def Succeeded (world : CandidateWorld) (files : CandidateFiles) (id : CandidateId)
    (sidecar : StrategyCandidateSidecarV2) (verification : RuntimeMeta) : Prop :=
  explicitlySuccessful verification = true ∨
    reviewedSuccessfully id verification = true ∧ ∃ artifact digest,
      loadCheckedCandidateEvidence world files id sidecar = .ok (artifact, digest) ∧
        verification.semanticReview.any (fun review => review.evidenceDigest == digest) = true

theorem promotable_succeeded (may : promotable world files id sidecar = .ok true) :
    Succeeded world files id sidecar (sidecar.verification.getD .empty) := by
  simp only [promotable] at may
  split at may
  · rename_i reviewed
    cases loads : loadCheckedCandidateEvidence world files id sidecar with
    | error problem => simp [loads, bind, Except.bind] at may
    | ok read =>
      simp only [loads, bind, Except.bind, Except.ok.injEq, Bool.or_eq_true] at may
      rcases may with explicit | bound
      · exact Or.inl explicit
      · exact Or.inr ⟨reviewed, read.1, read.2, loads, bound⟩
  · exact Or.inl (by simpa using may)

variable {ops : List CandidateFileOp}

/-- A promotion that goes through was due, and does these file operations. -/
theorem promoteStrategyCandidate_due (promotes : promoteStrategyCandidate world files id = .ok ops) :
    ∃ candidate digest sidecar verification proof, Loaded world files id candidate digest sidecar ∧
      sidecar.verification = some verification ∧
      verification.postSaveVerification = some proof ∧ proofIsCurrent world candidate proof = true ∧
      Succeeded world files id sidecar verification ∧
      sidecar.baselineActive = activeStrategyBaseline world files.active ∧
      ops = [.active candidate.strategy
          (some (world.serializeJson (promotedStrategy candidate (some verification)))),
        .candidate id none, .sidecar id none, .evidence id none] := by
  simp only [promoteStrategyCandidate, bind, Except.bind] at promotes
  cases loads : loadCandidateWithSidecar world files id with
  | error problem => simp [loads] at promotes
  | ok read =>
    obtain ⟨candidate, digest, sidecar⟩ := read
    simp only [loads] at promotes
    cases recorded : sidecar.verification with
    | none => simp [recorded, RuntimeMeta.empty] at promotes
    | some verification =>
      simp only [recorded, Option.getD_some] at promotes
      cases proven : verification.postSaveVerification with
      | none => simp [proven] at promotes
      | some proof =>
        simp only [proven] at promotes
        split at promotes
        · cases promotes
        rename_i current
        cases may : promotable world files id sidecar with
        | error problem => simp [may] at promotes
        | ok allowed =>
          simp only [may] at promotes
          cases allowed with
          | false => simp at promotes
          | true =>
            have succeeded := promotable_succeeded may
            rw [recorded] at succeeded
            simp only [Bool.not_true, Bool.false_eq_true, if_false] at promotes
            split at promotes
            · cases promotes
            · rename_i same
              simp only [Except.ok.injEq] at promotes
              exact ⟨candidate, digest, sidecar, verification, proof,
                loadCandidateWithSidecar_loaded loads, recorded, proven, by simpa using current,
                succeeded, by simpa using same, promotes.symm⟩

variable {patch : RuntimeMeta}

theorem writeVerification_writes
    (writes : writeStrategyCandidateVerification world files id patch = .ok ops) :
    ∃ candidate digest sidecar, Loaded world files id candidate digest sidecar ∧
      ops = [.sidecar id (some { sidecar with
        verification := some ((sidecar.verification.getD .empty).patched patch) })] := by
  simp only [writeStrategyCandidateVerification, bind, Except.bind] at writes
  cases loads : loadCandidateWithSidecar world files id with
  | error problem => simp [loads] at writes
  | ok read =>
    obtain ⟨candidate, digest, sidecar⟩ := read
    simp only [loads, Except.ok.injEq] at writes
    exact ⟨candidate, digest, sidecar, loadCandidateWithSidecar_loaded loads, writes.symm⟩

theorem writeEvidence_writes {verification : CandidateVerification} {input : EvidenceInput}
    (writes : writeStrategyCandidateExecutionEvidence world files id patch verification input = .ok ops) :
    ∃ candidate digest sidecar written, Loaded world files id candidate digest sidecar ∧
      written.candidateVerification = some { verification with
        evidenceDigest := some (world.sha256 (world.serializeEvidence
          (buildEvidenceArtifact world id digest input)))
        evidenceReviewable := some (buildEvidenceArtifact world id digest input).reviewable } ∧
      ops = [.evidence id (some (buildEvidenceArtifact world id digest input)),
        .sidecar id (some { sidecar with verification := some written })] := by
  simp only [writeStrategyCandidateExecutionEvidence, bind, Except.bind] at writes
  cases loads : loadCandidateWithSidecar world files id with
  | error problem => simp [loads] at writes
  | ok read =>
    obtain ⟨candidate, digest, sidecar⟩ := read
    simp only [loads, Except.ok.injEq] at writes
    exact ⟨candidate, digest, sidecar, _, loadCandidateWithSidecar_loaded loads, rfl, writes.symm⟩

theorem recordReview_writes {evidenceDigest rationale : Units}
    {verdict : StrategyCandidateReviewVerdict} {nowMs : Nat}
    (writes : recordStrategyCandidateSemanticReview world files id evidenceDigest verdict rationale nowMs = .ok ops) :
    ∃ candidate digest sidecar written, Loaded world files id candidate digest sidecar ∧
      written.candidateVerification =
        (sidecar.verification.getD .empty).candidateVerification ∧
      ops = [.sidecar id (some { sidecar with verification := some written })] := by
  simp only [recordStrategyCandidateSemanticReview, bind, Except.bind] at writes
  cases loads : loadCandidateWithSidecar world files id with
  | error problem => simp [loads] at writes
  | ok read =>
    obtain ⟨candidate, digest, sidecar⟩ := read
    simp only [loads] at writes
    cases evidence : loadCheckedCandidateEvidence world files id sidecar with
    | error problem => simp [evidence] at writes
    | ok found =>
      simp only [evidence] at writes
      split at writes
      · cases writes
      split at writes
      · cases writes
      split at writes
      · cases writes
      simp only [Except.ok.injEq] at writes
      refine ⟨candidate, digest, sidecar, _, loadCandidateWithSidecar_loaded loads, ?_,
        writes.symm⟩
      rfl

end Specs

/-- What holds of a capability's candidates as long as nothing is torn apart. -/
structure CandidatesHold (world : CandidateWorld) (state : CandidateState) : Prop where
  bytes : ∀ id text, state.files.candidate id = some text →
    ∃ data, state.staged id = some data ∧ text = world.serializeJson data ∧
      id = stagedId world data
  since : ∀ id sidecar, state.files.sidecar id = some sidecar →
    sidecar.candidateDigest = id.digest ∧ ∃ activeThen, state.activeAt id = some activeThen ∧
      sidecar.baselineActive = activeStrategyBaseline world activeThen
  evidence : ∀ id sidecar run, state.files.sidecar id = some sidecar →
    sidecar.verification.bind RuntimeMeta.candidateVerification = some run →
      ∃ artifact, EvidenceOf world state.files id run artifact

section Steps

variable {world : CandidateWorld} {state : CandidateState}

variable {sidecar : StrategyCandidateSidecarV2}

/-- A record that keeps what was staged and the recorded run can take the place of another. -/
theorem CandidatesHold.rewritten (holds : CandidatesHold world state) {id : CandidateId}
    {next : StrategyCandidateSidecarV2} (beside : state.files.sidecar id = some sidecar)
    (digest : next.candidateDigest = sidecar.candidateDigest)
    (baseline : next.baselineActive = sidecar.baselineActive)
    (run : next.verification.bind RuntimeMeta.candidateVerification = sidecar.verification.bind RuntimeMeta.candidateVerification) :
    CandidatesHold world
      { state with files := state.files.apply (.sidecar id (some next)) } where
  bytes := holds.bytes
  since := by
    intro other record held
    by_cases same : other = id
    · subst same
      simp only [CandidateFiles.apply, Function.update_self, Option.some.injEq] at held
      subst held
      rw [digest, baseline]
      exact holds.since other sidecar beside
    · simp only [CandidateFiles.apply, Function.update_of_ne same] at held
      exact holds.since other record held
  evidence := by
    intro other record found held recorded
    by_cases same : other = id
    · subst same
      simp only [CandidateFiles.apply, Function.update_self, Option.some.injEq] at held
      subst held
      rw [run] at recorded
      obtain ⟨artifact, evidence⟩ := holds.evidence other sidecar found beside recorded
      exact ⟨artifact, evidence.stored, evidence.digest, evidence.candidate,
        evidence.classification⟩
    · simp only [CandidateFiles.apply, Function.update_of_ne same] at held
      obtain ⟨artifact, evidence⟩ := holds.evidence other record found held recorded
      exact ⟨artifact, evidence.stored, evidence.digest, evidence.candidate,
        evidence.classification⟩

/-- Evidence that is written together with the record that names it keeps what holds. -/
theorem CandidatesHold.measured (holds : CandidatesHold world state) {id : CandidateId}
    (beside : state.files.sidecar id = some sidecar) (next : StrategyCandidateSidecarV2)
    (artifact : StrategyCandidateEvidenceV1)
    (digest : next.candidateDigest = sidecar.candidateDigest)
    (baseline : next.baselineActive = sidecar.baselineActive) {run : CandidateVerification}
    (recorded : next.verification.bind RuntimeMeta.candidateVerification = some run)
    (named : run.evidenceDigest = some (world.sha256 (world.serializeEvidence artifact)))
    (own : artifact.candidateDigest = id.digest)
    (classified : artifact.classification = run.classification) :
    CandidatesHold world { state with
      files := (state.files.apply (.evidence id (some artifact))).apply
        (.sidecar id (some next)) } where
  bytes := holds.bytes
  since := by
    intro other record held
    by_cases same : other = id
    · subst same
      simp only [CandidateFiles.apply, Function.update_self, Option.some.injEq] at held
      subst held
      rw [digest, baseline]
      exact holds.since other sidecar beside
    · simp only [CandidateFiles.apply, Function.update_of_ne same] at held
      exact holds.since other record held
  evidence := by
    intro other record found held of_record
    by_cases same : other = id
    · subst same
      simp only [CandidateFiles.apply, Function.update_self, Option.some.injEq] at held
      subst held
      obtain rfl : run = found := Option.some.inj (recorded.symm.trans of_record)
      exact ⟨artifact, by simp [CandidateFiles.apply], named, own, classified⟩
    · simp only [CandidateFiles.apply, Function.update_of_ne same] at held
      obtain ⟨stored, evidence⟩ := holds.evidence other record found held of_record
      refine ⟨stored, ?_, evidence.digest, evidence.candidate, evidence.classification⟩
      simp only [CandidateFiles.apply, Function.update_of_ne same]
      exact evidence.stored

theorem CandidatesHold.begun (holds : CandidatesHold world state) (data : Strategy) :
    CandidatesHold world { state with
      files := state.files.apply
        (.candidate (stagedId world data) (some (world.serializeJson data)))
      staged := Function.update state.staged (stagedId world data) (some data) } where
  bytes := by
    intro other text held
    by_cases same : other = stagedId world data
    · subst same
      simp only [CandidateFiles.apply, Function.update_self, Option.some.injEq] at held
      exact ⟨data, by simp, held.symm, rfl⟩
    · simp only [CandidateFiles.apply, Function.update_of_ne same] at held ⊢
      exact holds.bytes other text held
  since := holds.since
  evidence := by
    intro other record run held recorded
    obtain ⟨artifact, evidence⟩ := holds.evidence other record run held recorded
    exact ⟨artifact, evidence.stored, evidence.digest, evidence.candidate,
      evidence.classification⟩

/-- A staging that gets to its record starts with no evidence and no verification. -/
theorem CandidatesHold.staged (holds : CandidatesHold world state) (data : Strategy) :
    CandidatesHold world {
      files := (stageStrategyCandidate world state.files data).foldl CandidateFiles.apply
        state.files
      staged := Function.update state.staged (stagedId world data) (some data)
      activeAt := Function.update state.activeAt (stagedId world data)
        (some state.files.active) } where
  bytes := (holds.begun data).bytes
  since := by
    intro other record held
    by_cases same : other = stagedId world data
    · subst same
      simp only [stageStrategyCandidate, List.foldl_cons, List.foldl_nil, CandidateFiles.apply,
        Function.update_self, Option.some.injEq] at held
      subst held
      exact ⟨rfl, state.files.active, by simp, rfl⟩
    · simp only [stageStrategyCandidate, List.foldl_cons, List.foldl_nil, CandidateFiles.apply,
        Function.update_of_ne same] at held ⊢
      exact holds.since other record held
  evidence := by
    intro other record run held recorded
    by_cases same : other = stagedId world data
    · subst same
      simp only [stageStrategyCandidate, List.foldl_cons, List.foldl_nil, CandidateFiles.apply,
        Function.update_self, Option.some.injEq] at held
      subst held
      cases recorded
    · simp only [stageStrategyCandidate, List.foldl_cons, List.foldl_nil, CandidateFiles.apply,
        Function.update_of_ne same] at held
      obtain ⟨artifact, evidence⟩ := holds.evidence other record run held recorded
      refine ⟨artifact, ?_, evidence.digest, evidence.candidate, evidence.classification⟩
      simp only [stageStrategyCandidate, List.foldl_cons, List.foldl_nil, CandidateFiles.apply,
        Function.update_of_ne same]
      exact evidence.stored

theorem CandidatesHold.removed (holds : CandidatesHold world state) {files : CandidateFiles}
    (candidates : ∀ id, files.candidate id = none ∨ files.candidate id = state.files.candidate id)
    (records : ∀ id, files.sidecar id = none ∨
      files.sidecar id = state.files.sidecar id ∧ files.evidence id = state.files.evidence id) :
    CandidatesHold world { state with files } where
  bytes := by
    intro id text held
    rcases candidates id with gone | kept
    · rw [gone] at held
      cases held
    · exact holds.bytes id text (kept ▸ held)
  since := by
    intro id record held
    rcases records id with gone | kept
    · rw [gone] at held
      cases held
    · exact holds.since id record (kept.1 ▸ held)
  evidence := by
    intro id record run held recorded
    rcases records id with gone | kept
    · rw [gone] at held
      cases held
    · obtain ⟨artifact, evidence⟩ := holds.evidence id record run (kept.1 ▸ held) recorded
      exact ⟨artifact, kept.2.trans evidence.stored, evidence.digest, evidence.candidate,
        evidence.classification⟩

theorem foldl_active (changes : List (StrategyTier × Option Units)) :
    ∀ (files : CandidateFiles) (count : Nat),
      ((changes.map fun change => CandidateFileOp.active change.1 change.2).take count).foldl
        CandidateFiles.apply files =
        { files with active := (((changes.map fun change =>
          CandidateFileOp.active change.1 change.2).take count).foldl
            CandidateFiles.apply files).active } := by
  induction changes with
  | nil => intro files count; simp
  | cons change rest ih =>
    intro files count
    cases count with
    | zero => rfl
    | succ count =>
      simp only [List.map_cons, List.take_succ_cons, List.foldl_cons]
      rw [ih]
      rfl

theorem take_single {α : Type} (item : α) (count : Nat) :
    [item].take count = [] ∨ [item].take count = [item] := by
  cases count with
  | zero => exact Or.inl rfl
  | succ count => exact Or.inr (by simp)

/-- Every event that tears nothing apart keeps what holds of candidates. -/
theorem candidatesHold_next (holds : CandidatesHold world state) (event : CandidateEvent)
    (together : KeepsTogether state event) :
    CandidatesHold world (candidateNext world state event) := by
  obtain ⟨operation, done⟩ := event
  cases operation with
  | stage data =>
    simp only [KeepsTogether] at together
    rcases together with early | late
    · cases done with
      | zero => simpa [candidateNext, filesAfter] using holds
      | succ more =>
        obtain rfl : more = 0 := by omega
        simpa [candidateNext, filesAfter, fileOpsOf, stageStrategyCandidate] using holds.begun data
    · have whole : (stageStrategyCandidate world state.files data).take done =
          stageStrategyCandidate world state.files data := List.take_of_length_le late
      have started : 1 ≤ done := by omega
      simpa [candidateNext, filesAfter, fileOpsOf, whole, late, started] using holds.staged data
  | verify id patch =>
    cases writes : writeStrategyCandidateVerification world state.files id patch with
    | error problem =>
      simpa [candidateNext, filesAfter, fileOpsOf, writes, Except.toOption] using holds
    | ok ops =>
      obtain ⟨candidate, digest, sidecar, loaded, rfl⟩ := writeVerification_writes writes
      simp only [candidateNext, filesAfter, fileOpsOf, writes, Except.toOption, Option.getD_some]
      rcases take_single (CandidateFileOp.sidecar id (some { sidecar with
        verification := some ((sidecar.verification.getD .empty).patched patch) })) done with
        nothing | all
      · rw [nothing]
        exact holds
      · rw [all]
        refine holds.rewritten loaded.beside rfl rfl ?_
        have kept : patch.candidateVerification = none := together
        cases sidecar.verification with
        | none => simp [RuntimeMeta.patched, RuntimeMeta.empty, kept]
        | some own => simp [RuntimeMeta.patched, kept]
  | evidence id patch verification input =>
    obtain ⟨classified, both⟩ := together
    cases writes : writeStrategyCandidateExecutionEvidence world state.files id patch verification
        input with
    | error problem =>
      simpa [candidateNext, filesAfter, fileOpsOf, writes, Except.toOption] using holds
    | ok ops =>
      obtain ⟨candidate, digest, sidecar, written, loaded, ran, rfl⟩ := writeEvidence_writes writes
      simp only [candidateNext, filesAfter, fileOpsOf, writes, Except.toOption, Option.getD_some]
      rcases both with nothing | all
      · have none_done : done = 0 := nothing
        rw [none_done]
        exact holds
      · rw [List.take_of_length_le (by exact all)]
        have own : (buildEvidenceArtifact world id digest input).candidateDigest = id.digest :=
          loaded.digest
        exact holds.measured loaded.beside { sidecar with verification := some written }
          (buildEvidenceArtifact world id digest input) rfl rfl ran rfl own classified.symm
  | review id evidenceDigest verdict rationale nowMs =>
    cases writes : recordStrategyCandidateSemanticReview world state.files id evidenceDigest verdict
        rationale nowMs with
    | error problem =>
      simpa [candidateNext, filesAfter, fileOpsOf, writes, Except.toOption] using holds
    | ok ops =>
      obtain ⟨candidate, digest, sidecar, written, loaded, same, rfl⟩ := recordReview_writes writes
      simp only [candidateNext, filesAfter, fileOpsOf, writes, Except.toOption, Option.getD_some]
      rcases take_single (CandidateFileOp.sidecar id (some { sidecar with
        verification := some written })) done with nothing | all
      · rw [nothing]
        exact holds
      · rw [all]
        refine holds.rewritten loaded.beside rfl rfl ?_
        cases recorded : sidecar.verification with
        | none => simpa [recorded, RuntimeMeta.empty] using same
        | some own => simpa [recorded] using same
  | promote id =>
    cases promotes : promoteStrategyCandidate world state.files id with
    | error problem =>
      simpa [candidateNext, filesAfter, fileOpsOf, promotes, Except.toOption] using holds
    | ok ops =>
      obtain ⟨candidate, digest, sidecar, verification, proof, -, -, -, -, -, -, rfl⟩ :=
        promoteStrategyCandidate_due promotes
      simp only [candidateNext, filesAfter, fileOpsOf, promotes, Except.toOption,
        Option.getD_some]
      have updated : ∀ {β : Type} (old : CandidateId → Option β) (other : CandidateId),
          Function.update old id none other = none ∨
            Function.update old id none other = old other := by
        intro β old other
        by_cases same : other = id
        · simp [same]
        · simp [same]
      rcases together with nothing | more
      · have none_done : done = 0 := nothing
        rw [none_done]
        exact holds
      · -- The candidate is gone from here on, with or without its record and its evidence.
        match done, more with
        | 2, _ =>
          exact holds.removed (fun other => updated _ other) fun other => Or.inr ⟨rfl, rfl⟩
        | 3, _ =>
          exact holds.removed (fun other => updated _ other) fun other =>
            (updated state.files.sidecar other).imp_right fun kept => ⟨kept, rfl⟩
        | more + 4, _ =>
          rw [List.take_of_length_le (by simp)]
          refine holds.removed (fun other => updated _ other) fun other => ?_
          by_cases same : other = id
          · exact Or.inl (by simp [CandidateFiles.apply, same])
          · exact Or.inr (by simp [CandidateFiles.apply, same])
  | mutate changes =>
    simp only [candidateNext, filesAfter, fileOpsOf]
    rw [foldl_active]
    exact holds.removed (fun _ => Or.inr rfl) fun _ => Or.inr ⟨rfl, rfl⟩

/-- A promotion that writes its candidate was due by what was staged, run and reviewed. -/
theorem promotedFrom_due (holds : CandidatesHold world state) {id : CandidateId} {done : Nat}
    (more : 2 ≤ done) {ops : List CandidateFileOp}
    (promotes : promoteStrategyCandidate world state.files id = .ok ops) :
    ∃ data candidate verification run artifact proof activeThen,
      PromotedFrom world state (candidateNext world state ⟨.promote id, done⟩) id data candidate
        verification run artifact proof activeThen := by
  obtain ⟨candidate, digest, sidecar, verification, proof, loaded, recorded, proven, current,
    succeeded, same, rfl⟩ := promoteStrategyCandidate_due promotes
  obtain ⟨text, stored, hashed, parsed⟩ := loaded.bytes
  obtain ⟨data, staged, rfl, named⟩ := holds.bytes id text stored
  obtain ⟨agrees, activeThen, since, baseline⟩ := holds.since id sidecar loaded.beside
  -- Either way to succeed says that a run was recorded, and its evidence is on disk.
  have passed : verification.postSaveValidation = some .passed ∧
      ∃ run, verification.candidateVerification = some run := by
    rcases succeeded with explicit | reviewed
    · simp only [explicitlySuccessful, Bool.and_eq_true, beq_iff_eq, Option.any_eq_true] at explicit
      obtain ⟨done, run, ran, -⟩ := explicit
      exact ⟨done, run, ran⟩
    · have review := reviewed.1
      simp only [reviewedSuccessfully, Bool.and_eq_true, beq_iff_eq] at review
      cases ran : verification.candidateVerification with
      | none => simp [ran] at review
      | some run => exact ⟨review.1, run, rfl⟩
  obtain ⟨valid, run, ran⟩ := passed
  have bound : sidecar.verification.bind RuntimeMeta.candidateVerification = some run := by
    rw [recorded]
    exact ran
  obtain ⟨artifact, evidence⟩ := holds.evidence id sidecar run loaded.beside bound
  have success : run.classification = .explicitSuccess ∨
      run.classification = .transportAccepted ∧ ∃ review,
        verification.semanticReview = some review ∧ review.verdict = .verifiedSuccess ∧
          review.candidateId = id ∧
            review.evidenceDigest = world.sha256 (world.serializeEvidence artifact) := by
    rcases succeeded with explicit | reviewed
    · simp only [explicitlySuccessful, ran, Option.any_some, Bool.and_eq_true, beq_iff_eq]
        at explicit
      exact Or.inl explicit.2
    · have review := reviewed.1
      simp only [reviewedSuccessfully, ran, Bool.and_eq_true] at review
      cases judged : verification.semanticReview with
      | none => simp [judged] at review
      | some review' =>
        simp only [judged, Bool.and_eq_true, beq_iff_eq] at review
        obtain ⟨-, ⟨⟨accepted, verdict⟩, own⟩, digest⟩ := review
        rw [evidence.digest] at digest
        exact Or.inr ⟨accepted, review', rfl, verdict, own, Option.some.inj digest⟩
  have after : (candidateNext world state ⟨.promote id, done⟩).files.active =
      Function.update state.files.active candidate.strategy
        (some (world.serializeJson (promotedStrategy candidate (some verification)))) ∧
      (candidateNext world state ⟨.promote id, done⟩).files.candidate id = none := by
    simp only [candidateNext, filesAfter, fileOpsOf, promotes, Except.toOption, Option.getD_some]
    match done, more with
    | 2, _ => simp [CandidateFiles.apply]
    | 3, _ => simp [CandidateFiles.apply]
    | rest + 4, _ => simp [CandidateFiles.apply]
  have kept : activeStrategyBaseline world activeThen =
      activeStrategyBaseline world state.files.active := baseline.symm.trans same
  exact ⟨data, candidate, verification, run, artifact, proof, activeThen, {
    staged, bytes := stored, named, parsed
    recorded := ⟨sidecar, loaded.beside, agrees, recorded⟩
    proven := ⟨proven, current⟩
    ran, evidence, passed := valid, success, since, baseline := kept
    unchanged := fun digests texts => activeStrategyBaseline_injective digests texts kept
    active := after.1, removed := after.2 }⟩

/-- Every event does to the active strategies what it may, and leaves what can be retried. -/
theorem promotionSound_next (holds : CandidatesHold world state) (event : CandidateEvent)
    (together : KeepsTogether state event) :
    PromotionSound world state event (candidateNext world state event) := by
  obtain ⟨operation, done⟩ := event
  cases operation with
  | stage data =>
    simp only [PromotionSound, candidateNext, filesAfter, fileOpsOf, stageStrategyCandidate]
    match done with
    | 0 | 1 | 2 => rfl
    | more + 3 => simp [CandidateFiles.apply]
  | verify id patch =>
    cases writes : writeStrategyCandidateVerification world state.files id patch with
    | error problem =>
      simp [PromotionSound, candidateNext, filesAfter, fileOpsOf, writes, Except.toOption]
    | ok ops =>
      obtain ⟨candidate, digest, sidecar, -, rfl⟩ := writeVerification_writes writes
      cases done <;>
        simp [PromotionSound, candidateNext, filesAfter, fileOpsOf, writes, Except.toOption,
          CandidateFiles.apply]
  | evidence id patch verification input =>
    cases writes : writeStrategyCandidateExecutionEvidence world state.files id patch verification
        input with
    | error problem =>
      simp [PromotionSound, candidateNext, filesAfter, fileOpsOf, writes, Except.toOption]
    | ok ops =>
      obtain ⟨candidate, digest, sidecar, written, -, -, rfl⟩ := writeEvidence_writes writes
      match done with
      | 0 | 1 =>
        simp [PromotionSound, candidateNext, filesAfter, fileOpsOf, writes, Except.toOption,
          CandidateFiles.apply]
      | more + 2 =>
        simp [PromotionSound, candidateNext, filesAfter, fileOpsOf, writes, Except.toOption,
          CandidateFiles.apply]
  | review id evidenceDigest verdict rationale nowMs =>
    cases writes : recordStrategyCandidateSemanticReview world state.files id evidenceDigest verdict
        rationale nowMs with
    | error problem =>
      simp [PromotionSound, candidateNext, filesAfter, fileOpsOf, writes, Except.toOption]
    | ok ops =>
      obtain ⟨candidate, digest, sidecar, written, -, -, rfl⟩ := recordReview_writes writes
      cases done <;>
        simp [PromotionSound, candidateNext, filesAfter, fileOpsOf, writes, Except.toOption,
          CandidateFiles.apply]
  | promote id =>
    cases promotes : promoteStrategyCandidate world state.files id with
    | error problem =>
      refine Or.inl ?_
      simp [candidateNext, filesAfter, fileOpsOf, promotes, Except.toOption]
    | ok ops =>
      rcases together with nothing | more
      · have none_done : done = 0 := nothing
        rw [none_done]
        exact Or.inl ⟨rfl, rfl⟩
      · exact Or.inr (promotedFrom_due holds more promotes)
  | mutate changes => trivial

end Steps

/-- In every run in which no crash tears a candidate's evidence from its record or a promotion
from the removal of its candidate, every promotion is a verified compare-and-swap. -/
theorem candidatePromotion_verified {world : CandidateWorld} {state : CandidateState}
    (reached : (candidateMachine world).Reaches KeepsTogether state) (event : CandidateEvent)
    (together : KeepsTogether state event) :
    PromotionSound world state event (candidateNext world state event) := by
  have starts : ∀ first, (candidateMachine world).starts first → CandidatesHold world first := by
    intro first none_there
    refine ⟨?_, ?_, ?_⟩
    · intro id text held
      rw [(none_there id).1] at held
      cases held
    · intro id record held
      rw [(none_there id).2] at held
      cases held
    · intro id record run held
      rw [(none_there id).2] at held
      cases held
  have steps : ∀ before event after, KeepsTogether before event →
      (candidateMachine world).step before event after → CandidatesHold world before →
        CandidatesHold world after := by
    intro before event after together step holds
    obtain rfl : after = candidateNext world before event := step
    exact candidatesHold_next holds event together
  exact promotionSound_next (reached.invariant starts steps) event together

/-- The hexadecimal digest of a text in UTF-8. -/
def hexDigestOf (text : Units) : Units :=
  (sha256Digest (encodeUtf8 text)).text.map UInt8.toUInt16

/-- The JSON text of the digests of active strategies. -/
def activeDigestsText (digests : List (StrategyTier × Units)) : Units :=
  let name : StrategyTier → Units
    | .fetch => ascii "fetch"
    | .pageScript => ascii "page-script"
    | .recordedPath => ascii "recorded-path"
  jsonStringify (.array (digests.map fun entry =>
    .object [(ascii "tier", .string (name entry.1)), (ascii "sha256", .string entry.2)]))

/-- Lines with an end of line between neighbours. -/
def linesText : List Units → Units
  | [] => []
  | [only] => only
  | first :: second :: rest => first ++ 10 :: linesText (second :: rest)

/-- The text of a strategy with nothing but its tier and what its verification stamped on it. -/
def plainStrategyText (strategy : Strategy) : Units :=
  match strategy.runtimeMeta with
  | none => linesText [ascii "\x7b", ascii "  \"strategy\": \"fetch\"", ascii "\x7d"]
  | some stamps =>
    let proof := ((stamps.postSaveVerification.map fun proof => proof.strategyDigest).getD [])
    let digest := (stamps.candidateVerification.bind fun run => run.evidenceDigest).getD []
    linesText [ascii "\x7b", ascii "  \"strategy\": \"fetch\",", ascii "  \"runtime_meta\": \x7b",
      ascii "    \"post_save_validation\": \"passed\",",
      ascii "    \"post_save_verification\": \x7b", ascii "      \"schema_version\": 1,",
      ascii "      \"platform\": \"example\",", ascii "      \"capability\": \"list_items\",",
      ascii "      \"tier\": \"fetch\",", ascii "      \"strategy_digest\": \"" ++ proof ++ ascii "\",",
      ascii "      \"runtime_build_id\": \"" ++ List.replicate 64 48 ++ ascii "\",",
      ascii "      \"verifier_contract\": \"post-save-verification-v1\"", ascii "    \x7d,",
      ascii "    \"candidate_verification\": \x7b",
      ascii "      \"classification\": \"explicit_success\",", ascii "      \"status\": 200,",
      ascii "      \"checked_at_ms\": 1000,",
      ascii "      \"evidence_digest\": \"" ++ digest ++ ascii "\",",
      ascii "      \"evidence_reviewable\": true", ascii "    \x7d", ascii "  \x7d", ascii "\x7d"]

/-- The text of the evidence of a run that answered that it is all right. -/
def plainEvidenceText (artifact : StrategyCandidateEvidenceV1) : Units :=
  linesText [ascii "\x7b", ascii "  \"schema_version\": 1,",
    ascii "  \"candidate_id\": \"fetch-" ++ artifact.candidateDigest ++ ascii "\",",
    ascii "  \"candidate_digest\": \"" ++ artifact.candidateDigest ++ ascii "\",",
    ascii "  \"classification\": \"explicit_success\",", ascii "  \"status\": 200,",
    ascii "  \"checked_at_ms\": 1000,", ascii "  \"body_kind\": \"json\",",
    ascii "  \"body_sha256\": \"" ++ artifact.bodySha256 ++ ascii "\",",
    ascii "  \"body_total_chars\": 11,", ascii "  \"reviewable\": true,",
    ascii "  \"body_text\": \"\x7b\\\"ok\\\":true\x7d\"", ascii "\x7d"]

/-- A strategy with nothing but its tier. -/
def plainStrategy : Strategy := { strategy := .fetch, runtimeMeta := none, members := [] }

/-- Functions that act as the language's do on what follows. -/
def plainWorld : CandidateWorld where
  platform := ascii "example"
  capability := ascii "list_items"
  sha256 := hexDigestOf
  serializeJson := plainStrategyText
  parseJson := fun text =>
    if text = plainStrategyText plainStrategy then some plainStrategy else none
  serializeEvidence := plainEvidenceText
  describeActive := activeDigestsText
  postSaveStrategyDigest := fun _ => hexDigestOf (ascii "\x7b\"strategy\":\"fetch\"\x7d")

/-- The candidate that the strategy is staged as. -/
def plainId : CandidateId := stagedId plainWorld plainStrategy

/-- A verification run of the candidate that ended in explicit success. -/
def plainRun : CandidateOperation :=
  .evidence plainId
    { RuntimeMeta.empty with
      postSaveValidation := some .passed
      postSaveVerification := some {
        platform := ascii "example", capability := ascii "list_items", tier := .fetch,
        strategyDigest := plainWorld.postSaveStrategyDigest plainStrategy,
        runtimeBuildId := List.replicate 64 48, verifierContract := POST_SAVE_VERIFIER_CONTRACT } }
    { classification := .explicitSuccess, status := 200, checkedAtMs := 1000,
      evidenceDigest := none, evidenceReviewable := none }
    { classification := .explicitSuccess, status := 200, checkedAtMs := 1000,
      body := .value (.object [(ascii "ok", .boolean true)]), finalUrl := none }

/-- The state of a capability without files. -/
def noCandidates : CandidateState where
  files := { active := fun _ => none, candidate := fun _ => none, sidecar := fun _ => none,
             evidence := fun _ => none }
  staged := fun _ => none
  activeAt := fun _ => none

/-- The state after events on a capability without files. -/
def plainAfter (events : List CandidateEvent) : CandidateState :=
  events.foldl (candidateNext plainWorld) noCandidates

theorem plainAfter_reached {allowed : CandidateState → CandidateEvent → Prop}
    (events : List CandidateEvent)
    (allows : ∀ state, ∀ event ∈ events, allowed state event) :
    (candidateMachine plainWorld).Reaches allowed (plainAfter events) := by
  have general : ∀ (rest : List CandidateEvent) (state : CandidateState),
      (∀ state, ∀ event ∈ rest, allowed state event) →
        (candidateMachine plainWorld).Reaches allowed state →
          (candidateMachine plainWorld).Reaches allowed
            (rest.foldl (candidateNext plainWorld) state) := by
    intro rest
    induction rest with
    | nil => intro state _ reached; exact reached
    | cons event others ih =>
      intro state allows reached
      have first := allows state event List.mem_cons_self
      have step : (candidateMachine plainWorld).step state event
          (candidateNext plainWorld state event) := rfl
      exact ih _ (fun state other member => allows state other (List.mem_cons_of_mem _ member))
        (.next reached first step)
  exact general events noCandidates allows (.start fun _ => ⟨rfl, rfl⟩)

/-- A candidate that was staged and verified is promoted, and the promotion is verified. -/
theorem candidatePromotion_verified_plain :
    PromotionSound plainWorld (plainAfter [⟨.stage plainStrategy, 3⟩, ⟨plainRun, 2⟩])
      ⟨.promote plainId, 4⟩
      (candidateNext plainWorld (plainAfter [⟨.stage plainStrategy, 3⟩, ⟨plainRun, 2⟩])
        ⟨.promote plainId, 4⟩) ∧
    (((candidateNext plainWorld (plainAfter [⟨.stage plainStrategy, 3⟩, ⟨plainRun, 2⟩])
      ⟨.promote plainId, 4⟩).files.active .fetch).isSome = true) := by
  have reached : (candidateMachine plainWorld).Reaches KeepsTogether
      (plainAfter [⟨.stage plainStrategy, 3⟩, ⟨plainRun, 2⟩]) := plainAfter_reached
    [⟨.stage plainStrategy, 3⟩, ⟨plainRun, 2⟩] (by
      intro state event member
      simp only [List.mem_cons, List.not_mem_nil, or_false] at member
      rcases member with rfl | rfl
      · exact Or.inr (by decide)
      · exact ⟨rfl, Or.inr (by decide)⟩)
  exact ⟨candidatePromotion_verified reached ⟨.promote plainId, 4⟩ (Or.inr (by decide)),
    by decide +kernel⟩

/-- A staging that crashes before its record leaves a verified record without its evidence, and
the promotion of the candidate goes through all the same. -/
theorem candidatePromotion_unproven :
    (candidateMachine plainWorld).Reaches (fun _ _ => True)
      (plainAfter [⟨.stage plainStrategy, 3⟩, ⟨plainRun, 2⟩, ⟨.stage plainStrategy, 2⟩]) ∧
    ¬ PromotionSound plainWorld
      (plainAfter [⟨.stage plainStrategy, 3⟩, ⟨plainRun, 2⟩, ⟨.stage plainStrategy, 2⟩])
      ⟨.promote plainId, 4⟩
      (candidateNext plainWorld
        (plainAfter [⟨.stage plainStrategy, 3⟩, ⟨plainRun, 2⟩, ⟨.stage plainStrategy, 2⟩])
        ⟨.promote plainId, 4⟩) := by
  refine ⟨plainAfter_reached _ fun _ _ _ => trivial, ?_⟩
  have written : ((candidateNext plainWorld
      (plainAfter [⟨.stage plainStrategy, 3⟩, ⟨plainRun, 2⟩, ⟨.stage plainStrategy, 2⟩])
      ⟨.promote plainId, 4⟩).files.active .fetch).isSome = true := by
    decide +kernel
  have inactive : ((plainAfter [⟨.stage plainStrategy, 3⟩, ⟨plainRun, 2⟩,
      ⟨.stage plainStrategy, 2⟩]).files.active .fetch).isSome = false := by
    decide +kernel
  have missing : ((plainAfter [⟨.stage plainStrategy, 3⟩, ⟨plainRun, 2⟩,
      ⟨.stage plainStrategy, 2⟩]).files.evidence plainId).isSome = false := by
    decide +kernel
  intro sound
  rcases sound with unchanged | promoted
  · rw [unchanged.1, inactive] at written
    cases written
  · obtain ⟨data, candidate, verification, run, artifact, proof, activeThen, due⟩ := promoted
    rw [due.evidence.stored] at missing
    cases missing

end Klura
