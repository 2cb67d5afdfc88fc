import Klura.Contracts.JsonText
import Klura.Invariants.RunOperations
import Klura.Invariants.StoredMetadata

/-! What is read back of the metadata of a run and of the tasks in its spool. -/

namespace Klura

open StrictJson

namespace RunFiles

theorem one_written : (JsValue.number (.ofNat 1 one_small)).isNat 1 = true ∧
    StrictJson.canonicalBytes (.number (.ofNat 1 one_small)) = 1 := by
  decide +kernel

/-- The levels that the parsed members of metadata take. -/
def metaLevels (key : String) : Nat := if key = "canonical_input" then READER_DEPTH else 4

/-- The input among the members of metadata. -/
def inputOf : JsValue → JsValue
  | .object fields => memberOf fields "canonical_input"
  | _ => .null

/-- The id among the members of metadata. -/
def runIdOf : JsValue → Units
  | .object fields => textOf (memberOf fields "run_id")
  | _ => []

theorem metaSteps_sound (fields : Fields) :
    ∀ step ∈ metaSteps ++ sessionSteps fields, step.Sound metaLevels := by
  have members : ∀ step ∈ metaSteps, step.Sound metaLevels := by
    unfold metaSteps
    simp only [List.forall_mem_cons, List.not_mem_nil, false_implies, implies_true, and_true]
    exact ⟨own_sound one_faithful (Nat.zero_le _), own_sound input_faithful (by decide),
      own_sound (match_faithful _ _) (Nat.zero_le _), own_sound (match_faithful _ _) (Nat.zero_le _),
      own_sound artifact_faithful (by decide), own_sound (form_faithful _ _ _) (Nat.zero_le _),
      own_sound bounds_faithful (by decide), own_sound output_faithful (by decide),
      own_sound instant_faithful (Nat.zero_le _)⟩
  intro step member
  rcases List.mem_append.mp member with needed | optional
  · exact members step needed
  · unfold sessionSteps at optional
    split at optional
    · rw [List.mem_singleton.mp optional]
      exact own_sound session_faithful (by decide)
    · cases optional

variable {value : JsValue} {field : Units}

variable {result : JsValue}

/-- The steps rebuild the keys that metadata has. -/
theorem metaSteps_keys {fields : Fields} (differ : (JsValue.object fields).KeysDiffer)
    (known : ∀ entry ∈ fields, entry.1 ∈ requiredKeys ++ [ascii "session"])
    (present : ∀ key ∈ requiredKeys, key ∈ fields.map Prod.fst) :
    (stepKeys (metaSteps ++ sessionSteps fields)).Perm (fields.map Prod.fst) := by
  have distinct := ((JsValue.keysDiffer_object fields).mp differ).1
  by_cases session : ascii "session" ∈ fields.map Prod.fst
  · have steps : sessionSteps fields = [.own "session" parseRunSessionReference] :=
      if_pos (OrderedMap.get?_isSome_iff.mpr session)
    rw [steps]
    refine (List.perm_ext_iff_of_nodup (by decide) distinct).mpr fun key => ?_
    have keys : key ∈ stepKeys (metaSteps ++ [.own "session" parseRunSessionReference]) ↔
        key ∈ requiredKeys ++ [ascii "session"] := by
      have perm : (stepKeys (metaSteps ++ [.own "session" parseRunSessionReference])).Perm
          (requiredKeys ++ [ascii "session"]) := by decide
      exact perm.mem_iff
    rw [keys]
    constructor
    · intro wanted
      rcases List.mem_append.mp wanted with needed | last
      · exact present key needed
      · rw [List.mem_singleton.mp last]
        exact session
    · intro inside
      obtain ⟨entry, member, rfl⟩ := List.mem_map.mp inside
      exact known entry member
  · have steps : sessionSteps fields = [] :=
      if_neg fun there => session (OrderedMap.get?_isSome_iff.mp there)
    rw [steps]
    refine (List.perm_ext_iff_of_nodup (by decide) distinct).mpr fun key => ?_
    have keys : key ∈ stepKeys (metaSteps ++ []) ↔ key ∈ requiredKeys := by
      have perm : (stepKeys (metaSteps ++ [])).Perm requiredKeys := by decide
      exact perm.mem_iff
    rw [keys]
    constructor
    · exact present key
    · intro inside
      obtain ⟨entry, member, rfl⟩ := List.mem_map.mp inside
      rcases List.mem_append.mp (known entry member) with needed | last
      · exact needed
      · exact absurd (List.mem_singleton.mp last ▸ inside) session

theorem runMeta_faithful : Faithful parseRunMeta (READER_DEPTH + 1) where
  rebuilds value field result differ parsed := by
    obtain ⟨fields, members, rfl, -, known, present, ran, rfl⟩ := parseRunMeta_ok.mp parsed
    apply runSteps_same (metaSteps_sound fields) differ (metaSteps_keys differ known present) ran
    intro key
    unfold metaLevels
    split <;> decide
  again value field result other where_ differ parsed same := by
    obtain ⟨fields, members, rfl, few, known, present, ran, rfl⟩ := parseRunMeta_ok.mp parsed
    obtain ⟨others, rfl, matching⟩ := SameFields.of_same same differ
    obtain ⟨rebuilt, runs⟩ := runSteps_again (metaSteps_sound fields) differ matching ran where_
    have session : sessionSteps others = sessionSteps fields := by
      have there : (member others (ascii "session")).isSome =
          (member fields (ascii "session")).isSome := by
        rw [Bool.eq_iff_iff]
        exact OrderedMap.get?_isSome_iff.trans
          (matching.keys.mem_iff.trans OrderedMap.get?_isSome_iff.symm)
      unfold sessionSteps
      rw [there]
    refine ⟨.object rebuilt, parseRunMeta_ok.mpr ⟨others, rebuilt, rfl, ?_, ?_, ?_, ?_, rfl⟩⟩
    · have length : others.length = fields.length := by simpa using matching.keys.length_eq
      omega
    · intro entry inside
      obtain ⟨own, there, named⟩ :=
        List.mem_map.mp (matching.keys.subset (List.mem_map_of_mem inside))
      rw [← named]
      exact known own there
    · exact fun key wanted => matching.keys.symm.subset (present key wanted)
    · rw [session]
      exact runs

theorem payload_depth (differ : value.KeysDiffer) (parsed : parseRunMeta value field = .ok result)
    {levels : Nat} (least : 4 ≤ levels) :
    result.depth ≤ levels + 1 ↔ (inputOf value).depth ≤ levels := by
  obtain ⟨fields, members, rfl, -, known, present, ran, rfl⟩ := parseRunMeta_ok.mp parsed
  obtain ⟨rebuilt, values⟩ := runSteps_rebuilds (metaSteps_sound fields) differ ran
  rw [JsValue.depth_object, inputOf]
  constructor
  · intro shallow
    have inside : ascii "canonical_input" ∈ members.map Prod.fst := by
      rw [rebuilt]
      refine (metaSteps_keys differ known present).symm.subset (present _ ?_)
      decide
    obtain ⟨entry, member, named⟩ := List.mem_map.mp inside
    obtain ⟨key, keyed, same, -, -⟩ := values entry member
    have one : memberOf fields key = memberOf fields "canonical_input" := by
      rw [memberOf, memberOf, ← keyed, named]
    rw [← one]
    exact JsValue.Same.depth_le same.symm (Nat.le_of_lt_succ (shallow entry member))
  · intro shallow entry member
    obtain ⟨key, -, same, -, most⟩ := values entry member
    by_cases input : key = "canonical_input"
    · subst input
      exact Nat.lt_succ_of_le (same.depth_le shallow)
    · rw [metaLevels, if_neg input] at most
      omega

theorem runId_same (differ : value.KeysDiffer) (parsed : parseRunMeta value field = .ok result) :
    runIdOf result = runIdOf value ∧ isTagged "run_v1_" 32 (runIdOf value) = true := by
  have rebuilt := runMeta_faithful.rebuilds value field result differ parsed
  obtain ⟨fields, members, rfl, -, -, -, ran, rfl⟩ := parseRunMeta_ok.mp parsed
  obtain ⟨others, same, matching⟩ := SameFields.of_same rebuilt.1 differ
  cases same
  refine ⟨textOf_same (matching.member "run_id"), ?_⟩
  -- The third step has read the id as a text of its form.
  obtain ⟨version, -, after⟩ := Klura.bind_ok.mp ran
  obtain ⟨later, ran, -⟩ := Klura.bind_ok.mp after
  obtain ⟨input, -, after⟩ := Klura.bind_ok.mp ran
  obtain ⟨later, ran, -⟩ := Klura.bind_ok.mp after
  obtain ⟨id, parsed, -⟩ := Klura.bind_ok.mp ran
  obtain ⟨text, formed, -⟩ := Klura.map_ok.mp parsed
  obtain ⟨given, shaped⟩ := parseMatch_ok formed
  rw [runIdOf, given]
  exact shaped

/-! What is written for a run, and what is read of it. -/

theorem canonicalBytes_same {left right : JsValue} (same : left.Same right) :
    StrictJson.canonicalBytes left = StrictJson.canonicalBytes right := by
  unfold StrictJson.canonicalBytes
  rw [← syntaxOf_normal left, ← syntaxOf_normal right, same]

theorem canonicalBytes_digest {digest : Units} (hex : isHexOf 64 digest = true) :
    StrictJson.canonicalBytes (.string digest) = 66 := by
  have plain : ∀ unit ∈ digest, writtenPlainly unit := by
    intro unit member
    have digit := List.all_eq_true.mp (Bool.and_eq_true_iff.mp hex).2 unit member
    have quotation : unit ≠ 34 := by
      rintro rfl
      exact absurd digit (by decide)
    have slash : unit ≠ 92 := by
      rintro rfl
      exact absurd digit (by decide)
    simp only [StrictJson.isLowerHex, isDigit, Bool.or_eq_true, decide_eq_true_eq] at digit
    exact ⟨by omega, by omega, quotation, slash⟩
  obtain ⟨small, length⟩ := isHexOf_small hex
  have quote : OneByteUnits [34] := by decide
  have whole : OneByteUnits (34 :: (digest ++ [34])) := .cons (by decide) (small.append quote)
  have written : StrictJson.canonicalBytes (.string digest) =
      utf8Length (StrictJson.stringText digest) := rfl
  rw [written, Klura.stringText_plain plain, utf8Length_ascii whole]
  simp [length]

theorem canonicalDigest_hex {digest : Units} (digested : canonicalDigest value = .ok digest) :
    isHexOf 64 digest = true := by
  obtain ⟨text, -, rfl⟩ := Klura.map_ok.mp digested
  exact textDigest_hex text

variable {envelope : RunMetaEnvelopeV1}

theorem envelope_bytes (hex : isHexOf 64 envelope.metaDigest = true) :
    StrictJson.canonicalBytes envelope.value = StrictJson.canonicalBytes envelope.payload + 126 := by
  have first : utf8Length (StrictJson.stringText (ascii "meta_envelope_schema_version")) = 30 := by
    decide
  have second : utf8Length (StrictJson.stringText (ascii "payload")) = 9 := by decide
  have third : utf8Length (StrictJson.stringText (ascii "meta_digest")) = 13 := by decide
  rw [RunMetaEnvelopeV1.value, StrictJson.canonicalBytes_object]
  simp only [List.map_cons, List.map_nil, List.sum_cons, List.sum_nil, List.length_cons,
    List.length_nil, StrictJson.entryBytes, first, second, third,
    one_written.2, canonicalBytes_digest hex]
  omega

theorem envelope_json {envelope : RunMetaEnvelopeV1} (json : envelope.payload.IsJson) :
    envelope.value.IsJson ∧
      ∀ levels, envelope.value.depth ≤ levels + 1 ↔ envelope.payload.depth ≤ levels := by
  unfold RunMetaEnvelopeV1.value
  constructor
  · rw [JsValue.isJson_object]
    refine ⟨show (keysOf ["meta_envelope_schema_version", "payload", "meta_digest"]).Nodup by decide, ?_⟩
    simp only [List.forall_mem_cons, List.not_mem_nil, false_implies, implies_true, and_true]
    exact ⟨trivial, json, trivial⟩
  · intro levels
    rw [JsValue.depth_object]
    simp only [List.forall_mem_cons, List.not_mem_nil, false_implies, implies_true, and_true]
    have flat : (JsValue.number (.ofNat 1 one_small)).depth = 0 ∧
        (JsValue.string envelope.metaDigest).depth = 0 := ⟨rfl, rfl⟩
    omega

variable {maximumBytes : Nat}

theorem parseFile_depth {read : JsValue} (json : value.IsJson) {maximumDepth : Nat}
    (reads : parseFile (storedBytes value) field maximumBytes maximumDepth = .ok read) :
    value.depth ≤ maximumDepth := by
  unfold parseFile storedBytes at reads
  rw [decodeUtf8_canonical] at reads
  exact parseStrictJson_depth json reads

variable {files : MetaFiles} {runMeta : JsValue} {write : FileWrite Units}

theorem create_ok (differ : runMeta.KeysDiffer)
    (created : create files runMeta = .ok (envelope, write)) :
    ∃ parsed, parseRunMeta runMeta (ascii "run.meta") = .ok parsed ∧
      parseRunMeta parsed (ascii "run.meta") = .ok envelope.payload ∧
      canonicalDigest envelope.payload = .ok envelope.metaDigest ∧
      write = .writeExclusive (runIdOf runMeta) (storedBytes envelope.value) := by
  obtain ⟨parsed, first, after⟩ := Klura.bind_ok.mp created
  obtain ⟨fields, members, -, -, -, -, -, rfl⟩ := parseRunMeta_ok.mp first
  dsimp only at after
  split at after
  · nomatch after
  obtain ⟨own, enveloped, after⟩ := Klura.bind_ok.mp after
  obtain ⟨text, rendered, result⟩ := Klura.bind_ok.mp after
  obtain ⟨payload, second, digesting⟩ := Klura.bind_ok.mp enveloped
  obtain ⟨digest, digested, same⟩ := Klura.bind_ok.mp digesting
  cases same
  cases result
  have firstSame := runMeta_faithful.rebuilds _ _ _ differ first
  have secondSame := runMeta_faithful.rebuilds _ _ _ firstSame.2.1.keysDiffer second
  refine ⟨_, first, second, digested, ?_⟩
  rw [canonicalJson_text (envelope_json secondSame.2.1).1 rendered, ← (runId_same differ first).1]
  rfl

theorem isNat_one (same : value.Same (.number (.ofNat 1 one_small))) :
    value.isNat 1 = true := by
  have one : parseOne (.number (.ofNat 1 one_small)) [] =
      .ok (.number (.ofNat 1 one_small)) := if_pos one_written.1
  have flat : (JsValue.number (.ofNat 1 one_small)).KeysDiffer := trivial
  obtain ⟨rebuilt, again⟩ := one_faithful.again _ [] _ value [] flat one same
  unfold parseOne at again
  split at again
  · assumption
  · nomatch again

/-- Metadata is read from what is the same as the value it was written as. -/
theorem parseRunMetaEnvelope_same {parsed : JsValue} {where_ : Units} (json : parsed.IsJson)
    (checked : parseRunMeta parsed field = .ok envelope.payload)
    (digested : canonicalDigest envelope.payload = .ok envelope.metaDigest)
    (same : value.Same envelope.value) : ∃ read, parseRunMetaEnvelope value where_ = .ok read ∧
      read.payload.Same envelope.payload ∧ read.metaDigest = envelope.metaDigest := by
  have rebuilt := runMeta_faithful.rebuilds _ _ _ json.keysDiffer checked
  have whole := envelope_json rebuilt.2.1
  obtain ⟨others, rfl, matching⟩ := SameFields.of_same same whole.1.keysDiffer
  have version := matching.member "meta_envelope_schema_version"
  have payload : (memberOf others "payload").Same envelope.payload := matching.member "payload"
  have digest : (memberOf others "meta_digest").Same (.string envelope.metaDigest) :=
    matching.member "meta_digest"
  -- What was written has exactly the keys, in some order.
  have own : parseExactRecord envelope.value where_ envelopeKeys = .ok
      [(ascii "meta_envelope_schema_version", .number (.ofNat 1 one_small)),
        (ascii "payload", envelope.payload), (ascii "meta_digest", .string envelope.metaDigest)] := by
    refine parseExactRecord_ok.mpr ?_
    have keys : envelopeKeys = [ascii "meta_envelope_schema_version", ascii "payload",
      ascii "meta_digest"] := rfl
    constructor
    · intro entry member
      rw [keys]
      simp only [List.mem_cons, List.not_mem_nil, or_false] at member ⊢
      rcases member with rfl | rfl | rfl
      · exact .inl rfl
      · exact .inr (.inl rfl)
      · exact .inr (.inr rfl)
    · intro key wanted
      refine OrderedMap.get?_isSome_iff.mpr ?_
      rw [keys] at wanted
      exact wanted
  obtain ⟨again, parses⟩ := runMeta_faithful.again _ _ _ _ (memberField where_ (ascii "payload"))
    json.keysDiffer checked (Eq.trans payload rebuilt.1)
  have differ : (memberOf others "payload").KeysDiffer := (payload.isJson rebuilt.2.1).keysDiffer
  have read := runMeta_faithful.rebuilds _ _ _ differ parses
  have alike : again.Same envelope.payload := Eq.trans read.1 payload
  have digests : canonicalDigest again = .ok envelope.metaDigest := by
    have shallow : READER_DEPTH + 1 ≤ 100 := by decide
    rw [← digested, canonicalDigest, canonicalDigest, canonicalJson_congr read.2.1 rebuilt.2.1
      (read.2.2.trans shallow) (rebuilt.2.2.trans shallow) alike]
  have hex := canonicalDigest_hex digested
  obtain ⟨small, length⟩ := isHexOf_small hex
  refine ⟨{ payload := again, metaDigest := envelope.metaDigest }, ?_, alike, rfl⟩
  refine Klura.bind_ok.mpr ⟨others, exactRecord_again matching own where_, ?_⟩
  rw [isNat_one version, digest.string]
  refine Klura.bind_ok.mpr ⟨again, parses, Klura.bind_ok.mpr ⟨envelope.metaDigest, ?_, ?_⟩⟩
  · refine parseForm_string hex ?_ small
    rw [utf8Length_ascii small, length]
  · exact Klura.bind_ok.mpr ⟨_, digests, if_neg fun differs => differs rfl⟩

/-- Metadata that was created is read back exactly when its input nests no deeper than ten levels and
it takes no more bytes than the reader accepts. -/
theorem read_created (differ : runMeta.KeysDiffer)
    (created : create files runMeta = .ok (envelope, write)) :
    (∃ envelope', read (write.apply files) (runIdOf runMeta) = .ok envelope' ∧
        envelope'.payload.Same envelope.payload ∧ envelope'.metaDigest = envelope.metaDigest) ↔
      (inputOf runMeta).depth ≤ 10 ∧
        StrictJson.canonicalBytes runMeta + 126 ≤ META_MAX_BYTES_V1 := by
  obtain ⟨parsed, first, second, digested, rfl⟩ := create_ok differ created
  have firstSame := runMeta_faithful.rebuilds _ _ _ differ first
  have secondSame := runMeta_faithful.rebuilds _ _ _ firstSame.2.1.keysDiffer second
  obtain ⟨json, depth⟩ := envelope_json secondSame.2.1
  have bytes := envelope_bytes (canonicalDigest_hex digested)
  have whole : envelope.payload.Same runMeta := Eq.trans secondSame.1 firstSame.1
  rw [canonicalBytes_same whole] at bytes
  have levels : envelope.value.depth ≤ READER_DEPTH ↔ (inputOf runMeta).depth ≤ 10 := by
    have outer := depth 11
    have input : parsed.depth ≤ 10 + 1 ↔ (inputOf runMeta).depth ≤ 10 :=
      payload_depth differ first (by decide)
    have rebuilt : envelope.payload.depth ≤ 11 ↔ parsed.depth ≤ 11 :=
      ⟨JsValue.Same.depth_le secondSame.1.symm, secondSame.1.depth_le⟩
    exact outer.trans (rebuilt.trans input)
  have opened : ∀ value, read ((FileWrite.writeExclusive (runIdOf runMeta)
      (storedBytes envelope.value)).apply files) (runIdOf runMeta) = .ok value ↔
        ∃ stored, parseFile (storedBytes envelope.value) (ascii "run.meta.json") META_MAX_BYTES_V1
          READER_DEPTH = .ok stored ∧
            parseRunMetaEnvelope stored (ascii "run.meta.json") = .ok value := by
    intro value
    have id := @parseMatch_string _ "must be a canonical run id" (ascii "run_id") _
      (runId_same differ first).2
    unfold read parseRunId
    rw [id, Klura.ok_bind]
    have there : (FileWrite.writeExclusive (runIdOf runMeta) (storedBytes envelope.value)).apply files
        (runIdOf runMeta) = some (storedBytes envelope.value) := Function.update_self _ _ _
    rw [there]
    exact Klura.bind_ok
  constructor
  · rintro ⟨envelope', reads, -, -⟩
    obtain ⟨stored, parses, -⟩ := (opened envelope').mp reads
    refine ⟨levels.mp (parseFile_depth json parses), ?_⟩
    rw [← bytes]
    exact parseFile_bounds parses
  · rintro ⟨shallow, small⟩
    rw [← bytes] at small
    obtain ⟨stored, parses, same⟩ := parseFile_stored json (levels.mpr shallow) small
      (ascii "run.meta.json")
    obtain ⟨envelope', read, rest⟩ := parseRunMetaEnvelope_same firstSame.2.1 second digested same
    exact ⟨envelope', (opened envelope').mpr ⟨stored, parses, read⟩, rest⟩

/-! What is appended to the spool, and what is read of it. -/

theorem appendDataBlob_ok {spool after : Bytes} {reference : SpoolRefV1} (json : value.IsJson)
    (appended : appendDataBlob spool value maximumBytes = .ok (reference, after)) :
    StrictJson.canonicalJson value = .ok (syntaxOf value).text ∧
      spool.length + (storedBytes value).length ≤ MAX_SAFE_INTEGER ∧
      reference = ⟨spool.length, (storedBytes value).length, sha256Digest (storedBytes value)⟩ ∧
      after = spool ++ storedBytes value := by
  unfold appendDataBlob at appended
  by_cases invalid : MAX_SAFE_INTEGER < maximumBytes
  · rw [if_pos invalid] at appended
    nomatch appended
  rw [if_neg invalid] at appended
  obtain ⟨text, rendered, appended⟩ := Klura.bind_ok.mp appended
  rw [Klura.mapError_ok] at rendered
  have own := canonicalJson_text json rendered
  subst own
  dsimp only at appended
  split_ifs at appended with exhausted
  · nomatch appended
  · rw [not_or] at exhausted
    cases appended
    refine ⟨rendered, ?_, rfl, rfl⟩
    have within := Nat.le_of_not_lt exhausted.2
    unfold storedBytes
    omega

/-- What was appended is read back exactly when it nests no deeper than the reader accepts. -/
theorem readDataBlob_appended {spool later after : Bytes} {value : JsValue} {maximumBytes : Nat}
    {reference : SpoolRefV1} (json : value.IsJson)
    (appended : appendDataBlob spool value maximumBytes = .ok (reference, after)) :
    (∃ read, readDataBlob (after ++ later) reference = .ok read ∧ read.Same value) ↔
      value.depth ≤ READER_DEPTH := by
  obtain ⟨rendered, within, rfl, rfl⟩ := appendDataBlob_ok json appended
  have slice : ((spool ++ storedBytes value ++ later).drop spool.length).take
      (storedBytes value).length = storedBytes value := by
    rw [List.append_assoc, List.drop_left, List.take_left]
  have sized : (storedBytes value).length = StrictJson.canonicalBytes value := encodeUtf8_length _
  have opened : ∀ read, readDataBlob (spool ++ storedBytes value ++ later)
      ⟨spool.length, (storedBytes value).length, sha256Digest (storedBytes value)⟩ = .ok read ↔
        parseFile (storedBytes value) (ascii "data_spool_blob") (storedBytes value).length
            READER_DEPTH = .ok read ∧
          ∃ text, StrictJson.canonicalJson read = .ok text ∧ encodeUtf8 text = storedBytes value := by
    intro read
    have placed : parseBlobRef ⟨spool.length, (storedBytes value).length,
        sha256Digest (storedBytes value)⟩ (ascii "blob_ref") = .ok () := by
      unfold parseBlobRef
      rw [if_neg (by dsimp only; omega), if_neg (by dsimp only; omega)]
    have inside : ¬ (spool ++ storedBytes value ++ later).length <
        spool.length + (storedBytes value).length := by
      rw [List.length_append, List.length_append]
      omega
    unfold readDataBlob
    dsimp only
    rw [placed, slice, if_neg inside, if_neg fun differs => differs rfl]
    constructor
    · intro reads
      obtain ⟨⟨⟩, -, reads⟩ := Klura.bind_ok.mp reads
      obtain ⟨value', parses, reads⟩ := Klura.bind_ok.mp reads
      obtain ⟨text, renders, reads⟩ := Klura.bind_ok.mp reads
      rw [Klura.mapError_ok] at parses renders
      split_ifs at reads with differs
      · nomatch reads
      · cases reads
        exact ⟨parses, text, renders, not_not.mp differs⟩
    · rintro ⟨parses, text, renders, same⟩
      refine Klura.bind_ok.mpr ⟨(), rfl, ?_⟩
      refine Klura.bind_ok.mpr ⟨read, Klura.mapError_ok.mpr parses, ?_⟩
      exact Klura.bind_ok.mpr ⟨text, Klura.mapError_ok.mpr renders, if_neg fun differs => differs same⟩
  constructor
  · rintro ⟨read, reads, -⟩
    exact parseFile_depth json ((opened read).mp reads).1
  · intro shallow
    obtain ⟨read, parses, same⟩ := parseFile_stored json shallow sized.ge (ascii "data_spool_blob")
    have deep : READER_DEPTH ≤ 100 := by decide
    have texts := canonicalJson_congr (same.isJson json) json ((same.depth_le shallow).trans deep)
      (shallow.trans deep) same
    rw [rendered] at texts
    exact ⟨read, (opened read).mpr ⟨parses, _, texts, rfl⟩, same⟩

/-- A task is a value of JSON, one level deeper than its input. -/
theorem scrapeNodeValue_json {node : ScrapeNode} (json : node.input.IsJson) :
    (scrapeNodeValue node).IsJson ∧
      ((scrapeNodeValue node).depth ≤ READER_DEPTH ↔ node.input.depth ≤ 11) := by
  have seed : ∀ number, (optionalValue number).IsJson ∧ (optionalValue number).depth = 0 := by
    intro number
    cases number <;> exact ⟨trivial, rfl⟩
  have key : node.logicalKey.value.IsJson ∧ node.logicalKey.value.depth ≤ 1 := by
    cases node.logicalKey with
    | root rootOrdinal seedOrdinal =>
      constructor
      · refine (JsValue.isJson_object _).mpr ⟨?_, ?_⟩
        · exact show (keysOf ["kind", "root_ordinal", "seed_ordinal"]).Nodup by decide
        · simp only [List.forall_mem_cons, List.not_mem_nil, false_implies, implies_true, and_true]
          exact ⟨trivial, trivial, (seed seedOrdinal).1⟩
      · refine (JsValue.depth_object _ _).mpr ?_
        simp only [List.forall_mem_cons, List.not_mem_nil, false_implies, implies_true, and_true]
        exact ⟨Nat.one_pos, Nat.one_pos, (seed seedOrdinal).2.symm ▸ Nat.one_pos⟩
    | fanout parentNodeId edgeId parentItemDigest =>
      constructor
      · refine (JsValue.isJson_object _).mpr ⟨?_, ?_⟩
        · exact show (keysOf ["kind", "parent_node_id", "edge_id", "parent_item_digest"]).Nodup by
            decide
        · simp only [List.forall_mem_cons, List.not_mem_nil, false_implies, implies_true, and_true]
          exact ⟨trivial, trivial, trivial, trivial⟩
      · refine (JsValue.depth_object _ _).mpr ?_
        simp only [List.forall_mem_cons, List.not_mem_nil, false_implies, implies_true, and_true]
        exact ⟨Nat.one_pos, Nat.one_pos, Nat.one_pos, Nat.one_pos⟩
  have digests : (JsValue.array (node.seenInputDigests.map .string)).IsJson ∧
      (JsValue.array (node.seenInputDigests.map .string)).depth ≤ 1 := by
    rw [JsValue.isJson_array, JsValue.depth_array]
    refine ⟨fun item member => ?_, fun item member => ?_⟩
    · obtain ⟨text, -, rfl⟩ := List.mem_map.mp member
      trivial
    · obtain ⟨text, -, rfl⟩ := List.mem_map.mp member
      exact Nat.one_pos
  have number : ∀ number, (safeValue number).IsJson ∧ (safeValue number).depth = 0 :=
    fun _ => ⟨trivial, rfl⟩
  have text : ∀ text, (JsValue.string text).IsJson ∧ (JsValue.string text).depth = 0 :=
    fun _ => ⟨trivial, rfl⟩
  unfold scrapeNodeValue
  constructor
  · refine (JsValue.isJson_object _).mpr ⟨?_, ?_⟩
    · exact show (keysOf ["node_id", "logical_key", "task_kind_id", "capability", "input",
        "root_ordinal", "seed_ordinal", "depth", "output_ordinal", "seen_input_digests",
        "pages_started_in_chain"]).Nodup by decide
    · simp only [List.forall_mem_cons, List.not_mem_nil, false_implies, implies_true, and_true,
        text, number, seed, key, digests, json]
  · rw [JsValue.depth_object]
    simp only [List.forall_mem_cons, List.not_mem_nil, false_implies, implies_true, and_true,
      text, number, seed]
    have levels : READER_DEPTH = 12 := rfl
    omega

theorem validateJsonSchema_json {check : JsValue → Units → Except PublicContractError Unit}
    (differ : value.KeysDiffer) (accepted : validateJsonSchema check value field = .ok ()) :
    value.IsJson := by
  obtain ⟨⟨⟩, asserted, -⟩ := Klura.bind_ok.mp accepted
  unfold assertJsonValue at asserted
  rw [assertJsonValueAt_iff differ] at asserted
  exact asserted.1

theorem create_accepts {files : MetaFiles} {runMeta parsed : JsValue} (differ : runMeta.KeysDiffer)
    (checked : parseRunMeta runMeta (ascii "run.meta") = .ok parsed)
    (absent : files (runIdOf runMeta) = none) :
    ∃ envelope write, create files runMeta = .ok (envelope, write) := by
  have first := runMeta_faithful.rebuilds _ _ _ differ checked
  obtain ⟨payload, again⟩ := runMeta_faithful.again _ _ _ parsed (ascii "run.meta") differ checked
    first.1
  have second := runMeta_faithful.rebuilds _ _ _ first.2.1.keysDiffer again
  have deep : READER_DEPTH + 1 ≤ 99 := by decide
  have digested := canonicalJson_eq second.2.1 (second.2.2.trans (deep.trans (by decide)))
  obtain ⟨digest, hashed⟩ : ∃ digest, canonicalDigest payload = .ok digest :=
    ⟨_, Klura.map_ok.mpr ⟨_, digested, rfl⟩⟩
  have whole := @envelope_json ⟨payload, digest⟩ second.2.1
  have rendered := canonicalJson_eq whole.1 ((whole.2 99).mpr (second.2.2.trans deep))
  have named := (runId_same differ checked).1
  obtain ⟨fields, members, -, -, -, -, -, rfl⟩ := parseRunMeta_ok.mp checked
  refine ⟨⟨payload, digest⟩, .writeExclusive (runIdOf runMeta) (storedBytes (RunMetaEnvelopeV1.value
    ⟨payload, digest⟩)), ?_⟩
  refine Klura.bind_ok.mpr ⟨_, checked, ?_⟩
  have id : textOf (memberOf members "run_id") = runIdOf runMeta := named
  dsimp only
  rw [id, absent]
  refine Klura.bind_ok.mpr ⟨⟨payload, digest⟩, ?_, Klura.bind_ok.mpr ⟨_, rendered, rfl⟩⟩
  exact Klura.bind_ok.mpr ⟨payload, again, Klura.bind_ok.mpr ⟨digest, hashed, rfl⟩⟩

/-- Metadata is read back as it was created exactly when its input nests at most ten levels and its
text fits the reader, and a task exactly when its input nests at most eleven. -/
theorem readsBack_iff (files : MetaFiles) (runMeta : JsValue) (node : ScrapeNode)
    (spool later : Bytes) :
    (∀ envelope write, runMeta.KeysDiffer → create files runMeta = .ok (envelope, write) →
      ((∃ envelope', read (write.apply files) (runIdOf runMeta) = .ok envelope' ∧
          envelope'.payload.Same envelope.payload ∧
          envelope'.metaDigest = envelope.metaDigest) ↔
        (inputOf runMeta).depth ≤ 10 ∧
          StrictJson.canonicalBytes runMeta + 126 ≤ META_MAX_BYTES_V1)) ∧
    ∀ check field maximumBytes reference after, node.input.KeysDiffer →
      validateJsonSchema check node.input field = .ok () →
      appendDataBlob spool (scrapeNodeValue node) maximumBytes = .ok (reference, after) →
      ((∃ value, readDataBlob (after ++ later) reference = .ok value ∧
          value.Same (scrapeNodeValue node)) ↔ node.input.depth ≤ 11) := by
  constructor
  · intro envelope write differ created
    exact read_created differ created
  · intro check field maximumBytes reference after differ accepted appended
    have node_json := scrapeNodeValue_json (validateJsonSchema_json differ accepted)
    exact (readDataBlob_appended node_json.1 appended).trans node_json.2

/-- A number as a value. -/
def whole (number : Nat) (small : number < 2 ^ 53 := by decide) : JsValue :=
  .number (.ofNat number small)

/-- An object with these members. -/
def record (members : List (String × JsValue)) : JsValue :=
  .object (members.map fun entry => (ascii entry.1, entry.2))

/-- The metadata of a small run with an input. -/
def sampleMeta (input : JsValue) : JsValue := record [
    ("meta_schema_version", whole 1),
    ("run_id", .string (ascii "run_v1_00000000000000000000000000000000")),
    ("start_operation_id", .string (ascii "op_v1_00000000000000000000000000000000")),
    ("artifact", record [
      ("package_id", .string (ascii "shop")), ("version", .string (ascii "1.0.0")),
      ("package_digest", .string (List.replicate 64 48)), ("capability", .string (ascii "listings")),
      ("runtime_range", record [("minimum_inclusive", .string (ascii "1.0.0")),
        ("maximum_exclusive", .string (ascii "2.0.0"))]),
      ("collection_contract_digest", .string (List.replicate 64 48))]),
    ("canonical_input", input),
    ("selected_input_mode_id", .string (ascii "direct")),
    ("effective_bounds", record [
      ("policy", record [
        ("max_concurrency", whole 1), ("per_request_timeout_ms", whole 1000),
        ("total_timeout_ms", whole 1000), ("max_requests", whole 1), ("max_tasks", whole 1),
        ("max_pages", whole 1), ("max_items", whole 1), ("max_encoded_item_bytes", whole 1),
        ("max_output_bytes", whole 1),
        ("retry", record [
          ("max_retries", whole 0), ("on", .array []), ("base_delay_ms", whole 100),
          ("max_delay_ms", whole 100), ("jitter_ratio", whole 0),
          ("honor_structural_retry_after", .boolean false)]),
        ("durable", record [
          ("max_frontier_bytes", whole 1), ("max_data_spool_bytes", whole 1),
          ("max_journal_bytes", whole 393432), ("max_journal_frames", whole 6),
          ("max_reorder_buffer_bytes", whole 1), ("max_local_state_bytes", whole 1)])]),
      ("named_limits", .object [])]),
    ("output", record [("kind", .string (ascii "inline"))]),
    ("created_at", .string (ascii "2026-01-01T00:00:00Z"))]

/-- A value that nests so many levels deep. -/
def nested : Nat → JsValue
  | 0 => .null
  | levels + 1 => .array [nested levels]

/-- A root task with an input. -/
def rootTask (input : JsValue) : ScrapeNode where
  nodeId := ascii "node"
  logicalKey := .root ⟨0, by decide⟩ none
  taskKindId := ascii "listing"
  capability := ascii "listings"
  input := input
  rootOrdinal := ⟨0, by decide⟩
  seedOrdinal := none
  depth := ⟨0, by decide⟩
  outputOrdinal := ⟨0, by decide⟩
  seenInputDigests := []
  pagesStartedInChain := ⟨0, by decide⟩

/-- Metadata with an input of eleven levels is created and then not read, and a task with an input
of twelve levels is stored and then not read. -/
theorem deep_input_unread :
    (∃ files runMeta envelope write, runMeta.KeysDiffer ∧
      create files runMeta = .ok (envelope, write) ∧
      ¬ ∃ envelope', read (write.apply files) (runIdOf runMeta) = .ok envelope' ∧
        envelope'.payload.Same envelope.payload ∧ envelope'.metaDigest = envelope.metaDigest) ∧
    ∃ node field spool maximumBytes reference after, node.input.KeysDiffer ∧
      validateJsonSchema (fun _ _ => .ok ()) node.input field = .ok () ∧
      appendDataBlob spool (scrapeNodeValue node) maximumBytes = .ok (reference, after) ∧
      ¬ ∃ value, readDataBlob after reference = .ok value ∧ value.Same (scrapeNodeValue node) := by
  constructor
  · have differ : (sampleMeta (nested 11)).KeysDiffer := by decide +kernel
    obtain ⟨parsed, checked, -⟩ := passesTest_spec (show
      passesTest (parseRunMeta (sampleMeta (nested 11)) (ascii "run.meta")) (fun _ => true) = true by
        decide +kernel)
    obtain ⟨envelope, write, created⟩ := @create_accepts (fun _ => none) _ _ differ checked rfl
    refine ⟨fun _ => none, _, envelope, write, differ, created, ?_⟩
    rw [read_created differ created]
    have deep : ¬ (inputOf (sampleMeta (nested 11))).depth ≤ 10 := by decide +kernel
    exact fun both => deep both.1
  · have differ : (nested 12).KeysDiffer := by decide +kernel
    have accepted : validateJsonSchema (fun _ _ => .ok ()) (rootTask (nested 12)).input [] = .ok () := by
      decide +kernel
    obtain ⟨⟨reference, after⟩, appended, -⟩ := passesTest_spec (show passesTest (appendDataBlob []
      (scrapeNodeValue (rootTask (nested 12))) 4096) (fun _ => true) = true by decide +kernel)
    refine ⟨rootTask (nested 12), [], [], 4096, reference, after, differ, accepted, appended, ?_⟩
    have json := scrapeNodeValue_json (validateJsonSchema_json differ accepted)
    have read := @readDataBlob_appended _ [] _ _ _ _ json.1 appended
    rw [List.append_nil] at read
    rw [read, json.2]
    decide +kernel

/-- Metadata with an input of ten levels is read back, and so is a task with an input of eleven. -/
theorem shallow_input_read :
    (∃ files runMeta envelope write, create files runMeta = .ok (envelope, write) ∧
      ∃ envelope', read (write.apply files) (runIdOf runMeta) = .ok envelope' ∧
        envelope'.payload.Same envelope.payload ∧ envelope'.metaDigest = envelope.metaDigest) ∧
    ∃ node spool maximumBytes reference after,
      appendDataBlob spool (scrapeNodeValue node) maximumBytes = .ok (reference, after) ∧
      ∃ value, readDataBlob (after ++ []) reference = .ok value ∧
        value.Same (scrapeNodeValue node) := by
  constructor
  · have differ : (sampleMeta (nested 10)).KeysDiffer := by decide +kernel
    obtain ⟨parsed, checked, -⟩ := passesTest_spec (show
      passesTest (parseRunMeta (sampleMeta (nested 10)) (ascii "run.meta")) (fun _ => true) = true by
        decide +kernel)
    obtain ⟨envelope, write, created⟩ := @create_accepts (fun _ => none) _ _ differ checked rfl
    refine ⟨fun _ => none, _, envelope, write, created, ?_⟩
    exact ((readsBack_iff _ _ (rootTask .null) [] []).1 _ _ differ created).mpr ⟨by decide +kernel, by decide +kernel⟩
  · have accepted : validateJsonSchema (fun _ _ => .ok ()) (rootTask (nested 11)).input [] = .ok () := by
      decide +kernel
    obtain ⟨⟨reference, after⟩, appended, -⟩ := passesTest_spec (show passesTest (appendDataBlob []
      (scrapeNodeValue (rootTask (nested 11))) 4096) (fun _ => true) = true by decide +kernel)
    refine ⟨rootTask (nested 11), [], 4096, reference, after, appended, ?_⟩
    exact ((readsBack_iff (fun _ => none) .null _ _ []).2 _ [] _ _ _ (by decide +kernel) accepted
      appended).mpr
      (by decide +kernel)

end RunFiles

end Klura
