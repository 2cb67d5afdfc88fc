import Klura.Store.RunOperations

/-! Run operations: what an operation id is bound to, and the result it is completed with. -/

namespace Klura

open StrictJson

/-! Hexadecimal texts and their bytes. -/

theorem isLowerHex_hexDigit {value : Nat} (small : value < 16) :
    StrictJson.isLowerHex (Klura.hexDigit value).toUInt16 = true := by
  have each : ∀ value : Fin 16,
      StrictJson.isLowerHex (Klura.hexDigit value.val).toUInt16 = true := by decide
  exact each ⟨value, small⟩

theorem hexDigits_hex (width value : Nat) (text : Bytes)
    (hex : (text.map UInt8.toUInt16).all StrictJson.isLowerHex = true) :
    (hexDigits width value text).length = width + text.length ∧
      ((hexDigits width value text).map UInt8.toUInt16).all StrictJson.isLowerHex = true := by
  induction width generalizing value text with
  | zero => exact ⟨by simp [hexDigits], hex⟩
  | succ width ih =>
    have more : ((Klura.hexDigit (value % 16) :: text).map UInt8.toUInt16).all
        StrictJson.isLowerHex = true := by
      rw [List.map_cons, List.all_cons, hex, isLowerHex_hexDigit (Nat.mod_lt _ (by decide))]
      rfl
    obtain ⟨length, digits⟩ := ih (value / 16) (Klura.hexDigit (value % 16) :: text) more
    rw [hexDigits]
    refine ⟨?_, digits⟩
    rw [length, List.length_cons]
    omega

theorem isLowerHex_small {unit : UInt16} (hex : StrictJson.isLowerHex unit = true) :
    unit.toNat < 0x80 := by
  simp only [StrictJson.isLowerHex, isDigit, Bool.or_eq_true, decide_eq_true_eq] at hex
  omega

variable {text : Units}

theorem isHexOf_small {count : Nat} (hex : isHexOf count text = true) :
    OneByteUnits text ∧ text.length = count := by
  obtain ⟨length, digits⟩ := Bool.and_eq_true_iff.mp hex
  rw [List.all_eq_true] at digits
  exact ⟨fun unit member => isLowerHex_small (digits unit member), of_decide_eq_true length⟩

theorem textDigest_hex (text : Units) : isHexOf 64 (textDigest text) = true := by
  obtain ⟨length, digits⟩ := hexDigits_hex 64 (sha256Digest (encodeUtf8 text)).bits.toNat [] rfl
  unfold isHexOf textDigest Sha256DigestV1.text
  rw [digits, List.length_map, length]
  rfl

theorem createRunId_tagged (random : BitVec 128) :
    isTagged "run_v1_" 32 (createRunId random) = true := by
  obtain ⟨length, digits⟩ := hexDigits_hex 32 random.toNat [] rfl
  have text : createRunId random =
      ascii "run_v1_" ++ (hexDigits 32 random.toNat []).map UInt8.toUInt16 := by
    unfold createRunId RunIdV1.text ascii
    rw [List.map_append]
  unfold isTagged isHexOf
  rw [text, List.drop_left, digits, List.length_map, length]
  simp

theorem parseSha256Digest_string {field : Units} (hex : isHexOf 64 text = true) :
    parseSha256Digest (.string text) field = .ok text := by
  obtain ⟨small, length⟩ := isHexOf_small hex
  refine parseForm_string hex ?_ small
  rw [utf8Length_ascii small, length]

/-! Records and what they are written as. -/

namespace RunOperationRecordV1

/-- The record of an operation that the store may hold. -/
structure WellFormed (record : RunOperationRecordV1) : Prop where
  operationId : isTagged "op_v1_" 32 record.operationId = true
  argumentsDigest : isHexOf 64 record.argumentsDigest = true
  runId : ∀ runId ∈ record.runId, isTagged "run_v1_" 32 runId = true
  json : record.result.IsJson
  shallow : record.result.depth < OPERATION_DEPTH

/-- Two records of one operation with the same command, arguments and run. -/
structure SameBinding (left right : RunOperationRecordV1) : Prop where
  operationId : left.operationId = right.operationId
  command : left.command = right.command
  argumentsDigest : left.argumentsDigest = right.argumentsDigest
  runId : left.runId = right.runId

theorem SameBinding.refl (record : RunOperationRecordV1) : record.SameBinding record :=
  ⟨rfl, rfl, rfl, rfl⟩

theorem SameBinding.trans {first second third : RunOperationRecordV1}
    (left : first.SameBinding second) (right : second.SameBinding third) :
    first.SameBinding third :=
  ⟨left.operationId.trans right.operationId, left.command.trans right.command,
    left.argumentsDigest.trans right.argumentsDigest, left.runId.trans right.runId⟩

theorem keys_nodup : operationRecordKeys.Nodup := by decide

variable {record : RunOperationRecordV1}

theorem value_json (json : record.result.IsJson) :
    record.value.IsJson := by
  unfold value
  rw [JsValue.isJson_object]
  refine ⟨keys_nodup, ?_⟩
  intro entry member
  simp only [List.mem_cons, List.not_mem_nil, or_false] at member
  rcases member with rfl | rfl | rfl | rfl | rfl | rfl
  · trivial
  · trivial
  · trivial
  · trivial
  · cases record.runId <;> trivial
  · exact json

theorem value_depth {levels : Nat} (shallow : record.result.depth < levels) :
    record.value.depth ≤ levels := by
  unfold value
  rw [JsValue.depth_object]
  intro entry member
  have some : 0 < levels := by omega
  simp only [List.mem_cons, List.not_mem_nil, or_false] at member
  rcases member with rfl | rfl | rfl | rfl | rfl | rfl
  · exact some
  · exact some
  · exact some
  · exact some
  · cases record.runId <;> exact some
  · exact shallow

theorem encodeRecord_ok (json : record.result.IsJson) (shallow : record.result.depth < 100) :
    encodeRecord record = .ok (storedBytes record.value) := by
  unfold encodeRecord
  rw [canonicalJson_eq (value_json json) (value_depth shallow)]
  rfl

end RunOperationRecordV1

theorem parseCommand_text (command : RunOperationCommandV1) (field : Units) :
    parseCommand (.string command.text) field = .ok command := by
  cases command <;> rfl

theorem parseOptionalRunId_value {runId : Option Units} {field : Units}
    (tagged : ∀ text ∈ runId, isTagged "run_v1_" 32 text = true) :
    parseOptionalRunId (runIdValue runId) field = .ok runId := by
  cases runId with
  | none => rfl
  | some text =>
    have parses : parseRunId (.string text) field = .ok text := parseMatch_string (tagged text rfl)
    have present : parseOptionalRunId (.string text) field =
      (parseRunId (.string text) field).map some := rfl
    rw [runIdValue, present, parses]
    rfl

theorem required_eq {fields : Fields} {key : String} {value : JsValue}
    (found : OrderedMap.get? fields (ascii key) = some value) : required fields key = value := by
  unfold required member
  rw [found]
  rfl

variable {record : RunOperationRecordV1}

/-- What reads the same as a record's value is that record, with a result that is the same. -/
theorem parseRecord_same (formed : record.WellFormed) {value : JsValue}
    (same : value.Same record.value) (field : Units) :
    ∃ read, parseRecord value field = .ok read ∧ read.SameBinding record ∧
      read.result.Same record.result := by
  obtain ⟨others, rfl, keys, members⟩ := same.object RunOperationRecordV1.keys_nodup
  have keys : (others.map Prod.fst).Perm operationRecordKeys := keys
  have exact_ : parseExactRecord (.object others) field operationRecordKeys = .ok others := by
    rw [parseExactRecord_ok]
    constructor
    · intro entry member
      exact keys.subset (List.mem_map_of_mem member)
    · intro key wanted
      exact OrderedMap.get?_isSome_iff.mpr (keys.symm.subset wanted)
  obtain ⟨version, found, sameVersion⟩ := members (ascii "operation_schema_version") _ rfl
  have versionIs := required_eq found
  obtain ⟨operationId, found, sameId⟩ := members (ascii "operation_id") _ rfl
  have operationIdIs := required_eq found
  obtain ⟨command, found, sameCommand⟩ := members (ascii "command") _ rfl
  have commandIs := required_eq found
  obtain ⟨digest, found, sameDigest⟩ := members (ascii "arguments_digest") _ rfl
  have digestIs := required_eq found
  obtain ⟨runId, found, sameRunId⟩ := members (ascii "run_id") _ rfl
  have runIdIs := required_eq found
  obtain ⟨result, found, sameResult⟩ := members (ascii "result") _ rfl
  have resultIs := required_eq found
  -- The members that are strings are what they were, and the version is a one without a sign.
  cases sameId.string
  cases sameCommand.string
  cases sameDigest.string
  have runIdSame : runId = runIdValue record.runId := by
    cases given : record.runId with
    | none =>
      rw [given] at sameRunId
      exact sameRunId.null
    | some text =>
      rw [given] at sameRunId
      exact sameRunId.string
  obtain ⟨sign, rfl, signed⟩ := sameVersion.number
  have one : (JsValue.number (.finite sign (.ofNat 1 one_small))).isNat 1 = true := by
    have positive : (Magnitude.ofNat 1 one_small).units ≠ 0 := by
      simpa [Magnitude.ofNat] using unitsPerOne_pos.ne'
    rw [signed positive]
    exact JsValue.isNat_ofNat 1 one_small
  have resultPasses : assertResult result (memberField field (ascii "result")) = .ok () := by
    have json := sameResult.isJson formed.json
    have shallow := sameResult.depth_le (Nat.le_of_lt formed.shallow)
    unfold assertResult
    split
    · rfl
    · exact (assertJsonValue_json json).mpr shallow
  have idPasses : parseRunOperationId (.string record.operationId)
      (memberField field (ascii "operation_id")) = .ok record.operationId :=
    parseMatch_string formed.operationId
  refine ⟨⟨record.operationId, record.command, record.argumentsDigest, record.runId, result⟩,
    ?_, ⟨rfl, rfl, rfl, rfl⟩, sameResult⟩
  unfold parseRecord
  rw [exact_]
  simp only [bind, Except.bind, versionIs, operationIdIs, commandIs, digestIs, runIdIs, resultIs,
    one, Bool.not_true, resultPasses, idPasses, parseCommand_text, runIdSame,
    parseSha256Digest_string formed.argumentsDigest, parseOptionalRunId_value formed.runId]
  rfl

theorem RunOperationRecordV1.WellFormed.same {record read : RunOperationRecordV1}
    (formed : record.WellFormed) (bound : read.SameBinding record)
    (same : read.result.Same record.result) : read.WellFormed where
  operationId := by
    rw [bound.operationId]
    exact formed.operationId
  argumentsDigest := by
    rw [bound.argumentsDigest]
    exact formed.argumentsDigest
  runId := by
    rw [bound.runId]
    exact formed.runId
  json := same.isJson formed.json
  shallow := by
    have levels := formed.shallow
    have bound : read.result.depth ≤ OPERATION_DEPTH - 1 := same.depth_le (by omega)
    omega

variable {files : OperationFiles} {operationId : Units}

theorem readRecord_stored (formed : record.WellFormed)
    (fits : StrictJson.canonicalBytes record.value ≤ OPERATION_BYTES_V1)
    (stored : files operationId = some (storedBytes record.value)) :
    ∃ read, readRecord files operationId = .ok (some read) ∧ read.SameBinding record ∧
      read.result.Same record.result := by
  obtain ⟨value, parses, same⟩ := parseFile_stored (RunOperationRecordV1.value_json formed.json)
    (RunOperationRecordV1.value_depth formed.shallow) fits (ascii "run_operation.record")
  obtain ⟨read, reads, bound⟩ := parseRecord_same formed same (ascii "run_operation.record")
  refine ⟨read, ?_, bound⟩
  unfold readRecord
  rw [stored]
  simp only [parses, bind, Except.bind, reads]

/-! The bytes of a new record. -/

theorem isTagged_small {tag : String} {count : Nat} (small : OneByteUnits (ascii tag))
    (tagged : isTagged tag count text = true) :
    OneByteUnits text ∧ text.length = (ascii tag).length + count := by
  obtain ⟨front, back⟩ := Bool.and_eq_true_iff.mp tagged
  obtain ⟨rest, whole⟩ := List.isPrefixOf_iff_prefix.mp front
  rw [← whole, List.drop_left] at back
  obtain ⟨digits, length⟩ := isHexOf_small back
  rw [← whole, List.length_append, length]
  exact ⟨small.append digits, rfl⟩

theorem null_little : StrictJson.canonicalBytes .null ≤ 64000 := by decide

theorem true_little : StrictJson.canonicalBytes (.boolean true) ≤ 64000 := by decide

/-- A record without a long result fits its file. -/
theorem value_small (formed : record.WellFormed)
    (little : StrictJson.canonicalBytes record.result ≤ 64000) :
    StrictJson.canonicalBytes record.value ≤ OPERATION_BYTES_V1 := by
  have operationId : StrictJson.canonicalBytes (.string record.operationId) ≤ 300 := by
    obtain ⟨small, length⟩ := isTagged_small (by decide) formed.operationId
    have tag : (ascii "op_v1_").length = 6 := by decide
    have bytes := StrictJson.canonicalBytes_string record.operationId
    omega
  have argumentsDigest : StrictJson.canonicalBytes (.string record.argumentsDigest) ≤ 400 := by
    obtain ⟨small, length⟩ := isHexOf_small formed.argumentsDigest
    have bytes := StrictJson.canonicalBytes_string record.argumentsDigest
    omega
  have command : StrictJson.canonicalBytes (.string record.command.text) ≤ 100 := by
    cases record.command <;> decide
  have runId : StrictJson.canonicalBytes (runIdValue record.runId) ≤ 300 := by
    cases given : record.runId with
    | none => decide
    | some text =>
      obtain ⟨small, length⟩ := isTagged_small (by decide) (formed.runId text given)
      have tag : (ascii "run_v1_").length = 7 := by decide
      have bytes := StrictJson.canonicalBytes_string text
      rw [runIdValue]
      omega
  have version : StrictJson.canonicalBytes (.number (.ofNat 1 one_small)) = 1 := by decide +kernel
  have keys : (operationRecordKeys.map fun key => utf8Length (StrictJson.stringText key)).sum ≤ 200 := by
    decide
  simp only [operationRecordKeys, List.map_cons, List.map_nil, List.sum_cons, List.sum_nil] at keys
  unfold RunOperationRecordV1.value
  rw [StrictJson.canonicalBytes_object]
  simp only [StrictJson.entryBytes, List.map_cons, List.map_nil, List.sum_cons, List.sum_nil,
    List.length_cons,
    List.length_nil]
  have bound : OPERATION_BYTES_V1 = 65536 := rfl
  omega

/-! What each call of the store does. -/

/-- What a reservation is checked to be. -/
structure ParsedReservationV1.WellFormed (parsed : ParsedReservationV1) : Prop where
  operationId : isTagged "op_v1_" 32 parsed.operationId = true
  argumentsDigest : isHexOf 64 parsed.argumentsDigest = true
  runId : ∀ runId ∈ parsed.runId, isTagged "run_v1_" 32 runId = true

variable {input : ReserveRunOperationInputV1} {parsed : ParsedReservationV1}

theorem parseReservation_ok (parses : parseReservation input = .ok parsed) :
    parsed.operationId = input.operationId ∧ parsed.WellFormed := by
  unfold parseReservation at parses
  simp only [bind_ok] at parses
  obtain ⟨-, -, operationId, idParses, command, -, text, -, runId, runIdParses, rest⟩ := parses
  cases rest
  obtain ⟨same, tagged⟩ := parseMatch_ok idParses
  cases same
  refine ⟨rfl, tagged, textDigest_hex text, fun given member => ?_⟩
  cases chosen : input.runId with
  | none =>
    rw [chosen] at runIdParses
    cases runIdParses
    cases member
  | some chosenId =>
    rw [chosen] at runIdParses
    obtain ⟨between, inner, rfl⟩ := map_ok.mp runIdParses
    cases member
    exact (parseMatch_ok inner).2

theorem newRecord_formed (formed : parsed.WellFormed) (random : BitVec 128) :
    (parsed.newRecord random).WellFormed where
  operationId := formed.operationId
  argumentsDigest := formed.argumentsDigest
  runId := by
    intro runId member
    unfold ParsedReservationV1.newRecord at member
    dsimp only at member
    split_ifs at member
    · cases member
      exact createRunId_tagged random
    · exact formed.runId runId member
  json := trivial
  shallow := Nat.succ_pos _

variable {write : FileWrite Units}

variable {random : BitVec 128} {outcome : ReservedRunOperationV1}

/-- The ways a reservation succeeds. -/
theorem reserve_ok :
    reserve files input random = .ok (outcome, write) ↔
      ∃ parsed, parseReservation input = .ok parsed ∧
        ((∃ existing, readRecord files parsed.operationId = .ok (some existing) ∧
            assertMatches existing parsed = .ok () ∧ outcome = .replayed existing ∧
            write = .keep) ∨
          (readRecord files parsed.operationId = .ok none ∧
            outcome = .reserved (parsed.newRecord random) ∧
            write = .writeExclusive parsed.operationId
              (storedBytes (parsed.newRecord random).value))) := by
  unfold reserve
  simp only [bind_ok, mapError_ok]
  refine exists_congr fun parsed => and_congr_right fun parses => ?_
  have formed := newRecord_formed (parseReservation_ok parses).2 random
  have encodes := RunOperationRecordV1.encodeRecord_ok formed.json
    (formed.shallow.trans (by decide))
  cases found : readRecord files parsed.operationId with
  | error failure => simp
  | ok existing =>
    cases existing with
    | some existing =>
      constructor
      · intro replays
        obtain ⟨_, ⟨⟩, replays⟩ := replays
        obtain ⟨_, matching, same⟩ := bind_ok.mp replays
        cases same
        exact .inl ⟨existing, rfl, matching, rfl, rfl⟩
      · rintro (⟨_, ⟨⟩, matching, rfl, rfl⟩ | ⟨absent, -⟩)
        · exact ⟨some existing, rfl, bind_ok.mpr ⟨(), matching, rfl⟩⟩
        · cases absent
    | none =>
      constructor
      · intro reserves
        obtain ⟨_, ⟨⟩, reserves⟩ := reserves
        obtain ⟨bytes, encoded, same⟩ := bind_ok.mp reserves
        rw [mapError_ok, encodes] at encoded
        cases encoded
        cases same
        exact .inr ⟨rfl, rfl, rfl⟩
      · rintro (⟨_, absent, -⟩ | ⟨-, rfl, rfl⟩)
        · cases absent
        · exact ⟨none, rfl, bind_ok.mpr ⟨_, mapError_ok.mpr encodes, rfl⟩⟩

variable {result : OwnValue}

/-- The ways a completion succeeds. -/
theorem complete_ok (completes : complete files operationId result = .ok (record, write)) :
    isTagged "op_v1_" 32 operationId = true ∧ result.val.IsJson ∧
      result.val.depth ≤ OPERATION_DEPTH ∧ ∃ existing,
        readRecord files operationId = .ok (some existing) ∧
        ((existing.result = .null ∧ record = { existing with result := result.val } ∧
            ∃ bytes, encodeRecord record = .ok bytes ∧ write = .writeAtomic operationId bytes) ∨
          (existing.result ≠ .null ∧ StrictJson.canonicalJson existing.result =
              StrictJson.canonicalJson result.val ∧ record = existing ∧ write = .keep)) := by
  unfold complete at completes
  simp only [bind_ok, mapError_ok] at completes
  obtain ⟨given, idParses, _, passes, existing, found, completes⟩ := completes
  obtain ⟨same, tagged⟩ := parseMatch_ok idParses
  cases same
  have json := (assertJsonValueAt_iff result.property).mp passes
  rw [Nat.zero_add] at json
  refine ⟨tagged, json.1, json.2, ?_⟩
  cases existing with
  | none => cases completes
  | some existing =>
    refine ⟨existing, found, ?_⟩
    dsimp only at completes
    split at completes
    · rename_i open_
      obtain ⟨bytes, encoded, same⟩ := bind_ok.mp completes
      cases same
      exact .inl ⟨open_, rfl, bytes, mapError_ok.mp encoded, rfl⟩
    · rename_i durable
      obtain ⟨durableText, durableRenders, completes⟩ := bind_ok.mp completes
      obtain ⟨resultText, resultRenders, completes⟩ := bind_ok.mp completes
      split_ifs at completes with texts
      cases completes
      rw [mapError_ok] at durableRenders resultRenders
      rw [not_not] at texts
      exact .inr ⟨durable, by rw [durableRenders, resultRenders, texts], rfl, rfl⟩

theorem abandon_ok (abandons : abandon files operationId = .ok write) : write = .keep ∨
      (write = .unlink operationId ∧ ∃ existing,
        readRecord files operationId = .ok (some existing) ∧ existing.result = .null) := by
  unfold abandon at abandons
  simp only [bind_ok, mapError_ok] at abandons
  obtain ⟨given, idParses, existing, found, abandons⟩ := abandons
  obtain ⟨same, -⟩ := parseMatch_ok idParses
  cases same
  cases existing with
  | none =>
    cases abandons
    exact .inl rfl
  | some existing =>
    dsimp only at abandons
    split at abandons
    · rename_i open_
      cases abandons
      exact .inr ⟨rfl, existing, found, open_⟩
    · cases abandons

/-! The condition on the calls, and the invariant that it keeps. -/

/-- Whether a call only writes records that the store can read back: a completion that would be
    written has a result other than null, one level to spare and bytes that fit the file. -/
def RunOperationCallV1.Storable (call : RunOperationCallV1) (files : OperationFiles) : Prop :=
  match call with
  | .complete operationId result =>
    assertJsonValue result.val (ascii "run_operation.complete.result") OPERATION_DEPTH = .ok () →
    ∀ record, readRecord files operationId = .ok (some record) → record.result = .null →
      result.val ≠ .null ∧ result.val.depth ≠ OPERATION_DEPTH ∧
        StrictJson.canonicalBytes { record with result := result.val }.value ≤ OPERATION_BYTES_V1
  | _ => True

/-- Whether an event is a call that can be stored and leaves no half-written new record. -/
def StorableEvent (files : OperationFiles) (event : RunOperationEventV1) : Prop :=
  match event with
  | .returns call => call.Storable files
  | .crashes call after => call.Storable files ∧
      ∀ write, call.write files = .ok write → ¬write.Torn files after

/-- Every file of the store is read as a well-formed record of its operation. -/
def RecordsRead (files : OperationFiles) : Prop :=
  ∀ operationId bytes, files operationId = some bytes → ∃ record,
    readRecord files operationId = .ok (some record) ∧ record.operationId = operationId ∧
      record.WellFormed

variable {after : OperationFiles}

theorem readRecord_congr (same : after operationId = files operationId) :
    readRecord after operationId = readRecord files operationId := by
  unfold readRecord
  rw [same]

theorem readRecord_absent (absent : files operationId = none) :
    readRecord files operationId = .ok none := by
  unfold readRecord
  rw [absent]

theorem readRecord_present (reads : readRecord files operationId = .ok (some record)) :
    ∃ bytes, files operationId = some bytes := by
  cases stored : files operationId with
  | none =>
    rw [readRecord_absent stored] at reads
    cases reads
  | some bytes => exact ⟨bytes, rfl⟩

/-- What a call has made of the file of an operation. -/
inductive OperationChange (files after : OperationFiles) (call : RunOperationCallV1)
    (operationId : Units) : Prop where
  /-- The file is what it was. -/
  | kept (same : after operationId = files operationId)
  /-- The operation has been reserved. -/
  | reserved (input : ReserveRunOperationInputV1) (random : BitVec 128)
      (parsed : ParsedReservationV1) (calls : call = .reserve input random)
      (parses : parseReservation input = .ok parsed) (own : parsed.operationId = operationId)
      (absent : files operationId = none)
      (stored : after operationId = some (storedBytes (parsed.newRecord random).value))
  /-- The operation has been completed. -/
  | completed (result : OwnValue) (existing : RunOperationRecordV1)
      (calls : call = .complete operationId result)
      (reads : readRecord files operationId = .ok (some existing)) (undone : existing.result = .null)
      (durable : result.val ≠ .null)
      (formed : { existing with result := result.val }.WellFormed)
      (fits : StrictJson.canonicalBytes { existing with result := result.val }.value
        ≤ OPERATION_BYTES_V1)
      (stored : after operationId =
        some (storedBytes { existing with result := result.val }.value))
  /-- The operation has been abandoned. -/
  | abandoned (existing : RunOperationRecordV1) (calls : call = .abandon operationId)
      (reads : readRecord files operationId = .ok (some existing)) (undone : existing.result = .null)
      (removed : after operationId = none)

theorem RecordsRead.formed {files : OperationFiles} (readable : RecordsRead files)
    {operationId : Units} {record : RunOperationRecordV1}
    (reads : readRecord files operationId = .ok (some record)) :
    record.operationId = operationId ∧ record.WellFormed := by
  obtain ⟨bytes, stored⟩ := readRecord_present reads
  obtain ⟨read, again, own, formed⟩ := readable operationId bytes stored
  rw [reads] at again
  cases again
  exact ⟨own, formed⟩

theorem RecordsRead.absent (readable : RecordsRead files)
    (reads : readRecord files operationId = .ok none) :
    files operationId = none := by
  cases stored : files operationId with
  | none => rfl
  | some bytes =>
    obtain ⟨read, again, -⟩ := readable operationId bytes stored
    rw [reads] at again
    cases again

theorem complete_written (readable : RecordsRead files)
    (storable : (RunOperationCallV1.complete operationId result).Storable files)
    (completes : complete files operationId result = .ok (record, write)) :
    (∃ existing, readRecord files operationId = .ok (some existing) ∧ existing.result = .null ∧
        result.val ≠ .null ∧ record = { existing with result := result.val } ∧
        record.WellFormed ∧ StrictJson.canonicalBytes record.value ≤ OPERATION_BYTES_V1 ∧
        write = .writeAtomic operationId (storedBytes record.value)) ∨
      (readRecord files operationId = .ok (some record) ∧ record.result ≠ .null ∧
        record.result.Same result.val ∧ write = .keep) := by
  obtain ⟨-, json, shallow, existing, reads, written | replayed⟩ := complete_ok completes
  · obtain ⟨undone, rfl, bytes, encoded, rfl⟩ := written
    have passes : assertJsonValue result.val (ascii "run_operation.complete.result")
        OPERATION_DEPTH = .ok () := (assertJsonValue_json json).mpr shallow
    obtain ⟨durable, spare, fits⟩ := storable passes existing reads undone
    have deep : result.val.depth < OPERATION_DEPTH := Nat.lt_of_le_of_ne shallow spare
    have given := (readable.formed reads).2
    have formed : { existing with result := result.val }.WellFormed :=
      ⟨given.operationId, given.argumentsDigest, given.runId, json, deep⟩
    have encodes := RunOperationRecordV1.encodeRecord_ok formed.json
      (formed.shallow.trans (by decide))
    rw [encodes] at encoded
    cases encoded
    exact .inl ⟨existing, reads, undone, durable, rfl, formed, fits, rfl⟩
  · obtain ⟨durable, texts, rfl, rfl⟩ := replayed
    have formed := (readable.formed reads).2
    have bound : OPERATION_DEPTH = 12 := rfl
    have levels := formed.shallow
    have same := canonicalJson_same formed.json json (by omega) (by omega) texts
    exact .inr ⟨reads, durable, same, rfl⟩

theorem write_change {call : RunOperationCallV1} (readable : RecordsRead files)
    (storable : call.Storable files) (writes : call.write files = .ok write) (operationId : Units) :
    OperationChange files (write.apply files) call operationId := by
  by_cases about : write.target = some operationId
  · cases call with
    | reserve input random =>
      obtain ⟨⟨outcome, change⟩, reserves, same⟩ := map_ok.mp writes
      cases same
      obtain ⟨parsed, parses, replayed | reserved⟩ := reserve_ok.mp reserves
      · obtain ⟨existing, -, -, -, rfl⟩ := replayed
        cases about
      · obtain ⟨absent, -, rfl⟩ := reserved
        cases about
        refine .reserved input random parsed rfl parses rfl (readable.absent absent) ?_
        exact Function.update_self _ _ _
    | complete completedId result =>
      obtain ⟨⟨record, change⟩, completes, same⟩ := map_ok.mp writes
      cases same
      rcases complete_written readable storable completes with written | ⟨-, -, -, rfl⟩
      · obtain ⟨existing, reads, undone, durable, rfl, formed, fits, rfl⟩ := written
        cases about
        exact .completed result existing rfl reads undone durable formed fits
          (Function.update_self _ _ _)
      · cases about
    | abandon abandonedId =>
      rcases abandon_ok writes with rfl | ⟨rfl, existing, reads, undone⟩
      · cases about
      · cases about
        exact .abandoned existing rfl reads undone (Function.update_self _ _ _)
  · exact .kept (FileWrite.apply_of_ne about)

/-- The call of an event. -/
def RunOperationEventV1.call : RunOperationEventV1 → RunOperationCallV1
  | .returns call | .crashes call _ => call

variable {event : RunOperationEventV1}

/-- A call that returns has made its write, or has failed and left the files alone. -/
theorem returned_iff {call : RunOperationCallV1} :
    operationMachine.step files (.returns call) after ↔
      (∃ write, call.write files = .ok write ∧ after = write.apply files) ∨
        ∃ failure, call.write files = .error failure ∧ after = files := by
  unfold operationMachine
  dsimp only
  cases writes : call.write files with
  | ok write => simp
  | error failure => simp

/-- A call that crashes has interrupted its write, or had failed and left the files alone. -/
theorem crashed_iff {call : RunOperationCallV1} {left : OperationFiles} :
    operationMachine.step files (.crashes call left) after ↔ after = left ∧
      ((∃ write, call.write files = .ok write ∧ write.Interrupted files left) ∨
        ∃ failure, call.write files = .error failure ∧ left = files) := by
  unfold operationMachine
  dsimp only
  cases writes : call.write files with
  | ok write => simp [and_comm]
  | error failure => simp [and_comm]

/-- A storable step changes the file of an operation in one of four ways. -/
theorem step_change (readable : RecordsRead files) (storable : StorableEvent files event)
    (steps : operationMachine.step files event after) (operationId : Units) :
    OperationChange files after event.call operationId := by
  cases event with
  | returns call =>
    -- Only a call that succeeds has written anything.
    rcases returned_iff.mp steps with ⟨write, writes, rfl⟩ | ⟨failure, -, rfl⟩
    · exact write_change readable storable writes operationId
    · exact .kept rfl
  | crashes call left =>
    obtain ⟨rfl, ⟨write, writes, leaves⟩ | ⟨failure, -, rfl⟩⟩ := crashed_iff.mp steps
    · -- The crash came before the write, after it, or in the middle of it.
      rcases leaves with rfl | rfl | torn
      · exact .kept rfl
      · exact write_change readable storable.1 writes operationId
      · exact absurd torn (storable.2 write writes)
    · exact .kept rfl

theorem OperationChange.read {files after : OperationFiles} {call : RunOperationCallV1}
    {operationId : Units} (readable : RecordsRead files)
    (change : OperationChange files after call operationId) {bytes : Bytes}
    (stored : after operationId = some bytes) : ∃ record,
      readRecord after operationId = .ok (some record) ∧ record.operationId = operationId ∧
        record.WellFormed := by
  cases change with
  | kept same =>
    rw [readRecord_congr same]
    exact readable operationId bytes (same ▸ stored)
  | reserved input random parsed calls parses own absent stored =>
    have formed := newRecord_formed (parseReservation_ok parses).2 random
    obtain ⟨read, reads, bound, same⟩ := readRecord_stored formed (value_small formed null_little) stored
    exact ⟨read, reads, bound.operationId.trans own, formed.same bound same⟩
  | completed result existing calls reads undone durable formed fits stored =>
    obtain ⟨read, again, bound, same⟩ := readRecord_stored formed fits stored
    exact ⟨read, again, bound.operationId.trans (readable.formed reads).1, formed.same bound same⟩
  | abandoned existing calls reads undone removed =>
    rw [removed] at stored
    cases stored

theorem recordsRead_step (storable : StorableEvent files event)
    (steps : operationMachine.step files event after) (readable : RecordsRead files) :
    RecordsRead after :=
  fun operationId _ stored =>
    (step_change readable storable steps operationId).read readable stored

theorem recordsRead_reached (reached : operationMachine.Reaches StorableEvent files) :
    RecordsRead files := by
  refine reached.invariant ?_ ?_
  · intro start starts operationId bytes stored
    rw [show start = fun _ => none from starts] at stored
    cases stored
  · intro state event after storable steps readable
    exact recordsRead_step storable steps readable

/-- Whether an event is a call that abandons an operation. -/
def RunOperationEventV1.Abandons (event : RunOperationEventV1) (operationId : Units) : Prop :=
  event.call = .abandon operationId

theorem bound_step (readable : RecordsRead files) (storable : StorableEvent files event)
    (steps : operationMachine.step files event after) (remains : ¬event.Abandons operationId)
    (reads : readRecord files operationId = .ok (some record)) : ∃ later,
      readRecord after operationId = .ok (some later) ∧ later.SameBinding record := by
  cases step_change readable storable steps operationId with
  | kept same => exact ⟨record, (readRecord_congr same).trans reads, .refl record⟩
  | reserved input random parsed calls parses own absent stored =>
    rw [readRecord_absent absent] at reads
    cases reads
  | completed result existing calls given undone durable formed fits stored =>
    rw [reads] at given
    cases given
    obtain ⟨later, again, bound, -⟩ := readRecord_stored formed fits stored
    exact ⟨later, again, bound.trans ⟨rfl, rfl, rfl, rfl⟩⟩
  | abandoned existing calls given undone removed => exact absurd calls remains

theorem durable_step (readable : RecordsRead files) (storable : StorableEvent files event)
    (steps : operationMachine.step files event after)
    (reads : readRecord files operationId = .ok (some record)) (durable : record.result ≠ .null) :
    readRecord after operationId = .ok (some record) := by
  cases step_change readable storable steps operationId with
  | kept same => exact (readRecord_congr same).trans reads
  | reserved input random parsed calls parses own absent stored =>
    rw [readRecord_absent absent] at reads
    cases reads
  | completed result existing calls given undone _ formed fits stored =>
    rw [reads] at given
    cases given
    exact absurd undone durable
  | abandoned existing calls given undone removed =>
    rw [reads] at given
    cases given
    exact absurd undone durable

/-! What the store promises in a state. -/

/-- The refusal of a call that is not the one an operation is bound to. -/
def operationBound : RunOperationFailure :=
  .operation .operationConflict "operation id is already bound to different command arguments"

/-- The refusal of a second result. -/
def operationCompleted : RunOperationFailure :=
  .operation .operationConflict "operation already has a different durable result"

/-- What run operations promise from a state of their store on. -/
structure IdempotentFrom (files : OperationFiles) : Prop where
  /-- Every record that has been written is accepted, and is the one of its file's operation. -/
  readable : ∀ operationId bytes, files operationId = some bytes → ∃ record,
    readRecord files operationId = .ok (some record) ∧ record.operationId = operationId
  /-- What an operation is reserved with, it is bound to until it is abandoned. -/
  bound : ∀ input random outcome write, reserve files input random = .ok (outcome, write) →
    (∃ parsed, parseReservation input = .ok parsed ∧
      assertMatches outcome.record parsed = .ok ()) ∧
    ∀ events after, operationMachine.Run StorableEvent (write.apply files) events after →
      (∀ event ∈ events, ¬event.Abandons input.operationId) → ∃ record,
        readRecord after input.operationId = .ok (some record) ∧ record.SameBinding outcome.record
  /-- A reservation with another command or other arguments is refused. -/
  refused : ∀ input parsed record, parseReservation input = .ok parsed →
    readRecord files parsed.operationId = .ok (some record) →
    (record.command ≠ parsed.command ∨ record.argumentsDigest ≠ parsed.argumentsDigest) →
    ∀ random, reserve files input random = .error operationBound ∧
      ∀ after, operationMachine.step files (.returns (.reserve input random)) after → after = files
  /-- A completed operation is replayed with its result for ever, and refuses every other one. -/
  completed : ∀ operationId result record write,
    (RunOperationCallV1.complete operationId result).Storable files →
    complete files operationId result = .ok (record, write) →
    ∀ events after, operationMachine.Run StorableEvent (write.apply files) events after →
      ∃ stored, readRecord after operationId = .ok (some stored) ∧
        stored.SameBinding record ∧ stored.result.Same result.val ∧
        (∀ input parsed, parseReservation input = .ok parsed → parsed.operationId = operationId →
          assertMatches stored parsed = .ok () →
          ∀ random, reserve after input random = .ok (.replayed stored, .keep)) ∧
        ∀ other : OwnValue, other.val.IsJson → other.val.depth ≤ OPERATION_DEPTH →
          ¬other.val.Same result.val → complete after operationId other = .error operationCompleted
  /-- After a crash, the reservation that was being made or had been made succeeds. -/
  retried : ∀ call after, StorableEvent files (.crashes call after) →
    operationMachine.step files (.crashes call after) after →
    ∀ input random outcome, reserve files input random = .ok outcome →
      (∀ other random, call = .reserve other random → other.operationId = input.operationId →
        parseReservation other = parseReservation input) →
      ∀ random, ∃ outcome, reserve after input random = .ok outcome

theorem newRecord_matches (parsed : ParsedReservationV1) (random : BitVec 128) :
    assertMatches (parsed.newRecord random) parsed = .ok () := by
  unfold assertMatches ParsedReservationV1.newRecord
  dsimp only
  refine if_neg ?_
  rintro (command | digest | ⟨given, differs⟩)
  · exact command rfl
  · exact digest rfl
  · rw [if_neg fun fresh => given fresh.2] at differs
    exact differs rfl

theorem RunOperationRecordV1.SameBinding.matches {later : RunOperationRecordV1}
    (bound : later.SameBinding record) (matching : assertMatches record parsed = .ok ()) :
    assertMatches later parsed = .ok () := by
  unfold assertMatches at matching ⊢
  rw [bound.command, bound.argumentsDigest, bound.runId]
  exact matching

theorem reserve_bound (reserves : reserve files input random = .ok (outcome, write)) :
    (∃ parsed, parseReservation input = .ok parsed ∧
        assertMatches outcome.record parsed = .ok ()) ∧
      ∃ record, readRecord (write.apply files) input.operationId = .ok (some record) ∧
        record.SameBinding outcome.record := by
  obtain ⟨parsed, parses, replayed | reserved⟩ := reserve_ok.mp reserves
  · obtain ⟨existing, reads, matching, rfl, rfl⟩ := replayed
    rw [(parseReservation_ok parses).1] at reads
    exact ⟨⟨parsed, parses, matching⟩, existing, reads, .refl existing⟩
  · obtain ⟨-, rfl, rfl⟩ := reserved
    have formed := newRecord_formed (parseReservation_ok parses).2 random
    obtain ⟨record, reads, bound, -⟩ := readRecord_stored formed (value_small formed null_little)
      (Function.update_self parsed.operationId _ files)
    rw [(parseReservation_ok parses).1] at reads
    refine ⟨⟨parsed, parses, newRecord_matches parsed random⟩, record, ?_, bound⟩
    rw [FileWrite.apply, (parseReservation_ok parses).1]
    exact reads

theorem returns_step {call : RunOperationCallV1} (writes : call.write files = .ok write) :
    operationMachine.step files (.returns call) (write.apply files) :=
  returned_iff.mpr (.inl ⟨write, writes, rfl⟩)

variable {events : List RunOperationEventV1}

theorem bound_run (readable : RecordsRead files)
    (run : operationMachine.Run StorableEvent files events after)
    (remains : ∀ event ∈ events, ¬event.Abandons operationId)
    (reads : readRecord files operationId = .ok (some record)) : ∃ later,
      readRecord after operationId = .ok (some later) ∧ later.SameBinding record := by
  have kept := run.keeps (fun event => ¬event.Abandons operationId)
    (fun state => RecordsRead state ∧ ∃ later,
      readRecord state operationId = .ok (some later) ∧ later.SameBinding record)
    (fun state event next storable remains steps holds => by
      obtain ⟨readable, later, reads, bound⟩ := holds
      obtain ⟨last, again, same⟩ := bound_step readable storable steps remains reads
      exact ⟨recordsRead_step storable steps readable, last, again, same.trans bound⟩)
    remains ⟨readable, record, reads, .refl record⟩
  exact kept.2

theorem durable_run (readable : RecordsRead files)
    (run : operationMachine.Run StorableEvent files events after)
    (reads : readRecord files operationId = .ok (some record)) (durable : record.result ≠ .null) :
    readRecord after operationId = .ok (some record) := by
  have kept := run.keeps (fun _ => True)
    (fun state => RecordsRead state ∧ readRecord state operationId = .ok (some record))
    (fun state event next storable _ steps holds =>
      ⟨recordsRead_step storable steps holds.1,
        durable_step holds.1 storable steps holds.2 durable⟩)
    (fun _ _ => trivial) ⟨readable, reads⟩
  exact kept.2

theorem complete_durable (readable : RecordsRead files)
    (storable : (RunOperationCallV1.complete operationId result).Storable files)
    (completes : complete files operationId result = .ok (record, write)) : ∃ stored,
      readRecord (write.apply files) operationId = .ok (some stored) ∧
        stored.SameBinding record ∧ stored.result.Same result.val ∧ stored.result ≠ .null := by
  rcases complete_written readable storable completes with written | replayed
  · obtain ⟨existing, -, -, durable, rfl, formed, fits, rfl⟩ := written
    obtain ⟨stored, reads, bound, same⟩ := readRecord_stored formed fits
      (Function.update_self operationId _ files)
    refine ⟨stored, reads, bound, same, fun none => ?_⟩
    rw [none] at same
    exact durable same.of_null
  · obtain ⟨reads, durable, same, rfl⟩ := replayed
    exact ⟨record, reads, .refl record, same, durable⟩

theorem complete_undone (own : record.operationId = operationId) (formed : record.WellFormed)
    (reads : readRecord files operationId = .ok (some record)) (undone : record.result = .null)
    (json : result.val.IsJson) (shallow : result.val.depth ≤ OPERATION_DEPTH) :
    complete files operationId result = .ok ({ record with result := result.val },
      .writeAtomic operationId (storedBytes { record with result := result.val }.value)) := by
  have idParses : parseRunOperationId (.string operationId)
      (ascii "run_operation.complete.operation_id") = .ok operationId :=
    parseMatch_string (own ▸ formed.operationId)
  have passes : assertJsonValue result.val (ascii "run_operation.complete.result")
      OPERATION_DEPTH = .ok () := (assertJsonValue_json json).mpr shallow
  have bound : OPERATION_DEPTH = 12 := rfl
  have encodes : encodeRecord { record with result := result.val } =
      .ok (storedBytes { record with result := result.val }.value) :=
    RunOperationRecordV1.encodeRecord_ok json (show result.val.depth < 100 by omega)
  unfold complete
  simp only [idParses, passes, reads, undone, encodes, ok_mapError, bind, Except.bind]

theorem complete_refused (own : record.operationId = operationId) (formed : record.WellFormed)
    (reads : readRecord files operationId = .ok (some record)) (durable : record.result ≠ .null)
    {other : OwnValue} (json : other.val.IsJson) (shallow : other.val.depth ≤ OPERATION_DEPTH)
    (differs : ¬other.val.Same record.result) :
    complete files operationId other = .error operationCompleted := by
  have idParses : parseRunOperationId (.string operationId)
      (ascii "run_operation.complete.operation_id") = .ok operationId :=
    parseMatch_string (own ▸ formed.operationId)
  have passes : assertJsonValue other.val (ascii "run_operation.complete.result")
      OPERATION_DEPTH = .ok () := (assertJsonValue_json json).mpr shallow
  have bound : OPERATION_DEPTH = 12 := rfl
  have levels := formed.shallow
  have rendered := canonicalJson_eq formed.json (by omega)
  have otherRendered := canonicalJson_eq json (by omega)
  have texts : (syntaxOf record.result).text ≠ (syntaxOf other.val).text := by
    intro texts
    refine differs (canonicalJson_same json formed.json (by omega) (by omega) ?_)
    rw [rendered, otherRendered, texts]
  unfold complete
  simp only [idParses, passes, reads, rendered, otherRendered, ok_mapError, bind, Except.bind,
    if_pos texts]
  rfl

theorem reserve_replayed (parses : parseReservation input = .ok parsed)
    (reads : readRecord files parsed.operationId = .ok (some record))
    (matching : assertMatches record parsed = .ok ()) (random : BitVec 128) :
    reserve files input random = .ok (.replayed record, .keep) :=
  reserve_ok.mpr ⟨parsed, parses, .inl ⟨record, reads, matching, rfl, rfl⟩⟩

theorem reserve_refused (parses : parseReservation input = .ok parsed)
    (reads : readRecord files parsed.operationId = .ok (some record))
    (differs : record.command ≠ parsed.command ∨ record.argumentsDigest ≠ parsed.argumentsDigest)
    (random : BitVec 128) : reserve files input random = .error operationBound := by
  have refuses : assertMatches record parsed = .error operationBound := by
    refine if_pos ?_
    rcases differs with command | digest
    · exact .inl command
    · exact .inr (.inl digest)
  unfold reserve
  simp only [parses, reads, refuses, ok_mapError, bind, Except.bind]

/-- After a crash, a reservation that would have succeeded succeeds, unless the crash was in one
    of the operation for something else. -/
theorem reserve_retried {call : RunOperationCallV1} (readable : RecordsRead files)
    (storable : StorableEvent files (.crashes call after))
    (steps : operationMachine.step files (.crashes call after) after)
    {outcome : ReservedRunOperationV1 × FileWrite Units}
    (reserves : reserve files input random = .ok outcome)
    (alike : ∀ other random, call = .reserve other random → other.operationId = input.operationId → parseReservation other = parseReservation input)
    (again : BitVec 128) : ∃ outcome, reserve after input again = .ok outcome := by
  obtain ⟨parsed, parses, ways⟩ := reserve_ok.mp reserves
  -- The operation then reads as absent, or as a record that the reservation matches.
  have matches_ : readRecord after parsed.operationId = .ok none ∨ ∃ record,
      readRecord after parsed.operationId = .ok (some record) ∧
        assertMatches record parsed = .ok () := by
    cases step_change readable storable steps parsed.operationId with
    | kept same =>
      rw [readRecord_congr same]
      rcases ways with ⟨existing, reads, matching, -⟩ | ⟨absent, -⟩
      · exact .inr ⟨existing, reads, matching⟩
      · exact .inl absent
    | reserved other random other' calls otherParses own absent stored =>
      have formed := newRecord_formed (parseReservation_ok otherParses).2 random
      obtain ⟨record, reads, bound, -⟩ := readRecord_stored formed (value_small formed null_little) stored
      have given := (parseReservation_ok otherParses).1
      have wanted := (parseReservation_ok parses).1
      rw [alike other random calls (by rw [← given, own, wanted]), parses] at otherParses
      cases otherParses
      exact .inr ⟨record, reads, bound.matches (newRecord_matches parsed random)⟩
    | completed result existing calls reads undone durable formed fits stored =>
      obtain ⟨record, again, bound, -⟩ := readRecord_stored formed fits stored
      rcases ways with ⟨other, given, matching, -⟩ | ⟨absent, -⟩
      · rw [reads] at given
        cases given
        have same : record.SameBinding existing := bound.trans ⟨rfl, rfl, rfl, rfl⟩
        exact .inr ⟨record, again, same.matches matching⟩
      · rw [reads] at absent
        cases absent
    | abandoned existing calls reads undone removed => exact .inl (readRecord_absent removed)
  rcases matches_ with absent | ⟨record, reads, matching⟩
  · exact ⟨_, reserve_ok.mpr ⟨parsed, parses, .inr ⟨absent, rfl, rfl⟩⟩⟩
  · exact ⟨_, reserve_replayed parses reads matching again⟩

/-- In every state that storable steps reach, run operations are idempotent from then on. -/
theorem runOperations_idempotent {files : OperationFiles}
    (reached : operationMachine.Reaches StorableEvent files) : IdempotentFrom files := by
  have readable := recordsRead_reached reached
  constructor
  · intro operationId bytes stored
    obtain ⟨record, reads, own, -⟩ := readable operationId bytes stored
    exact ⟨record, reads, own⟩
  · intro input random outcome write reserves
    obtain ⟨given, record, reads, bound⟩ := reserve_bound reserves
    refine ⟨given, fun events after run remains => ?_⟩
    have writes : (RunOperationCallV1.reserve input random).write files = .ok write :=
      map_ok.mpr ⟨_, reserves, rfl⟩
    have harmless : StorableEvent files (.returns (.reserve input random)) := trivial
    have next := recordsRead_step harmless (returns_step writes) readable
    obtain ⟨later, again, same⟩ := bound_run next run remains reads
    exact ⟨later, again, same.trans bound⟩
  · intro input parsed record parses reads differs random
    have refuses := reserve_refused parses reads differs random
    refine ⟨refuses, fun after steps => ?_⟩
    -- The reservation is refused, so the step cannot have been one that writes.
    rcases returned_iff.mp steps with ⟨write, writes, -⟩ | ⟨failure, -, same⟩
    · obtain ⟨_, reserves, -⟩ := map_ok.mp writes
      rw [refuses] at reserves
      cases reserves
    · exact same
  · intro operationId result record write storable completes events after run
    obtain ⟨stored, reads, bound, same, durable⟩ := complete_durable readable storable completes
    have writes : (RunOperationCallV1.complete operationId result).write files = .ok write :=
      map_ok.mpr ⟨_, completes, rfl⟩
    have harmless : StorableEvent files (.returns (.complete operationId result)) := storable
    have next := recordsRead_step harmless (returns_step writes) readable
    have later := durable_run next run reads durable
    refine ⟨stored, later, bound, same, ?_, ?_⟩
    · rintro input parsed parses rfl matching random
      exact reserve_replayed parses later matching random
    · intro other json shallow differs
      obtain ⟨own, formed⟩ := next.formed reads
      exact complete_refused own formed later durable json shallow fun sames =>
        differs (sames.trans same)
  · intro call after storable steps input random outcome reserves alike again
    exact reserve_retried readable storable steps reserves alike again

/-- An operation id of zeros. -/
def sampleOperationId : Units := ascii "op_v1_00000000000000000000000000000000"

/-- The cancellation of no run in particular. -/
def sampleReservation : ReserveRunOperationInputV1 :=
  { operationId := sampleOperationId
    command := ascii "cancel"
    arguments := ⟨.null, trivial⟩
    runId := none }

theorem sampleReservation_reserved (allowed : OperationFiles → RunOperationEventV1 → Prop)
    (allows : ∀ files call, call = .reserve sampleReservation 0 →
      allowed files (.returns call)) : ∃ files record,
      operationMachine.Reaches allowed files ∧
        readRecord files sampleOperationId = .ok (some record) ∧
        record.operationId = sampleOperationId ∧ record.WellFormed ∧ record.result = .null := by
  have parses : ∃ parsed, parseReservation sampleReservation = .ok parsed := ⟨_, rfl⟩
  obtain ⟨parsed, parses⟩ := parses
  have empty : operationMachine.Reaches allowed fun _ => none := .start rfl
  have reserves : reserve (fun _ => none) sampleReservation 0 = .ok (.reserved
      (parsed.newRecord 0), .writeExclusive parsed.operationId
        (storedBytes (parsed.newRecord 0).value)) :=
    reserve_ok.mpr ⟨parsed, parses, .inr ⟨rfl, rfl, rfl⟩⟩
  have formed := newRecord_formed (parseReservation_ok parses).2 0
  have writes : (RunOperationCallV1.reserve sampleReservation 0).write (fun _ => none) =
      .ok (.writeExclusive parsed.operationId (storedBytes (parsed.newRecord 0).value)) :=
    map_ok.mpr ⟨_, reserves, rfl⟩
  obtain ⟨record, reads, bound, same⟩ := readRecord_stored formed (value_small formed null_little)
    (Function.update_self parsed.operationId _ fun _ => none)
  have own : parsed.operationId = sampleOperationId := (parseReservation_ok parses).1
  rw [own] at reads writes
  exact ⟨_, record, empty.next (allows _ _ rfl) (returns_step writes), reads,
    bound.operationId.trans own, formed.same bound same, same.null⟩

/-- The value true. -/
def trueResult : OwnValue := ⟨.boolean true, trivial⟩

/-- A completed sample is one that storable steps reach. -/
theorem runOperations_idempotent_sample : ∃ files record,
    readRecord files sampleOperationId = .ok (some record) ∧ record.result = .boolean true ∧
      IdempotentFrom files := by
  obtain ⟨files, record, reached, reads, own, formed, undone⟩ :=
    sampleReservation_reserved StorableEvent fun files call same => by
      cases same
      trivial
  have json : trueResult.val.IsJson := trivial
  have completes := complete_undone own formed reads undone json (Nat.zero_le _)
  have writes : (RunOperationCallV1.complete sampleOperationId trueResult).write files = .ok _ :=
    map_ok.mpr ⟨_, completes, rfl⟩
  have completed : RunOperationRecordV1.WellFormed { record with result := .boolean true } :=
    ⟨formed.operationId, formed.argumentsDigest, formed.runId, trivial, Nat.succ_pos _⟩
  have fits := value_small completed true_little
  have storable : (RunOperationCallV1.complete sampleOperationId trueResult).Storable files := by
    intro _ other again _
    rw [reads] at again
    cases again
    exact ⟨nofun, by decide, fits⟩
  have harmless : StorableEvent files (.returns (.complete sampleOperationId trueResult)) :=
    storable
  obtain ⟨read, again, -, same⟩ := readRecord_stored completed fits
    (Function.update_self sampleOperationId _ files)
  exact ⟨_, read, again, same.boolean,
    runOperations_idempotent (reached.next harmless (returns_step writes))⟩

/-- An operation that is completed with null is completed with true after that. -/
theorem runOperations_completed_twice : ∃ files operationId first second,
    operationMachine.Reaches (fun _ _ => True) files ∧
      complete files operationId ⟨.null, trivial⟩ = .ok first ∧
      complete (first.2.apply files) operationId trueResult = .ok second := by
  obtain ⟨files, record, reached, reads, own, formed, undone⟩ :=
    sampleReservation_reserved (fun _ _ => True) fun _ _ _ => trivial
  have json : trueResult.val.IsJson := trivial
  have nullJson : (⟨.null, trivial⟩ : OwnValue).val.IsJson := trivial
  have first := complete_undone own formed reads undone nullJson (Nat.zero_le _)
  have again : RunOperationRecordV1.WellFormed { record with result := .null } :=
    ⟨formed.operationId, formed.argumentsDigest, formed.runId, trivial, Nat.succ_pos _⟩
  obtain ⟨read, rereads, bound, same⟩ := readRecord_stored again (value_small again null_little)
    (Function.update_self sampleOperationId _ files)
  have second := complete_undone (bound.operationId.trans own) (again.same bound same) rereads
    same.null json (Nat.zero_le _)
  exact ⟨files, sampleOperationId, _, _, reached, first, second⟩

end Klura
