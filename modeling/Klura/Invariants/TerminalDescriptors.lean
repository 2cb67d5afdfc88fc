import Klura.Contracts.JsonBytes
import Klura.Run.Listing
import Klura.Run.OutputPath

/-! Whether the result of a run can be recorded, for every destination that a run may declare. -/

namespace Klura

/-- Every counter of a summary is an integer that the language counts up to exactly. -/
structure ScrapeRunSummaryV1.IsSafe (summary : ScrapeRunSummaryV1) : Prop where
  itemsEmitted : summary.itemsEmitted ≤ JsonNumber.maxSafeInteger
  itemsDuplicate : summary.itemsDuplicate ≤ JsonNumber.maxSafeInteger
  tasksCompleted : summary.tasksCompleted ≤ JsonNumber.maxSafeInteger
  tasksFailed : summary.tasksFailed ≤ JsonNumber.maxSafeInteger
  targetRequests : summary.targetRequests ≤ JsonNumber.maxSafeInteger

/-- How a run ends: with its work done, with some of its items, or with none. -/
inductive RunEndV1 where
  | outcome (stop : RunCompletionStopV1)
  | partialResult (stop : RunStopV1)
  | failure (stop : RunStopV1)
  deriving DecidableEq

/-- The kind of result that a run ends with. -/
def RunEndV1.resultKind : RunEndV1 → RunResultKindV1
  | .outcome _ => .scrapeOutcome
  | .partialResult _ => .scrapePartial
  | .failure _ => .scrapeFailure

/-- The stop that a run ends with. -/
def RunEndV1.stop : RunEndV1 → TerminalRunStopV1
  | .outcome stop => .completed stop
  | .partialResult stop | .failure stop => .stopped stop

/-- The descriptor of a run's end. -/
def RunEndV1.descriptor (ended : RunEndV1) (env : RunEnvironment) (summary : ScrapeRunSummaryV1)
    (sink : Option FileRunOutputSinkV1) : TerminalResultDescriptorV1 :=
  createTerminalDescriptor env summary ended.resultKind ended.stop sink

/-- A sink, when there is one, writes to the file that an output declares. -/
def RunOutputV1.WrittenBy (output : RunOutputV1) (sink : Option FileRunOutputSinkV1) : Prop :=
  ∀ file, sink = some file → output = .file file.requestedPath file.format

/-- A frame records a descriptor: it prepares the output, or it is the terminal one. -/
structure JournalFrameBodyV1.Records (body : JournalFrameBodyV1) (env : RunEnvironment)
    (descriptor : TerminalResultDescriptorV1) : Prop where
  sequence : 1 ≤ body.sequence ∧ body.sequence ≤ JsonNumber.maxSafeInteger
  executionEpoch : body.executionEpoch ≤ JsonNumber.maxSafeInteger
  event : body.event = .terminal descriptor (env.digestOf descriptor.value) ∨
    ∃ pathDigest contentDigest byteLength, byteLength ≤ JsonNumber.maxSafeInteger ∧
      body.event = .outputPrepared pathDigest contentDigest byteLength descriptor
        (env.digestOf descriptor.value)

/-- A run's end can be recorded: its descriptor is accepted and its frames fit their reserve. -/
def Terminalizes (env : RunEnvironment) (descriptor : TerminalResultDescriptorV1) : Prop :=
  parseTerminalResultDescriptor descriptor "terminal_descriptor" = .ok () ∧
    ∀ body : JournalFrameBodyV1, body.Records env descriptor →
      ∃ text, encodeJournalFrame env body = .ok text ∧
        text.length ≤ JOURNAL_EMERGENCY_FRAME_BODY_BYTES_V1

/-- The bytes of a descriptor next to its path's. -/
def RunEndV1.bytesBesidePath (ended : RunEndV1) (summary : ScrapeRunSummaryV1)
    (format : RunOutputFormatV1) : Nat :=
  canonicalBytes (TerminalResultDescriptorV1.value {
    resultKind := ended.resultKind, stop := ended.stop, summary
    output := .file "" format (decide (ended.resultKind = .scrapePartial)) })

/-- The path that a sink's file is published under. -/
def RunEndV1.publishedPath (ended : RunEndV1) (env : RunEnvironment)
    (sink : FileRunOutputSinkV1) : String :=
  if ended.resultKind = .scrapePartial then partialOutputPath sink.requestedPath env.runId
  else sink.requestedPath

/-- The path of a published file, as a JSON string writes it, leaves the rest of the descriptor its
room. -/
def RunEndV1.PathFits (ended : RunEndV1) (env : RunEnvironment) (summary : ScrapeRunSummaryV1)
    (sink : Option FileRunOutputSinkV1) : Prop :=
  ∀ file, sink = some file → ended.resultKind ≠ .scrapeFailure →
    ended.bytesBesidePath summary file.format + escapedBytes (utf8 (ended.publishedPath env file))
      ≤ MAX_TERMINAL_DESCRIPTOR_BYTES_V1

theorem descriptor_bytes (descriptor : TerminalResultDescriptorV1) (path : String)
    (format : RunOutputFormatV1) (isPartial : Bool) :
    canonicalBytes { descriptor with output := .file path format isPartial }.value =
      canonicalBytes { descriptor with output := .file "" format isPartial }.value +
        escapedBytes (utf8 path) := by
  have empty : escapedBytes (utf8 "") = 0 := by decide
  simp only [TerminalResultDescriptorV1.value, TerminalOutputV1.value, canonicalBytes_object,
    memberBytes, textValue, canonicalBytes_string, List.map_cons, List.map_nil, List.sum_cons,
    List.sum_nil, List.length_cons, List.length_nil, empty]
  omega

theorem digestValue_bytes (digest : Sha256DigestV1) :
    canonicalBytes (digestValue digest) ≤ 386 := by
  have digits : digest.text.length = 64 := by
    rw [Sha256DigestV1.text, hexDigits_length]
    rfl
  have bytes := escapedBytes_le digest.text
  rw [digestValue, canonicalBytes_string]
  omega

theorem runId_length (runId : RunIdV1) : runId.text.length = 39 := by
  rw [RunIdV1.text, List.length_append, hexDigits_length]
  rfl

theorem runId_bytes (runId : RunIdV1) : canonicalBytes (.string runId.text) ≤ 236 := by
  have digits := runId_length runId
  have bytes := escapedBytes_le runId.text
  rw [canonicalBytes_string]
  omega

variable {body : JournalFrameBodyV1}

theorem frame_bytes (sequence : body.sequence ≤ JsonNumber.maxSafeInteger)
    (executionEpoch : body.executionEpoch ≤ JsonNumber.maxSafeInteger) :
    canonicalBytes body.value ≤ canonicalBytes body.event.value + 1000 := by
  have keys : escapedBytes (utf8 "frame_schema_version") = 20 ∧ escapedBytes (utf8 "run_id") = 6 ∧
      escapedBytes (utf8 "sequence") = 8 ∧ escapedBytes (utf8 "execution_epoch") = 15 ∧
      escapedBytes (utf8 "previous_frame_digest") = 21 ∧ escapedBytes (utf8 "event") = 5 ∧
      canonicalBytes .null = 4 ∧ canonicalBytes (natValue 1) = 1 := by decide
  have previous : canonicalBytes (nullable body.previousFrameDigest digestValue) ≤ 386 := by
    cases body.previousFrameDigest with
    | none => exact keys.2.2.2.2.2.2.1.trans_le (by decide)
    | some digest => exact digestValue_bytes digest
  have runId := runId_bytes body.runId
  have first := natValue_bytes sequence
  have second := natValue_bytes executionEpoch
  simp only [JournalFrameBodyV1.value, canonicalBytes_object, memberBytes, List.map_cons,
    List.map_nil, List.sum_cons, List.sum_nil, List.length_cons, List.length_nil, keys]
  omega

variable {env : RunEnvironment}

theorem records_bytes {descriptor : TerminalResultDescriptorV1}
    (records : body.Records env descriptor) :
    canonicalBytes body.value ≤ canonicalBytes descriptor.value + 3000 := by
  have frame := frame_bytes records.sequence.2 records.executionEpoch
  have keys : escapedBytes (utf8 "kind") = 4 ∧ escapedBytes (utf8 "descriptor") = 10 ∧
      escapedBytes (utf8 "descriptor_digest") = 17 ∧ escapedBytes (utf8 "path_digest") = 11 ∧
      escapedBytes (utf8 "content_digest") = 14 ∧ escapedBytes (utf8 "byte_length") = 11 ∧
      escapedBytes (utf8 "terminal_descriptor") = 19 ∧
      escapedBytes (utf8 "terminal_descriptor_digest") = 26 ∧
      canonicalBytes (textValue "terminal") = 10 ∧
      canonicalBytes (textValue "output_prepared") = 17 := by decide
  have own := digestValue_bytes (env.digestOf descriptor.value)
  rcases records.event with terminal | ⟨pathDigest, contentDigest, byteLength, safe, prepared⟩
  · rw [terminal] at frame
    simp only [JournalEventV1.value, canonicalBytes_object (List.cons _ _), memberBytes,
      List.map_cons, List.map_nil, List.sum_cons, List.sum_nil, List.length_cons, List.length_nil,
      keys] at frame
    omega
  · have path := digestValue_bytes pathDigest
    have content := digestValue_bytes contentDigest
    have length := natValue_bytes safe
    rw [prepared] at frame
    simp only [JournalEventV1.value, canonicalBytes_object (List.cons _ _), memberBytes,
      List.map_cons, List.map_nil, List.sum_cons, List.sum_nil, List.length_cons, List.length_nil,
      keys] at frame
    omega

theorem parseInteger_range {value minimum maximum : Nat} {field : String} (low : minimum ≤ value)
    (high : value ≤ maximum) : parseInteger value field minimum maximum = .ok () := by
  rw [parseInteger, if_pos]
  omega

theorem parseTerminalResultDescriptor_iff {ended : RunEndV1}
    {descriptor : TerminalResultDescriptorV1} {field : String}
    (kind : descriptor.resultKind = ended.resultKind) (stop : descriptor.stop = ended.stop)
    (safe : descriptor.summary.IsSafe)
    (named : ∀ path format isPartial, descriptor.output = .file path format isPartial → path ≠ "") :
    parseTerminalResultDescriptor descriptor field = .ok () ↔
      canonicalBytes descriptor.value ≤ MAX_TERMINAL_DESCRIPTOR_BYTES_V1 := by
  have stops : parseTerminalRunStop descriptor.stop (field ++ ".stop") descriptor.resultKind
      = .ok () := by
    rw [kind, stop]
    cases ended <;> rfl
  have summary : parseTerminalSummary descriptor.summary (field ++ ".summary") = .ok () := by
    unfold parseTerminalSummary
    simp only [parseInteger_range (Nat.zero_le _) safe.itemsEmitted,
      parseInteger_range (Nat.zero_le _) safe.itemsDuplicate,
      parseInteger_range (Nat.zero_le _) safe.tasksCompleted,
      parseInteger_range (Nat.zero_le _) safe.tasksFailed,
      parseInteger_range (Nat.zero_le _) safe.targetRequests]
    rfl
  have output : parseTerminalOutput descriptor.output (field ++ ".output") = .ok () := by
    cases output : descriptor.output with
    | file path format isPartial => exact if_neg (named path format isPartial output)
    | inline isPartial => rfl
    | none => rfl
  unfold parseTerminalResultDescriptor
  rw [stops, summary, output]
  by_cases long : MAX_TERMINAL_DESCRIPTOR_BYTES_V1 < canonicalBytes descriptor.value
  · simp [bind, Except.bind, throw, throwThe, MonadExceptOf.throw, long]
  · simp [bind, Except.bind, pure, Except.pure, long, Nat.le_of_not_lt long]

theorem records_fits {descriptor : TerminalResultDescriptorV1}
    (records : body.Records env descriptor)
    (accepted : ∀ field, parseTerminalResultDescriptor descriptor field = .ok ())
    (short : canonicalBytes descriptor.value ≤ MAX_TERMINAL_DESCRIPTOR_BYTES_V1) :
    ∃ text, encodeJournalFrame env body = .ok text ∧
      text.length ≤ JOURNAL_EMERGENCY_FRAME_BODY_BYTES_V1 := by
  have bytes := records_bytes records
  have bound (first second : String) : parseBoundDescriptor env descriptor
      (env.digestOf descriptor.value) first second = .ok () := by
    simp [parseBoundDescriptor, calculateTerminalDescriptorDigest, accepted, bind, Except.bind,
      pure, Except.pure]
  have event : parseJournalEvent env body.event ("journal.frame" ++ ".event") = .ok () := by
    rcases records.event with terminal | ⟨pathDigest, contentDigest, byteLength, safe, prepared⟩
    · rw [terminal, parseJournalEvent, bound]
    · rw [prepared, parseJournalEvent, bound]
      exact parseInteger_range (Nat.zero_le _) safe
  have frame : parseJournalFrameBody env body "journal.frame" = .ok () := by
    rw [parseJournalFrameBody, parseInteger_range records.sequence.1 records.sequence.2,
      parseInteger_range (Nat.zero_le _) records.executionEpoch, event]
    rfl
  have limits : MAX_TERMINAL_DESCRIPTOR_BYTES_V1 + 3000 ≤ JOURNAL_EMERGENCY_FRAME_BODY_BYTES_V1 ∧
      JOURNAL_EMERGENCY_FRAME_BODY_BYTES_V1 ≤ MAX_FRAME_BODY_BYTES_V1 := by decide
  have fits : (canonicalJson body.value).length ≤ JOURNAL_EMERGENCY_FRAME_BODY_BYTES_V1 := by
    have same : (canonicalJson body.value).length = canonicalBytes body.value := rfl
    omega
  refine ⟨canonicalJson body.value, ?_, fits⟩
  rw [encodeJournalFrame, frame]
  have allowed : ¬MAX_FRAME_BODY_BYTES_V1 < (canonicalJson body.value).length := by omega
  simp [bind, Except.bind, pure, Except.pure, allowed]

theorem stop_bytes (stop : TerminalRunStopV1) : canonicalBytes stop.value ≤ 2000 := by
  cases stop with
  | stopped stop => cases stop <;> decide
  | completed stop =>
    cases stop with
    | sourceExhausted => decide
    | dateCutoffReached id =>
      have chars : id.text.toList.length ≤ 64 := by
        have canonical := id.canonical
        unfold isStableIdentifier at canonical
        split at canonical
        · nomatch canonical
        · rename_i first rest split
          simp only [Bool.and_eq_true, decide_eq_true_eq] at canonical
          rw [split, List.length_cons]
          omega
      have bytes := utf8_ofList_length id.text.toList
      rw [String.ofList_toList] at bytes
      have escaped := escapedBytes_le (utf8 id.text)
      have keys : escapedBytes (utf8 "kind") = 4 ∧ escapedBytes (utf8 "semantic_stop_id") = 16 ∧
          escapedBytes (utf8 "date_cutoff_reached") = 19 := by decide
      simp only [TerminalRunStopV1.value, RunCompletionStopV1.value, canonicalBytes_object,
        memberBytes, idValue, textValue, canonicalBytes_string, List.map_cons, List.map_nil,
        List.sum_cons, List.sum_nil, List.length_cons, List.length_nil, keys]
      omega

theorem summary_bytes {summary : ScrapeRunSummaryV1} (safe : summary.IsSafe) :
    canonicalBytes summary.value ≤ 1000 := by
  have keys : escapedBytes (utf8 "items_emitted") = 13 ∧
      escapedBytes (utf8 "items_duplicate") = 15 ∧ escapedBytes (utf8 "tasks_completed") = 15 ∧
      escapedBytes (utf8 "tasks_failed") = 12 ∧ escapedBytes (utf8 "target_requests") = 15 := by
    decide
  have emitted := natValue_bytes safe.itemsEmitted
  have duplicate := natValue_bytes safe.itemsDuplicate
  have completed := natValue_bytes safe.tasksCompleted
  have failed := natValue_bytes safe.tasksFailed
  have requests := natValue_bytes safe.targetRequests
  simp only [ScrapeRunSummaryV1.value, canonicalBytes_object, memberBytes, List.map_cons,
    List.map_nil, List.sum_cons, List.sum_nil, List.length_cons, List.length_nil, keys]
  omega

theorem descriptor_bounded {descriptor : TerminalResultDescriptorV1}
    (safe : descriptor.summary.IsSafe) :
    canonicalBytes descriptor.value ≤ canonicalBytes descriptor.output.value + 4000 := by
  have keys : escapedBytes (utf8 "descriptor_schema_version") = 25 ∧
      escapedBytes (utf8 "result_kind") = 11 ∧ escapedBytes (utf8 "stop") = 4 ∧
      escapedBytes (utf8 "summary") = 7 ∧ escapedBytes (utf8 "output") = 6 ∧
      canonicalBytes (natValue 1) = 1 := by decide
  have kind : canonicalBytes (textValue descriptor.resultKind.text) ≤ 16 := by
    cases descriptor.resultKind <;> decide
  have stop := stop_bytes descriptor.stop
  have summary := summary_bytes safe
  simp only [TerminalResultDescriptorV1.value, canonicalBytes_object, memberBytes, List.map_cons,
    List.map_nil, List.sum_cons, List.sum_nil, List.length_cons, List.length_nil, keys]
  omega

theorem descriptor_output (ended : RunEndV1) (env : RunEnvironment) (summary : ScrapeRunSummaryV1)
    (sink : Option FileRunOutputSinkV1) :
    (ended.descriptor env summary sink).output =
      if ended.resultKind = .scrapeFailure then .none
      else match sink with
        | none => .inline (decide (ended.resultKind = .scrapePartial))
        | some file => .file (ended.publishedPath env file) file.format
            (decide (ended.resultKind = .scrapePartial)) := by
  unfold RunEndV1.descriptor createTerminalDescriptor
  dsimp only
  split
  · rfl
  · cases sink with
    | none => rfl
    | some file => simp [FileRunOutputSinkV1.terminalOutput, RunEndV1.publishedPath]

theorem publishedPath_named {ended : RunEndV1} {file : FileRunOutputSinkV1} {field : String}
    (accepted : parseRunOutput (.file file.requestedPath file.format) field = .ok ()) :
    ended.publishedPath env file ≠ "" := by
  have named := (parseAbsoluteOutputPath_ok accepted).1
  unfold RunEndV1.publishedPath partialOutputPath
  split
  · simp [String.append_eq_empty_iff]
  · exact named

/-- The end of a run with an accepted destination can be recorded exactly when the path of its file,
as a JSON string writes it, leaves the rest of the descriptor its room. -/
theorem terminalizes_iff (env : RunEnvironment) (output : RunOutputV1) (field : String)
    (summary : ScrapeRunSummaryV1) (ended : RunEndV1) (sink : Option FileRunOutputSinkV1)
    (accepted : parseRunOutput output field = .ok ()) (written : output.WrittenBy sink)
    (safe : summary.IsSafe) :
    Terminalizes env (ended.descriptor env summary sink) ↔ ended.PathFits env summary sink := by
  have named : ∀ path format isPartial,
      (ended.descriptor env summary sink).output = .file path format isPartial → path ≠ "" := by
    intro path format isPartial
    rw [descriptor_output]
    split
    · exact nofun
    · cases sink with
      | none => exact nofun
      | some file =>
        rw [written file rfl] at accepted
        rintro ⟨⟩
        exact publishedPath_named accepted
  have checked (field : String) := @parseTerminalResultDescriptor_iff ended
    (ended.descriptor env summary sink) field rfl rfl safe named
  have fits : canonicalBytes (ended.descriptor env summary sink).value
      ≤ MAX_TERMINAL_DESCRIPTOR_BYTES_V1 ↔ ended.PathFits env summary sink := by
    have bounded := @descriptor_bounded (ended.descriptor env summary sink) safe
    by_cases failed : ended.resultKind = .scrapeFailure
    · rw [descriptor_output, if_pos failed] at bounded
      have short : canonicalBytes TerminalOutputV1.none.value ≤ 100 := by decide
      have limit : 4100 ≤ MAX_TERMINAL_DESCRIPTOR_BYTES_V1 := by decide
      have fits := (bounded.trans (Nat.add_le_add_right short _)).trans limit
      exact iff_of_true fits fun _ _ other => absurd failed other
    cases sink with
    | none =>
      rw [descriptor_output, if_neg failed] at bounded
      have short : ∀ isPartial, canonicalBytes (TerminalOutputV1.inline isPartial).value ≤ 100 := by
        decide
      have limit : 4100 ≤ MAX_TERMINAL_DESCRIPTOR_BYTES_V1 := by decide
      have fits := (bounded.trans (Nat.add_le_add_right (short _) _)).trans limit
      exact iff_of_true fits nofun
    | some file =>
      have whole : ended.descriptor env summary (some file) =
          { ended.descriptor env summary (some file) with
            output := .file (ended.publishedPath env file) file.format
              (decide (ended.resultKind = .scrapePartial)) } := by
        have output := descriptor_output ended env summary (some file)
        rw [if_neg failed] at output
        dsimp only at output ⊢
        rw [← output]
      rw [whole, descriptor_bytes]
      exact ⟨fun short other same _ => by cases same; exact short, fun room => room file rfl failed⟩
  constructor
  · exact fun terminalizes => fits.mp ((checked _).mp terminalizes.1)
  · intro room
    have short := fits.mpr room
    exact ⟨(checked _).mpr short, fun body records =>
      records_fits records (fun field => (checked field).mpr short) short⟩

/-- A listing that is written to a file under a path. -/
def listingTo (path : String) : RunEnvironment :=
  listing listingPolicy (listTask none .stopRun) (.file path .ndjson)

/-- The sink of such a listing, before its first item. -/
def listingSink (path : String) : FileRunOutputSinkV1 :=
  { requestedPath := path, format := .ndjson, csvColumns := none, maxOutputBytes := 65536
    written := [], bytesWritten := 0, itemsWritten := 0, closed := false }

/-- The summary of a run with one item. -/
def oneItem : ScrapeRunSummaryV1 :=
  { itemsEmitted := 1, itemsDuplicate := 0, tasksCompleted := 1, tasksFailed := 0
    targetRequests := 1 }

/-- The end of a listing with a plain destination can be recorded. -/
theorem terminalizes_plain : Terminalizes (listingTo "/data/orders.ndjson")
    ((RunEndV1.outcome .sourceExhausted).descriptor (listingTo "/data/orders.ndjson") oneItem
      (some (listingSink "/data/orders.ndjson"))) := by
  refine (terminalizes_iff (listingTo "/data/orders.ndjson") (.file "/data/orders.ndjson" .ndjson)
    "run.output" oneItem (.outcome .sourceExhausted) (some (listingSink "/data/orders.ndjson"))
    (by decide) ?_ ⟨by decide, by decide, by decide, by decide, by decide⟩).mpr ?_
  · intro file same
    cases same
    rfl
  · intro file same _
    cases same
    decide +kernel

/-- A path of control characters. -/
def controlPath (count : Nat) : String := String.ofList ('/' :: List.replicate count '\x01')

theorem controlPath_bytes (count : Nat) :
    utf8 (controlPath count) = 47 :: List.replicate count 1 := by
  rw [controlPath, utf8_ofList, List.flatMap_cons]
  have bytes : String.utf8EncodeChar '\x01' = [1] := by decide
  have slash : String.utf8EncodeChar '/' = [47] := by decide
  rw [slash, List.singleton_append]
  congr 1
  induction count with
  | zero => rfl
  | succ count ih => rw [List.replicate_succ, List.flatMap_cons, bytes, ih]; rfl

theorem controlPath_escaped (count : Nat) :
    escapedBytes (utf8 (controlPath count)) = 1 + 6 * count := by
  have slash : (escapeByte 47).length = 1 := by decide
  have control : (escapeByte 1).length = 6 := by decide
  rw [controlPath_bytes, escapedBytes, List.flatMap_cons, List.length_append, slash]
  congr 1
  induction count with
  | zero => rfl
  | succ count ih =>
    rw [List.replicate_succ, List.flatMap_cons, List.length_append, control, ih]
    omega

theorem controlPath_accepted {count : Nat} (positive : 0 < count)
    (short : count < MAX_OUTPUT_PATH_BYTES_V1) (field : String) :
    parseRunOutput (.file (controlPath count) .ndjson) field = .ok () := by
  have characters : (controlPath count).toList = '/' :: List.replicate count '\x01' :=
    String.toList_ofList
  have named : controlPath count ≠ "" := by
    intro same
    rw [same] at characters
    nomatch characters
  have within : ¬MAX_OUTPUT_PATH_BYTES_V1 < (utf8 (controlPath count)).length := by
    rw [controlPath_bytes, List.length_cons, List.length_replicate]
    omega
  have member {char : Char} (other : char ≠ '\x01') : char ∉ List.replicate count '\x01' :=
    fun found => other (List.eq_of_mem_replicate found)
  have bounded : '\x00' ∉ (controlPath count).toList := by
    rw [characters, List.mem_cons, not_or]
    exact ⟨by decide, member (by decide)⟩
  have normalized : resolveAbsolute (controlPath count).toList = (controlPath count).toList := by
    rw [characters]
    refine resolveAbsolute_single (member (by decide)) ?_ ?_ ?_
    · exact fun same => absurd (congrArg List.length same) (by simp; omega)
    · exact fun same => member (show '.' ≠ '\x01' by decide) (by rw [same]; simp)
    · exact fun same => member (show '.' ≠ '\x01' by decide) (by rw [same]; simp)
  have absolute : (controlPath count).toList.head? = some '/' := by rw [characters]; rfl
  unfold parseRunOutput parseAbsoluteOutputPath
  dsimp only
  rw [if_neg named, if_neg (by simp only [within, bounded, or_self, not_false_eq_true]),
    if_neg (by rw [absolute]; simp), if_neg (by rw [normalized]; simp)]

/-- A destination of control characters is accepted, but its descriptor is not. -/
theorem controlPath_not_terminalizes :
    ¬∀ (env : RunEnvironment) (output : RunOutputV1) (field : String)
      (summary : ScrapeRunSummaryV1) (ended : RunEndV1) (sink : Option FileRunOutputSinkV1),
      parseRunOutput output field = .ok () → output.WrittenBy sink → summary.IsSafe →
        Terminalizes env (ended.descriptor env summary sink) := by
  intro terminalizes
  obtain ⟨count, same⟩ : ∃ count, count = 3000 := ⟨_, rfl⟩
  let env := listingTo (controlPath count)
  let descriptor := (RunEndV1.outcome .sourceExhausted).descriptor env oneItem
    (some (listingSink (controlPath count)))
  have written : (RunOutputV1.file (controlPath count) .ndjson).WrittenBy
      (some (listingSink (controlPath count))) := by
    intro file same
    cases same
    rfl
  have within : 0 < count ∧ count < MAX_OUTPUT_PATH_BYTES_V1 := by rw [same]; decide
  have accepted := controlPath_accepted within.1 within.2 "run.output"
  have safe : oneItem.IsSafe := ⟨by decide, by decide, by decide, by decide, by decide⟩
  have named : controlPath count ≠ "" := (parseAbsoluteOutputPath_ok accepted).1
  have short := (@parseTerminalResultDescriptor_iff (.outcome .sourceExhausted) _ _ rfl rfl safe
    fun path format isPartial same => by cases same; exact named).mp
      (terminalizes env _ _ oneItem (.outcome .sourceExhausted) _ accepted written safe).1
  have bytes := descriptor_bytes descriptor (controlPath count) .ndjson false
  rw [controlPath_escaped] at bytes
  have long : canonicalBytes descriptor.value = _ := bytes
  have limit : MAX_TERMINAL_DESCRIPTOR_BYTES_V1 < 1 + 6 * count := by rw [same]; decide
  exact absurd (long.symm.trans_le short) (by omega)

end Klura
