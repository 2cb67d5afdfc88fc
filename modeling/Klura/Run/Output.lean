import Klura.Journal.Append

/-! The file a run writes its committed items to, and how a run's terminal result is recorded. -/

namespace Klura

/-- A CSV cell in quotes, with the quotes inside it doubled. -/
def escapeCsv (value : Bytes) : Bytes :=
  34 :: value.flatMap (fun byte => if byte = 34 then [34, 34] else [byte]) ++ [34]

/-- The cell of one column of one item. -/
def projectCsvCell (item : JsonValueV1) (column : CsvColumnV1) : Except RunError Bytes :=
  match resolveJsonPointer item column.pointer "run.csv_column" with
  | .error issue => .error (.runOutputSink .csvProjectionInvalid issue.raised.message)
  | .ok .null => .ok (escapeCsv [])
  | .ok (.string value) => .ok (escapeCsv value)
  | .ok value => .ok (escapeCsv (canonicalJson value))

/-- The cells of a row, in column order. -/
def projectCsvRow (item : JsonValueV1) : List CsvColumnV1 → Except RunError (List Bytes)
  | [] => .ok []
  | column :: rest => do
    let cell ← projectCsvCell item column
    let cells ← projectCsvRow item rest
    return cell :: cells

/-- The path a partial output is published under. -/
def partialOutputPath (requestedPath : String) (runId : RunIdV1) : String :=
  requestedPath ++ ".partial." ++
    String.ofList (runId.text.map fun byte => Char.ofNat byte.toNat)

/-- How far a sink's valid prefix reaches. -/
structure OutputSinkProgressV1 where
  byteOffset : Nat
  prefixDigest : Sha256DigestV1

namespace FileRunOutputSinkV1

/-- The text of the sink's file, which is valid after every item. -/
def text (sink : FileRunOutputSinkV1) : Bytes :=
  if sink.format = .json then sink.written ++ utf8 "]" else sink.written

/-- The error of a sink that has been closed. -/
def closedError : RunError := .runOutputSink .outputSinkFailure "output sink is closed"

/-- The error of an item that does not fit the declared output. -/
def budgetError : RunError :=
  .runOutputSink .outputBudgetExhausted "declared output byte budget is exhausted"

/-- The error of a CSV output without declared columns. -/
def formatError : RunError :=
  .runOutputSink .outputFormatInvalid "CSV output requires declared collection columns"

/-- An item as the sink's format writes it. -/
def encodeItem (sink : FileRunOutputSinkV1) (item : JsonValueV1) : Except RunError Bytes :=
  if sink.format ≠ .csv then .ok (canonicalJson item)
  else
    match sink.csvColumns with
    | none => .error formatError
    | some columns => (projectCsvRow item columns).map (joinText (utf8 ","))

/-- The text the next item adds to the file. -/
def formatItem (sink : FileRunOutputSinkV1) (item : JsonValueV1) : Except RunError Bytes := do
  let encoded ← sink.encodeItem item
  if sink.format = .json then
    return (if sink.itemsWritten = 0 then [] else utf8 ",") ++ encoded
  else
    return encoded ++ utf8 "\n"

/-- The bytes the next item would add, without writing it. -/
def previewItem (sink : FileRunOutputSinkV1) (item : JsonValueV1) : Except RunError Nat := do
  if sink.closed then throw closedError
  let value ← sink.formatItem item
  return value.length

/-- The sink once one committed item has been written. -/
def write (sink : FileRunOutputSinkV1) (item : JsonValueV1) :
    Except RunError FileRunOutputSinkV1 := do
  if sink.closed then throw closedError
  let value ← sink.formatItem item
  if sink.maxOutputBytes < sink.bytesWritten + value.length then throw budgetError
  return { sink with
    written := sink.written ++ value
    bytesWritten := sink.bytesWritten + value.length
    itemsWritten := sink.itemsWritten + 1 }

/-- The digest of the complete private prefix. -/
def progress (env : RunEnvironment) (sink : FileRunOutputSinkV1) : OutputSinkProgressV1 :=
  { byteOffset := sink.bytesWritten, prefixDigest := env.sha256Digest sink.text }

/-- The output a terminal result names for this sink. -/
def terminalOutput (env : RunEnvironment) (sink : FileRunOutputSinkV1) (isPartial : Bool) :
    TerminalOutputV1 :=
  .file (if isPartial then partialOutputPath sink.requestedPath env.runId else sink.requestedPath)
    sink.format isPartial

/-- An empty sink that holds only its format's prefix. -/
def create (requestedPath : String) (format : RunOutputFormatV1)
    (csvColumns : Option (List CsvColumnV1)) (maxOutputBytes : Nat) :
    Except RunError FileRunOutputSinkV1 := do
  if format = .csv ∧ csvColumns.isNone then throw formatError
  if maxOutputBytes < 1 then
    throw (.runOutputSink .outputSinkFailure "output byte budget is invalid")
  let header := joinText (utf8 ",")
    ((csvColumns.getD []).map fun column => escapeCsv (utf8 column.name)) ++ utf8 "\n"
  let file := match format with
    | .json => utf8 "[]"
    | .ndjson => []
    | .csv => header
  if maxOutputBytes < file.length then throw budgetError
  return { requestedPath, format, csvColumns, maxOutputBytes,
           written := if format = .json then utf8 "[" else file,
           bytesWritten := file.length, itemsWritten := 0, closed := false }

/-- The sink once a list of committed items has been written again. -/
def writeAll (sink : FileRunOutputSinkV1) : List JsonValueV1 → Except RunError FileRunOutputSinkV1
  | [] => .ok sink
  | item :: rest => do
    let sink ← sink.write item
    sink.writeAll rest

end FileRunOutputSinkV1

/-- Opens an empty sink, or recreates its private prefix from the committed items. -/
def openFileRunOutputSink (env : RunEnvironment) (committedItems : List JsonValueV1) :
    Except RunError (Option FileRunOutputSinkV1) :=
  match env.output with
  | .inline => .ok none
  | .file requestedPath format => do
    let sink ← FileRunOutputSinkV1.create requestedPath format env.collection.csvColumns
      env.policy.maxOutputBytes
    let sink ← sink.writeAll committedItems
    return some sink

/-- What a run returns to its caller. -/
structure LocalScrapeRunResultV1 where
  kind : RunResultKindV1
  summary : ScrapeRunSummaryV1
  stop : TerminalRunStopV1
  deriving DecidableEq

/-- What a terminal frame says of a run that ends with this kind of result. -/
def createTerminalDescriptor (env : RunEnvironment) (summary : ScrapeRunSummaryV1)
    (resultKind : RunResultKindV1) (stop : TerminalRunStopV1)
    (sink : Option FileRunOutputSinkV1) : TerminalResultDescriptorV1 :=
  let isPartial := decide (resultKind = .scrapePartial)
  { resultKind, stop, summary,
    output :=
      if resultKind = .scrapeFailure then .none
      else match sink with
        | none => .inline isPartial
        | some sink => sink.terminalOutput env isPartial }

/-- Raises the error of a check that is not an item's. -/
def orThrow {α : Type} : Except RunError α → RunProgram α
  | .ok value => pure value
  | .error error => throw error

/-- Closes the sink and links its file to the destination. -/
def commitPrepared : RunProgram PUnit := do
  let world ← get
  match world.sink with
  | none => return ()
  | some sink =>
    if sink.closed then throw FileRunOutputSinkV1.closedError
    else
      -- The file is closed before the link, so a refused link leaves the sink closed.
      set { world with sink := some { sink with closed := true } }
      if world.linkSucceeds then return ()
      else throw (.runOutputSink .outputExists "output path already exists")

/-- Completes a prepared publication, which an already closed sink refuses. -/
def completePrepared : RunProgram PUnit := do
  let world ← get
  match world.sink with
  | none => return ()
  | some sink =>
    if sink.closed then throw FileRunOutputSinkV1.closedError
    else set { world with sink := some { sink with closed := true } }

/-- Publishes the sink's file under the path its descriptor names. -/
def publishFileOutput (env : RunEnvironment) (descriptor : TerminalResultDescriptorV1) :
    RunProgram PUnit := do
  let world ← get
  match world.sink with
  | none => return ()
  | some sink =>
    match descriptor.output with
    | .file path _ isPartial =>
      if sink.closed then throw FileRunOutputSinkV1.closedError
      else if path ≠ (if isPartial then partialOutputPath sink.requestedPath env.runId
          else sink.requestedPath) then
        throw (.runOutputSink .outputSinkFailure "prepared output path does not match descriptor")
      else
        let contentDigest := env.sha256Digest sink.text
        let byteLength := sink.text.length
        let descriptorDigest ← orThrow (calculateTerminalDescriptorDigest env descriptor)
        appendEmergency env (.outputPrepared (env.sha256Digest (utf8 path)) contentDigest byteLength
          descriptor descriptorDigest)
        tryCatch commitPrepared fun error =>
          if !error.isRunOutputSinkError then throw error
          else tryCatch completePrepared fun _ => throw .outputPublicationPending
        appendEmergency env (.outputCommitted contentDigest byteLength descriptorDigest)
    | _ => throw (.runOutputSink .outputSinkFailure "file sink has no file terminal descriptor")

/-- Appends the terminal frame of a descriptor. -/
def appendTerminal (env : RunEnvironment) (descriptor : TerminalResultDescriptorV1) :
    RunProgram PUnit := do
  let descriptorDigest ← orThrow (calculateTerminalDescriptorDigest env descriptor)
  appendEmergency env (.terminal descriptor descriptorDigest)

/-- Closes the sink and removes its private file. -/
def discardSink : RunProgram PUnit :=
  modify fun world =>
    { world with sink := world.sink.map fun sink => { sink with closed := true } }

/-- Records the result of a run that finished its work. -/
def finalizeSuccessfulOutput (env : RunEnvironment) (stop : RunCompletionStopV1) :
    RunProgram PUnit := do
  let world ← get
  let descriptor := createTerminalDescriptor env world.state.summary .scrapeOutcome
    (.completed stop) world.sink
  publishFileOutput env descriptor
  appendTerminal env descriptor

/-- The kind of result a run that stops early ends with. -/
def incompleteKind (summary : ScrapeRunSummaryV1) : RunResultKindV1 :=
  if 0 < summary.itemsEmitted then .scrapePartial else .scrapeFailure

/-- Records the result of a run that stopped early, and publishes what it had committed. -/
def finalizeIncompleteOutput (env : RunEnvironment) (stop : RunStopV1) :
    RunProgram LocalScrapeRunResultV1 := do
  let world ← get
  let summary := world.state.summary
  let kind := incompleteKind summary
  if world.sink.isNone ∨ stop = .outputSinkFailure ∨ kind = .scrapeFailure then do
    discardSink
    appendTerminal env (createTerminalDescriptor env summary kind (.stopped stop) none)
    return { kind, summary, stop := .stopped stop }
  else
    tryCatch
      (do
        let descriptor := createTerminalDescriptor env summary kind (.stopped stop) world.sink
        publishFileOutput env descriptor
        appendTerminal env descriptor
        return { kind, summary, stop := .stopped stop })
      fun error =>
        if !error.isRunOutputSinkError then throw error
        else do
          discardSink
          appendTerminal env
            (createTerminalDescriptor env summary kind (.stopped .outputSinkFailure) none)
          return { kind, summary, stop := .stopped .outputSinkFailure }

/-- Ends a run with a stop. -/
def finish (env : RunEnvironment) (stop : RunStopV1) : RunProgram LocalScrapeRunResultV1 :=
  finalizeIncompleteOutput env stop

/-- Ends a run that finished its work, as incomplete when its output cannot be published. -/
def finalizeSuccessfulRun (env : RunEnvironment) (stop : RunCompletionStopV1) :
    RunProgram LocalScrapeRunResultV1 :=
  tryCatch
    (do
      finalizeSuccessfulOutput env stop
      let world ← get
      return { kind := .scrapeOutcome, summary := world.state.summary, stop := .completed stop })
    fun error =>
      if !error.isRunOutputSinkError then throw error
      else finalizeIncompleteOutput env .outputSinkFailure

end Klura
