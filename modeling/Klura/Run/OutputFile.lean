import Klura.Contracts.Stored
import Klura.Journal.Event
import Klura.Library.CsvText

/-! The file of a sink, which is edited in place item by item, and the file that an export writes. -/

namespace Klura

open StrictJson

/-- Why an export refused. -/
inductive RunResultErrorCode where
  | outputFormatInvalid
  | outputBudgetExhausted
  | csvProjectionInvalid
  deriving DecidableEq

/-- The errors of the two writers, and those of canonical text. -/
inductive OutputFailureV1 where
  | sink (code : RunOutputSinkErrorCode) (message : Units)
  | result (code : RunResultErrorCode) (message : Units)
  | contract (error : PublicContractError)
  deriving DecidableEq

/-- A column of an output: its name, and what its pointer finds in an item. -/
structure OutputColumnV1 where
  name : Units
  pointer : JsValue → Except PublicContractError JsValue

/-- An item: a value of JSON. -/
abbrev OutputItemV1 : Type := { value : JsValue // value.IsJson }

namespace OutputFile

/-- A CSV cell in quotes, with the quotes inside it doubled. -/
def escapeCsv (value : Units) : Units := quoteField value

/-- A number as the language turns it into a string. -/
def numberString : Double → Units
  | .finite negative magnitude => numberText negative magnitude
  | .infinite negative => if negative then ascii "-Infinity" else ascii "Infinity"

/-- The string that a column has for an item; where its pointer finds nothing, a writer raises its own
error. -/
def cellString (refused : Units → OutputFailureV1) (item : JsValue) (column : OutputColumnV1) :
    Except OutputFailureV1 Units :=
  match column.pointer item with
  | .error error => .error (refused error.message)
  | .ok .null => .ok []
  | .ok (.string text) => .ok text
  | .ok (.number value) => .ok (numberString value)
  | .ok (.boolean value) => .ok (if value then ascii "true" else ascii "false")
  | .ok value => (StrictJson.canonicalJson value).mapError .contract

/-- The cell of a column for an item. -/
def projectCsvCell (refused : Units → OutputFailureV1) (item : JsValue) (column : OutputColumnV1) :
    Except OutputFailureV1 Units :=
  (cellString refused item column).map escapeCsv

/-- The cells of a row with commas between them. -/
def projectCsvRow (refused : Units → OutputFailureV1) (columns : List OutputColumnV1)
    (item : JsValue) : Except OutputFailureV1 Units :=
  (columns.mapM (projectCsvCell refused item)).map [44].intercalate

/-- The header of a CSV file. -/
def headerText (columns : List OutputColumnV1) : Units :=
  [44].intercalate (columns.map fun column => escapeCsv column.name) ++ [10]

/-- A file that is cut at a length. -/
def ftruncate (file : Bytes) (length : Nat) : Bytes :=
  file.take length ++ List.replicate (length - file.length) 0

/-- A file with bytes written at a position. -/
def writeBytes (file bytes : Bytes) (position : Nat) : Bytes :=
  ftruncate file position ++ (bytes ++ file.drop (position + bytes.length))

/-- A sink with its file. -/
structure SinkV1 where
  format : RunOutputFormatV1
  csvColumns : Option (List OutputColumnV1)
  maxOutputBytes : Nat
  file : Bytes
  bytesWritten : Nat
  itemsWritten : Nat
  closed : Bool

/-- The error of a CSV output without declared columns. -/
def formatError : OutputFailureV1 :=
  .sink .outputFormatInvalid (ascii "CSV output requires declared collection columns")

namespace SinkV1

/-- An item as the sink's format writes it. -/
def encodeItem (format : RunOutputFormatV1) (csvColumns : Option (List OutputColumnV1))
    (item : JsValue) : Except OutputFailureV1 Units :=
  if format ≠ .csv then (StrictJson.canonicalJson item).mapError .contract
  else
    match csvColumns with
    | none => .error formatError
    | some columns => projectCsvRow (.sink .csvProjectionInvalid) columns item

/-- The text that the next item adds to the file. -/
def formatItem (sink : SinkV1) (item : JsValue) : Except OutputFailureV1 Units := do
  let encoded ← encodeItem sink.format sink.csvColumns item
  if sink.format = .json then
    return (if sink.itemsWritten = 0 then [] else [44]) ++ encoded
  else
    return encoded ++ [10]

/-- Checks that so many bytes more fit the declared output. -/
def reserve (sink : SinkV1) (bytes : Nat) : Except OutputFailureV1 Unit :=
  if sink.maxOutputBytes < sink.bytesWritten + bytes then
    .error (.sink .outputBudgetExhausted (ascii "declared output byte budget is exhausted"))
  else .ok ()

/-- The sink once one item has been written: a JSON array is opened at its end and closed again. -/
def write (sink : SinkV1) (item : JsValue) : Except OutputFailureV1 SinkV1 := do
  if sink.closed then throw (.sink .outputSinkFailure (ascii "output sink is closed"))
  let value ← sink.formatItem item
  let delta := utf8Length value
  sink.reserve delta
  if sink.format = .json then
    let opened := ftruncate sink.file (sink.bytesWritten - 1)
    return { sink with
      file := writeBytes opened (encodeUtf8 (value ++ [93])) (sink.bytesWritten - 1)
      bytesWritten := sink.bytesWritten + delta
      itemsWritten := sink.itemsWritten + 1 }
  else
    return { sink with
      file := writeBytes sink.file (encodeUtf8 value) sink.bytesWritten
      bytesWritten := sink.bytesWritten + delta
      itemsWritten := sink.itemsWritten + 1 }

/-- The text of a file without items. -/
def initialPrefix (format : RunOutputFormatV1) (csvColumns : Option (List OutputColumnV1)) :
    Except OutputFailureV1 Units :=
  match format with
  | .json => .ok [91, 93]
  | .ndjson => .ok []
  | .csv =>
    match csvColumns with
    | none => .error formatError
    | some columns => .ok (headerText columns)

/-- An empty sink that holds only its format's prefix. -/
def create (format : RunOutputFormatV1) (csvColumns : Option (List OutputColumnV1))
    (maxOutputBytes : Nat) : Except OutputFailureV1 SinkV1 := do
  if format = .csv ∧ csvColumns.isNone then throw formatError
  if maxOutputBytes < 1 then
    throw (.sink .outputSinkFailure (ascii "output byte budget is invalid"))
  let empty : SinkV1 :=
    { format, csvColumns, maxOutputBytes, file := [], bytesWritten := 0, itemsWritten := 0
      closed := false }
  let text ← initialPrefix format csvColumns
  empty.reserve (utf8Length text)
  return { empty with
    file := writeBytes empty.file (encodeUtf8 text) 0
    bytesWritten := utf8Length text }

/-- The sink once items have been written one by one. -/
def writeAll (sink : SinkV1) (items : List OutputItemV1) : Except OutputFailureV1 SinkV1 :=
  items.foldlM (fun sink item => sink.write item.val) sink

end SinkV1

/-- What an export has written. -/
structure ExportV1 where
  file : Bytes
  bytesWritten : Nat
  itemsWritten : Nat

namespace ExportV1

/-- An export once one more text has been written. -/
def write (maxOutputBytes : Nat) (exported : ExportV1) (value : Units) :
    Except OutputFailureV1 ExportV1 :=
  let bytes := encodeUtf8 value
  if maxOutputBytes < exported.bytesWritten + bytes.length then
    .error (.result .outputBudgetExhausted (ascii "declared output byte budget is exhausted"))
  else .ok { exported with
    file := exported.file ++ bytes, bytesWritten := exported.bytesWritten + bytes.length }

/-- An export once an item has been rendered and written. -/
def writeItem (maxOutputBytes : Nat) (render : Bool → JsValue → Except OutputFailureV1 Units)
    (exported : ExportV1) (item : JsValue) : Except OutputFailureV1 ExportV1 := do
  let value ← render (exported.itemsWritten = 0) item
  let written ← exported.write maxOutputBytes value
  return { written with itemsWritten := exported.itemsWritten + 1 }

/-- An export once items have been written one by one. -/
def writeItems (maxOutputBytes : Nat) (render : Bool → JsValue → Except OutputFailureV1 Units)
    (exported : ExportV1) (items : List OutputItemV1) : Except OutputFailureV1 ExportV1 :=
  items.foldlM (fun exported item => exported.writeItem maxOutputBytes render item.val) exported

end ExportV1

/-- The canonical text of an item. -/
def itemText (item : JsValue) : Except OutputFailureV1 Units :=
  (StrictJson.canonicalJson item).mapError .contract

/-- Writes committed items to one file, front to back. -/
def exportCommittedRunItems (format : RunOutputFormatV1)
    (csvColumns : Option (List OutputColumnV1)) (maxOutputBytes : Nat)
    (items : List OutputItemV1) : Except OutputFailureV1 ExportV1 := do
  let empty : ExportV1 := { file := [], bytesWritten := 0, itemsWritten := 0 }
  let missing : OutputFailureV1 :=
    .result .outputFormatInvalid (ascii "CSV output requires declared collection columns")
  match format, csvColumns with
  | .json, _ =>
    let opened ← empty.write maxOutputBytes [91]
    let written ← opened.writeItems maxOutputBytes
      (fun first item => (itemText item).map fun text => (if first then [] else [44]) ++ text) items
    written.write maxOutputBytes [93]
  | .ndjson, _ =>
    empty.writeItems maxOutputBytes
      (fun _ item => (itemText item).map fun text => text ++ [10]) items
  | .csv, none => throw missing
  | .csv, some columns =>
    let headed ← empty.write maxOutputBytes (headerText columns)
    headed.writeItems maxOutputBytes
      (fun _ item => (projectCsvRow (.result .csvProjectionInvalid) columns item).map
        fun row => row ++ [10]) items

end OutputFile

end Klura
