import Klura.Library.Check
import Klura.Library.CivilDates
import Klura.Run.Contract

/-! The values that semantic stops compare: dates, instants and integers. -/

namespace Klura

/-- How a semantic stop compares its values. -/
inductive SemanticStopComparatorV1 where
  | isoDate
  | rfc3339Instant
  | integer
  deriving DecidableEq

/-- A value that a semantic stop compares. -/
inductive SemanticComparableValueV1 where
  | bigint (value : Int)
  | number (value : Int)
  deriving DecidableEq

/-- The order of two integers. -/
def orderOf (left right : Int) : Int := if left = right then 0 else if left < right then -1 else 1

/-- Compares two values of one kind. -/
def compareSemanticValues :
    SemanticComparableValueV1 → SemanticComparableValueV1 → Except ContractIssueV1 Int
  | .bigint left, .bigint right => .ok (orderOf left right)
  | .number left, .number right => .ok (orderOf left right)
  | _, _ => .error { field := "semantic_stop", message := "comparator value kinds do not match" }

/-! The forms of dates and instants, read from the left. -/

/-- Whether a byte is a decimal digit. -/
def isDecimalDigit (byte : UInt8) : Bool := decide (48 ≤ byte.toNat ∧ byte.toNat ≤ 57)

/-- So many digits, and what stands behind them. -/
def digitsAt (count : Nat) (text : Bytes) : Option (Bytes × Bytes) :=
  if (text.take count).length = count ∧ (text.take count).all isDecimalDigit then
    some (text.take count, text.drop count)
  else none

/-- What stands behind a byte. -/
def literalAt (byte : UInt8) : Bytes → Option Bytes
  | [] => none
  | first :: rest => if first = byte then some rest else none

/-- The digits of a year, a month and a day, and what stands behind them. -/
def dateAt (text : Bytes) : Option ((Bytes × Bytes × Bytes) × Bytes) := do
  let (year, rest) ← digitsAt 4 text
  let rest ← literalAt 45 rest
  let (month, rest) ← digitsAt 2 rest
  let rest ← literalAt 45 rest
  let (day, rest) ← digitsAt 2 rest
  some ((year, month, day), rest)

/-- The digits of an hour and a minute, and what stands behind them. -/
def clockAt (text : Bytes) : Option ((Bytes × Bytes) × Bytes) := do
  let (hour, rest) ← digitsAt 2 text
  let rest ← literalAt 58 rest
  let (minute, rest) ← digitsAt 2 rest
  some ((hour, minute), rest)

/-- The digits of a fraction behind its point, if there is one, and what stands behind them. -/
def fractionAt (text : Bytes) : Option (Option Bytes × Bytes) :=
  match literalAt 46 text with
  | none => some (none, text)
  | some rest =>
    -- An offset follows the fraction, so the fraction has all the digits that there are.
    let digits := rest.takeWhile isDecimalDigit
    if 1 ≤ digits.length ∧ digits.length ≤ 9 then
      some (some digits, rest.dropWhile isDecimalDigit)
    else none

/-- Whether a text is an offset, or the letter for none. -/
def isOffset : Bytes → Bool
  | [] => false
  | first :: rest =>
    if first = 90 then rest.isEmpty
    else (first = 43 || first = 45) && (clockAt rest).any fun clock => clock.2.isEmpty

/-- What an instant's form has found. -/
structure InstantGroupsV1 where
  year : Bytes
  month : Bytes
  day : Bytes
  hour : Bytes
  minute : Bytes
  second : Bytes
  fraction : Option Bytes
  offset : Bytes

/-- The parts of a text that has the form of an instant. -/
def matchInstant (text : Bytes) : Option InstantGroupsV1 := do
  let ((year, month, day), rest) ← dateAt text
  let rest ← literalAt 84 rest
  let ((hour, minute), rest) ← clockAt rest
  let rest ← literalAt 58 rest
  let (second, rest) ← digitsAt 2 rest
  let (fraction, offset) ← fractionAt rest
  if isOffset offset then some { year, month, day, hour, minute, second, fraction, offset } else none

/-- The parts of a text that has the form of a date. -/
def matchIsoDate (text : Bytes) : Option (Bytes × Bytes × Bytes) := do
  let (date, rest) ← dateAt text
  if rest.isEmpty then some date else none

/-! What is parsed. -/

/-- The number that digits denote. -/
def decimalValue (digits : Bytes) : Nat :=
  digits.foldl (fun value digit => 10 * value + (digit.toNat - 48)) 0

/-- A number in decimal digits. -/
def parseDecimal (value : Bytes) (field : String) : Except ContractIssueV1 Nat :=
  if value = [] ∨ !value.all isDecimalDigit then .error { field, message := "must be decimal digits" }
  else if JsonNumber.maxSafeInteger < decimalValue value then
    .error { field, message := "is out of range" }
  else .ok (decimalValue value)

/-- Checks that the calendar has a date. -/
def assertCalendarDate (year month day : Nat) (field : String) : Except ContractIssueV1 Unit :=
  if month < 1 ∨ 12 < month ∨ day < 1 ∨ daysInMonth year month < day then
    .error { field, message := "must be a real proleptic Gregorian calendar date" }
  else .ok ()

/-- The number of days from 1970-01-01 to a date. -/
def daysFromCivil (year month day : Int) : Int :=
  let adjustedYear := year - (if month ≤ 2 then 1 else 0)
  let era := adjustedYear / 400
  let yearOfEra := adjustedYear - era * 400
  let transformedMonth := month + (if 2 < month then -3 else 9)
  let dayOfYear := (153 * transformedMonth + 2) / 5 + day - 1
  let dayOfEra := yearOfEra * 365 + yearOfEra / 4 - yearOfEra / 100 + dayOfYear
  era * 146097 + dayOfEra - 719468

/-- The seconds that an offset is ahead of UTC. -/
def parseOffset (value : Bytes) (field : String) : Except ContractIssueV1 Int :=
  if value = utf8 "Z" then .ok 0
  else do
    let sign : Int := if value.head? = some 43 then 1 else -1
    let hour ← parseDecimal ((value.drop 1).take 2) s!"{field}.offset_hour"
    let minute ← parseDecimal ((value.drop 4).take 2) s!"{field}.offset_minute"
    if 23 < hour ∨ 59 < minute then .error { field, message := "must contain a real UTC offset" }
    else .ok (sign * (hour * 3600 + minute * 60))

/-- A string's bytes, of which there are no more than a bound. -/
def parseBoundedText (text : Bytes) (field : String) (maxBytes : Nat) :
    Except ContractIssueV1 Bytes :=
  if maxBytes < text.length then
    .error { field, message := s!"must be at most {maxBytes} UTF-8 bytes" }
  else .ok text

/-- The day of a date in the form YYYY-MM-DD. -/
def parseIsoDate (value : Bytes) (field : String) : Except ContractIssueV1 Int := do
  let text ← parseBoundedText value field 10
  match matchIsoDate text with
  | none => .error { field, message := "must be an ISO date in YYYY-MM-DD form" }
  | some (yearText, monthText, dayText) => do
    let year ← parseDecimal yearText s!"{field}.year"
    let month ← parseDecimal monthText s!"{field}.month"
    let day ← parseDecimal dayText s!"{field}.day"
    assertCalendarDate year month day field
    .ok (daysFromCivil year month day)

/-- The nanosecond of an instant with its offset. -/
def parseRfc3339Instant (value : Bytes) (field : String) : Except ContractIssueV1 Int := do
  let text ← parseBoundedText value field 64
  match matchInstant text with
  | none => .error { field, message := "must be an RFC 3339 instant with an explicit offset" }
  | some groups => do
    let year ← parseDecimal groups.year s!"{field}.year"
    let month ← parseDecimal groups.month s!"{field}.month"
    let day ← parseDecimal groups.day s!"{field}.day"
    let hour ← parseDecimal groups.hour s!"{field}.hour"
    let minute ← parseDecimal groups.minute s!"{field}.minute"
    let second ← parseDecimal groups.second s!"{field}.second"
    assertCalendarDate year month day field
    if 23 < hour ∨ 59 < minute ∨ 59 < second then
      .error { field, message := "must contain a real clock time without leap seconds" }
    else do
      let fraction := groups.fraction.getD []
      let fractionalNanoseconds :=
        decimalValue (fraction ++ List.replicate (9 - fraction.length) 48)
      let offset ← parseOffset groups.offset field
      let seconds : Int :=
        daysFromCivil year month day * 86400 + (hour * 3600 + minute * 60 + second - offset)
      .ok (seconds * 1000000000 + fractionalNanoseconds)

/-- The value that a semantic stop compares. -/
def parseComparable (value : JsonValueV1) (comparator : SemanticStopComparatorV1) (field : String) :
    Except ContractIssueV1 SemanticComparableValueV1 :=
  match comparator with
  | .integer =>
    match value with
    | .number number =>
      match number.safeInteger with
      | some integer => .ok (.number integer)
      | none => .error { field, message := "must be a safe integer" }
    | _ => .error { field, message := "must be a safe integer" }
  | .isoDate =>
    match value with
    | .string text => (parseIsoDate text field).map .bigint
    | _ => .error { field, message := "must be a string" }
  | .rfc3339Instant =>
    match value with
    | .string text => (parseRfc3339Instant text field).map .bigint
    | _ => .error { field, message := "must be a string" }

/-! The stops that compare such values. -/

/-- The integer that a value is compared by. -/
def SemanticComparableValueV1.integer : SemanticComparableValueV1 → Int
  | .bigint value | .number value => value

/-- The integer that a value is compared by, when it is read by a comparator. -/
def readComparable (value : JsonValueV1) (comparator : SemanticStopComparatorV1) (field : String) :
    Except ContractIssueV1 Int :=
  (parseComparable value comparator field).map SemanticComparableValueV1.integer

/-- A cutoff whose bound is looked up in the input, and which reads all its values alike. -/
def dateCutoff (id : StableContractIdV1) (boundArgument : JsonValueV1 → Option JsonValueV1)
    (itemValuePointer : JsonPointerV1) (comparator : SemanticStopComparatorV1)
    (order : SemanticOrderV1) (inclusive : Bool) : SemanticStopV1 where
  id
  boundArgument input :=
    match boundArgument input with
    | none => .ok none
    | some value => (readComparable value comparator s!"run.semantic_stop.{id.text}.bound").map some
  itemValuePointer
  comparator value := readComparable value comparator s!"run.semantic_stop.{id.text}.item"
  order
  inclusive

end Klura
