import Klura.Contracts.Fields

/-! Versions of packages, the ranges of runtime versions, and instants. -/

namespace Klura

namespace StrictJson

/-- The number that a row of digits denotes. -/
def digitsValue (text : Units) : Nat :=
  text.foldl (fun value unit => 10 * value + (unit.toNat - 48)) 0

/-- Whether a text is a numeral without leading zeros. -/
def isNumeral (text : Units) : Bool :=
  text == [48] || (!text.isEmpty && text.head? != some 48 && text.all isDigit)

/-- Whether a text is a part of a prerelease: a numeral, or a word that is not all digits. -/
def isPrereleasePart (text : Units) : Bool :=
  isNumeral text ||
    (text.all (fun unit => isDigit unit || isLower unit || isUpper unit || unit == 45) &&
      text.any fun unit => !isDigit unit)

/-- A version in its parts: its numbers, and those of its prerelease when it has one. -/
structure ParsedVersion where
  core : List Units
  prerelease : List Units

/-- The parts of a version; what comes before the first hyphen are its numbers. -/
def parseVersion (text : Units) : ParsedVersion :=
  let core := text.takeWhile fun unit => unit != 45
  { core := core.splitOn 46
    prerelease :=
      match text.drop core.length with
      | [] => []
      | _ :: prerelease => prerelease.splitOn 46 }

/-- Whether a text is a canonical version without build metadata. -/
def isPackageVersion (text : Units) : Bool :=
  let version := parseVersion text
  decide (version.core.length = 3) && version.core.all isNumeral &&
    version.prerelease.all isPrereleasePart

/-- A version of a package. -/
def parsePackageVersion : JsValue → Units → Except PublicContractError Units :=
  parseForm isPackageVersion "must be canonical SemVer 2.0.0 without build metadata" 64

/-- The magnitude of a finite number. -/
def finiteUnits : Double → Nat
  | .finite _ magnitude => magnitude.units
  | _ => 0

/-- The magnitude of the number that a numeral is read as. -/
def numeralUnits (text : Units) : Nat := finiteUnits (Double.nearest false (digitsValue text))

/-- Compares versions by their numbers, the first that differ. -/
def compareCores : List Units → List Units → Option Int
  | left :: lefts, right :: rights =>
    if numeralUnits left = numeralUnits right then compareCores lefts rights
    else if numeralUnits left < numeralUnits right then some (-1)
    else some 1
  | _, _ => none

/-- Compares parts of prereleases that differ: a numeral comes before a word. -/
def comparePart (left right : Units) : Int :=
  match left.all isDigit, right.all isDigit with
  | true, true => if numeralUnits left < numeralUnits right then -1 else 1
  | true, false => -1
  | false, true => 1
  | false, false => if left.map UInt16.toNat < right.map UInt16.toNat then -1 else 1

/-- Compares prereleases by their parts, the first that differ; a longer one comes later. -/
def comparePrereleases : List Units → List Units → Int
  | [], [] => 0
  | [], _ :: _ => -1
  | _ :: _, [] => 1
  | left :: lefts, right :: rights =>
    if left = right then comparePrereleases lefts rights else comparePart left right

/-- Compares versions; one that has a prerelease comes before the one that has none. -/
def comparePackageVersions (left right : Units) : Int :=
  let left := parseVersion left
  let right := parseVersion right
  match compareCores left.core right.core with
  | some order => order
  | none =>
    match left.prerelease, right.prerelease with
    | [], [] => 0
    | [], _ :: _ => 1
    | _ :: _, [] => -1
    | lefts, rights => comparePrereleases lefts rights

/-- The value of a member that a record is known to have. -/
def memberOf (fields : Fields) (key : String) : JsValue := (member fields (ascii key)).getD .null

/-- Versions from one up to another. -/
structure RuntimeRangeV1 where
  minimumInclusive : Units
  maximumExclusive : Units

/-- A range of versions that is not empty. -/
def parseRuntimeRange (value : JsValue) (field : Units) :
    Except PublicContractError RuntimeRangeV1 := do
  let fields ← parseExactRecord value field [ascii "minimum_inclusive", ascii "maximum_exclusive"]
  let minimumInclusive ← parsePackageVersion (memberOf fields "minimum_inclusive")
    (memberField field (ascii "minimum_inclusive"))
  let maximumExclusive ← parsePackageVersion (memberOf fields "maximum_exclusive")
    (memberField field (ascii "maximum_exclusive"))
  if 0 ≤ comparePackageVersions minimumInclusive maximumExclusive then
    fail field "minimum_inclusive must be lower than maximum_exclusive"
  else .ok { minimumInclusive, maximumExclusive }

/-- Whether a runtime's version is within a range. -/
def runtimeSupportsVersion (range : RuntimeRangeV1) (version : Units) : Bool :=
  decide (comparePackageVersions range.minimumInclusive version ≤ 0) &&
    decide (comparePackageVersions version range.maximumExclusive < 0)

/-- Whether a text has the form of an instant: digits between its separators. -/
def isInstantForm (text : Units) : Bool :=
  decide (text.length = 20) &&
    (text.zip (ascii "0000-00-00T00:00:00Z")).all fun pair =>
      if pair.2 = 48 then isDigit pair.1 else pair.1 == pair.2

/-- Whether a year has a leap day. -/
def isLeapYear (year : Nat) : Bool :=
  decide (year % 4 = 0 ∧ (year % 100 ≠ 0 ∨ year % 400 = 0))

/-- The days of a month. -/
def daysOf (year month : Nat) : Nat :=
  if month = 2 then if isLeapYear year then 29 else 28
  else if month = 4 ∨ month = 6 ∨ month = 9 ∨ month = 11 then 30
  else 31

/-- Whether an instant of the form is one of the calendar. -/
def isRealInstant (text : Units) : Bool :=
  let part (from_ count : Nat) : Nat := digitsValue ((text.drop from_).take count)
  let month := part 5 2
  let day := part 8 2
  decide (1 ≤ month ∧ month ≤ 12 ∧ 1 ≤ day ∧ day ≤ daysOf (part 0 4) month ∧
    part 11 2 < 24 ∧ part 14 2 < 60 ∧ part 17 2 < 60)

/-- An instant to the second. -/
def parseRfc3339Instant (value : JsValue) (field : Units) : Except PublicContractError Units := do
  let text ← parseForm isInstantForm "must be a UTC RFC 3339 instant with second precision" 20
    value field
  if isRealInstant text then .ok text else fail field "must be a real UTC RFC 3339 instant"

example : (comparePackageVersions (ascii "1.2.3-rc.2") (ascii "1.2.3-rc.10"),
    comparePackageVersions (ascii "1.2.3-rc.10") (ascii "1.2.3"),
    isRealInstant (ascii "2023-02-29T00:00:00Z")) = (-1, -1, false) := by
  decide +kernel

end StrictJson

end Klura
