import Klura.Library.Decimal
import Mathlib.Data.List.Sort

/-! JSON values and the canonical text every digest, byte budget and durable write is taken of. -/

namespace Klura

/-- A JSON value, whose strings are their UTF-8 bytes and whose objects keep insertion order. -/
inductive JsonValueV1 where
  | null
  | boolean (value : Bool)
  | number (value : JsonNumber)
  | string (value : Bytes)
  | array (items : List JsonValueV1)
  | object (entries : List (String × JsonValueV1))

/-- The UTF-16 code units of a string, by which object keys are ordered. -/
def utf16Units (text : String) : List Nat :=
  let bytes := utf8 text
  -- The bytes of a text without wider characters are its code units already.
  if bytes.all (· < 128) then bytes.map UInt8.toNat
  else
    text.toList.flatMap fun char =>
      let code := char.toNat
      if code < 0x10000 then [code]
      else [0xD800 + (code - 0x10000) / 0x400, 0xDC00 + (code - 0x10000) % 0x400]

/-- Whether one key sorts no later than another. -/
def compareJsonKeys (left right : String) : Bool :=
  !decide (utf16Units right < utf16Units left)

/-- One lower-case hexadecimal digit. -/
def hexDigit (value : Nat) : UInt8 :=
  if value < 10 then UInt8.ofNat (48 + value) else UInt8.ofNat (87 + value)

/-- The lower-case hexadecimal digits of a number, padded to a width, before a text. -/
def hexDigits : Nat → Nat → Bytes → Bytes
  | 0, _, text => text
  | width + 1, value, text => hexDigits width (value / 16) (hexDigit (value % 16) :: text)

/-- The escape of a control character, some of which have one of their own. -/
def escapeControl (code : Nat) : Bytes :=
  match code with
  | 8 => utf8 "\\b"
  | 9 => utf8 "\\t"
  | 10 => utf8 "\\n"
  | 12 => utf8 "\\f"
  | 13 => utf8 "\\r"
  | _ => utf8 "\\u" ++ hexDigits 4 code []

/-- The bytes one byte of a string takes inside JSON. -/
def escapeByte (byte : UInt8) : Bytes :=
  let code := byte.toNat
  if code < 32 then escapeControl code
  else if code = 34 ∨ code = 92 then [92, byte]
  else [byte]

/-- The JSON text of a string. -/
def stringText (text : Bytes) : Bytes :=
  -- Only bytes of single-byte characters are ever escaped.
  34 :: text.flatMap escapeByte ++ [34]

/-- The texts of a list with a separator between neighbours. -/
def joinText (separator : Bytes) : List Bytes → Bytes
  | [] => []
  | [only] => only
  | first :: second :: rest => first ++ (separator ++ joinText separator (second :: rest))

/-- Object entries in key order, which is the order canonical text writes them in. -/
def sortEntries (entries : List (String × Bytes)) : List (String × Bytes) :=
  entries.insertionSort fun left right => compareJsonKeys left.1 right.1

/-- The text of one object entry. -/
def entryText (entry : String × Bytes) : Bytes :=
  stringText (utf8 entry.1) ++ (58 :: entry.2)

mutual

/-- The canonical text of a value: sorted keys and no spaces. -/
def canonicalJson : JsonValueV1 → Bytes
  | .null => utf8 "null"
  | .boolean value => if value then utf8 "true" else utf8 "false"
  | .number value => value.text
  | .string value => stringText value
  | .array items => 91 :: joinText [44] (canonicalItems items) ++ [93]
  | .object entries =>
    123 :: joinText [44] ((sortEntries (canonicalEntries entries)).map entryText) ++ [125]

/-- The canonical texts of an array's values. -/
def canonicalItems : List JsonValueV1 → List Bytes
  | [] => []
  | item :: rest => canonicalJson item :: canonicalItems rest

/-- The keys of an object's entries with the canonical texts of their values. -/
def canonicalEntries : List (String × JsonValueV1) → List (String × Bytes)
  | [] => []
  | entry :: rest => (entry.1, canonicalJson entry.2) :: canonicalEntries rest

end

mutual

/-- How many containers deep a value nests below its own level. -/
def jsonDepth : JsonValueV1 → Nat
  | .null | .boolean _ | .number _ | .string _ => 0
  | .array items => itemsDepth items
  | .object entries => entriesDepth entries

/-- The depth an array's values add to it. -/
def itemsDepth : List JsonValueV1 → Nat
  | [] => 0
  | item :: rest => max (jsonDepth item + 1) (itemsDepth rest)

/-- The depth an object's values add to it. -/
def entriesDepth : List (String × JsonValueV1) → Nat
  | [] => 0
  | entry :: rest => max (jsonDepth entry.2 + 1) (entriesDepth rest)

end

mutual

/-- The field of the first part of a value that canonical text refuses as too deep. -/
def canonicalIssue : JsonValueV1 → String → Nat → Option String
  | .array items, field, depth =>
    if 100 < depth then some field else itemsIssue items field 0 (depth + 1)
  | .object entries, field, depth =>
    if 100 < depth then some field
    else
      -- The parts are rendered in key order, so the first refusal is the first in that order.
      let issues := (entriesIssues entries field (depth + 1)).insertionSort
        fun left right => compareJsonKeys left.1 right.1
      issues.findSome? fun issue => issue.2
  | _, field, depth => if 100 < depth then some field else none

/-- The field of the first of an array's values that is refused. -/
def itemsIssue : List JsonValueV1 → String → Nat → Nat → Option String
  | [], _, _, _ => none
  | item :: rest, field, index, depth =>
    (canonicalIssue item s!"{field}[{index}]" depth).orElse fun _ =>
      itemsIssue rest field (index + 1) depth

/-- The refusal each of an object's entries meets, if any. -/
def entriesIssues : List (String × JsonValueV1) → String → Nat → List (String × Option String)
  | [], _, _ => []
  | entry :: rest, field, depth =>
    (entry.1, canonicalIssue entry.2 (field ++ "." ++ entry.1) depth) ::
      entriesIssues rest field depth

end

/-- The bytes the canonical text of a value takes. -/
def canonicalBytes (value : JsonValueV1) : Nat :=
  (canonicalJson value).length

/-- The value of an object's key, when the value is an object that has it. -/
def JsonValueV1.member (value : JsonValueV1) (key : String) : Option JsonValueV1 :=
  match value with
  | .object entries => entries.lookup key
  | _ => none

/-- An object's entries with one key set, in place when it was there already. -/
def setEntry (entries : List (String × JsonValueV1)) (key : String) (value : JsonValueV1) :
    List (String × JsonValueV1) :=
  match entries with
  | [] => [(key, value)]
  | entry :: rest =>
    if entry.1 = key then (key, value) :: rest else entry :: setEntry rest key value

theorem canonicalBytes_pos (value : JsonValueV1) : 0 < canonicalBytes value := by
  unfold canonicalBytes
  cases value with
  | null => decide
  | boolean value => cases value <;> decide
  | number value => rw [canonicalJson]; exact value.text_pos
  | string value => rw [canonicalJson]; exact Nat.succ_pos _
  | array items => rw [canonicalJson]; exact Nat.succ_pos _
  | object entries => rw [canonicalJson]; exact Nat.succ_pos _

example : canonicalJson (.object [("b", .number (.ofInt (-12))), ("a", .array [.null, .string (utf8 "x\n")])])
    = utf8 "\x7b\"a\":[null,\"x\\n\"],\"b\":-12\x7d" := by decide +kernel

end Klura
