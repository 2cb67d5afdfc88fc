import Klura.Library.JsonReading

/-! The canonical JSON text of a value, and the strict reader that refuses repeated keys. -/

namespace Klura

/-- An error of the contract class, with the field it checks and its message. -/
structure PublicContractError where
  field : Units
  message : Units
  deriving DecidableEq

namespace StrictJson

/-- The text of a natural number. -/
def natText (value : Nat) : Units := (JsonNumber.digits value).map UInt8.toUInt16

/-- A failed check of a field. -/
def fail {α : Type} (field : Units) (message : String) : Except PublicContractError α :=
  .error { field, message := ascii message }

/-- The text of a finite double, by which both zeros are written alike. -/
def numberText (negative : Bool) (magnitude : Magnitude) : Units :=
  let decimal := magnitude.decimal
  let coefficient := if negative then -decimal.coefficient else decimal.coefficient
  (JsonNumber.text { coefficient, exponent := decimal.exponent }).map UInt8.toUInt16

/-- A hexadecimal digit in lower case. -/
def lowerHex (value : Fin 16) : HexDigit := { upper := false, value }

/-- A code unit escaped by its number. -/
def unicodeEscape (unit : UInt16) : Piece :=
  .hex (lowerHex (Fin.ofNat 16 (unit.toNat / 4096))) (lowerHex (Fin.ofNat 16 (unit.toNat / 256)))
    (lowerHex (Fin.ofNat 16 (unit.toNat / 16))) (lowerHex (Fin.ofNat 16 unit.toNat))

/-- A code unit that stands for itself where a string may hold it. -/
def plainUnit (unit : UInt16) : Piece :=
  if plain : isPlain unit = true then .plain unit plain else unicodeEscape unit

/-- The way JSON.stringify writes a code unit that is not part of a pair. -/
def quoteUnit (unit : UInt16) : Piece :=
  if unit = 8 then .short .backspace
  else if unit = 9 then .short .tab
  else if unit = 10 then .short .lineFeed
  else if unit = 12 then .short .formFeed
  else if unit = 13 then .short .carriageReturn
  else if unit = 34 then .short .quotation
  else if unit = 92 then .short .backslash
  else if isHighSurrogate unit || isLowSurrogate unit then unicodeEscape unit
  else plainUnit unit

/-- The way JSON.stringify writes a character. -/
def quotePoint : CodePoint → StringSyntax
  | .single unit => [quoteUnit unit]
  | .pair high low => [plainUnit high, plainUnit low]

/-- The way JSON.stringify writes a string. -/
def quoteString (text : Units) : StringSyntax := (codePoints text).flatMap quotePoint

/-- The text JSON.stringify gives a string. -/
def stringText (text : Units) : Units := (quoteString text).text

/-- Whether one key sorts no later than another, by code units. -/
def compareJsonKeys (left right : Units) : Bool :=
  !decide (right.map UInt16.toNat < left.map UInt16.toNat)

/-- Entries in the order their keys sort in. -/
def sortEntries {α : Type} (entries : List (Units × α)) : List (Units × α) :=
  entries.insertionSort fun left right => compareJsonKeys left.1 right.1 = true

/-- The texts of a list with a comma between neighbours. -/
def joinComma : List Units → Units
  | [] => []
  | [only] => only
  | first :: second :: rest => first ++ 44 :: joinComma (second :: rest)

/-- The text of one object entry. -/
def entryText (key value : Units) : Units := stringText key ++ 58 :: value

mutual

/-- The text of a value at a depth, or the error of the first part that has none. -/
def renderJson : JsValue → Units → Nat → Except PublicContractError Units
  | value, field, depth =>
    if 100 < depth then fail field "exceeds the canonical JSON depth limit"
    else
      match value with
      | .null => .ok (ascii "null")
      | .boolean true => .ok (ascii "true")
      | .boolean false => .ok (ascii "false")
      | .string text => .ok (stringText text)
      | .number (.infinite _) => fail field "must not contain a non-finite number"
      | .number (.finite negative magnitude) => .ok (numberText negative magnitude)
      | .array items => do
        let texts ← renderItems items field 0 (depth + 1)
        .ok (91 :: (joinComma texts ++ [93]))
      | .object entries => do
        -- The parts are rendered in key order, so the first error is the first in that order.
        let texts ← (sortEntries (renderEntries entries field (depth + 1))).mapM fun entry =>
          entry.2.map (entryText entry.1)
        .ok (123 :: (joinComma texts ++ [125]))

/-- The texts of an array's values. -/
def renderItems : List JsValue → Units → Nat → Nat → Except PublicContractError (List Units)
  | [], _, _, _ => .ok []
  | item :: rest, field, index, depth => do
    let text ← renderJson item (field ++ ascii "[" ++ natText index ++ ascii "]") depth
    let texts ← renderItems rest field (index + 1) depth
    .ok (text :: texts)

/-- What each of an object's entries is rendered as. -/
def renderEntries : List (Units × JsValue) → Units → Nat →
    List (Units × Except PublicContractError Units)
  | [], _, _ => []
  | (key, value) :: rest, field, depth =>
    (key, renderJson value (field ++ ascii "." ++ key) depth) :: renderEntries rest field depth

end

/-- The canonical text of a value: sorted keys and no blanks. -/
def canonicalJson (value : JsValue) : Except PublicContractError Units :=
  renderJson value (ascii "$") 0

/-- Whether a code unit is white space or ends a line, as regular expressions see it. -/
def isWhitespace (unit : UInt16) : Bool :=
  let code := unit.toNat
  decide (9 ≤ code ∧ code ≤ 13) || code == 0x20 || code == 0xA0 || code == 0x1680
    || decide (0x2000 ≤ code ∧ code ≤ 0x200A) || code == 0x2028 || code == 0x2029
    || code == 0x202F || code == 0x205F || code == 0x3000 || code == 0xFEFF

/-- The source from the next code unit on that is no white space. -/
def whitespace (source : Units) : Units := source.dropWhile isWhitespace

/-- The slice of the source up to the next quotation mark that no backslash precedes. -/
def closingQuote : Units → Option (Units × Units)
  | [] => none
  | current :: rest =>
    if current = 34 then some ([34], rest)
    else if current = 92 then
      -- The cursor moves on by two, past the end when the backslash is the last code unit.
      match rest with
      | [] => none
      | escaped :: after =>
        (closingQuote after).map fun found => (current :: escaped :: found.1, found.2)
    else if current.toNat < 0x20 then none
    else (closingQuote rest).map fun found => (current :: found.1, found.2)

variable (field : Units) (maximumDepth : Nat)

/-- Consumes a string and returns what it stands for. -/
def consumeString : Units → Except PublicContractError (Units × Units)
  | [] => fail field "must be valid JSON"
  | quote :: inside =>
    if quote ≠ 34 then fail field "must be valid JSON"
    else
      match closingQuote inside with
      | none => fail field "must be valid JSON"
      | some (slice, after) =>
        match jsonParse (quote :: slice) with
        | some (.string parsed) => .ok (parsed, after)
        | _ => fail field "must be valid JSON"

/-- Consumes a literal or a number, as much of one as the source has. -/
def consumeLiteral (source : Units) : Except PublicContractError Units :=
  if (ascii "true").isPrefixOf source then .ok (source.drop 4)
  else if (ascii "false").isPrefixOf source then .ok (source.drop 5)
  else if (ascii "null").isPrefixOf source then .ok (source.drop 4)
  else
    match readNumeral source with
    | some (_, after) => .ok after
    | none => fail field "must be valid JSON"

/-- Consumes the values of an array; each round takes at least the mark behind a value. -/
def consumeItems (consumeValue : Units → Except PublicContractError Units) :
    Nat → Units → Except PublicContractError Units
  | 0, _ => fail field "must be valid JSON"
  | rounds + 1, source => do
    let after ← consumeValue source
    match whitespace after with
    | [] => fail field "must be valid JSON"
    | mark :: rest =>
      if mark = 93 then .ok rest
      else if mark ≠ 44 then fail field "must be valid JSON"
      else consumeItems consumeValue rounds rest

/-- Consumes the members of an object, none of whose keys may be among those seen before. -/
def consumeMembers (consumeValue : Units → Except PublicContractError Units) :
    Nat → List Units → Units → Except PublicContractError Units
  | 0, _, _ => fail field "must be valid JSON"
  | rounds + 1, keys, source => do
    let (key, afterKey) ← consumeString field (whitespace source)
    if key ∈ keys then
      .error { field, message := ascii "contains duplicate object key " ++ stringText key }
    else
      match whitespace afterKey with
      | [] => fail field "must be valid JSON"
      | colon :: value =>
        if colon ≠ 58 then fail field "must be valid JSON"
        else do
          let after ← consumeValue value
          match whitespace after with
          | [] => fail field "must be valid JSON"
          | mark :: rest =>
            if mark = 125 then .ok rest
            else if mark ≠ 44 then fail field "must be valid JSON"
            else consumeMembers consumeValue rounds (key :: keys) rest

/-- Consumes a value with so many levels left, which count down as the depth goes up. -/
def consumeValue : Nat → Units → Except PublicContractError Units
  | 0, _ =>
    .error { field, message := ascii "exceeds maximum depth " ++ natText maximumDepth }
  | levels + 1, source =>
    match whitespace source with
    | [] => consumeLiteral field []
    | current :: rest =>
      if current = 34 then (consumeString field (current :: rest)).map Prod.snd
      else if current = 91 then
        if (whitespace rest).head? = some 93 then .ok (whitespace rest).tail
        else consumeItems field (consumeValue levels) (whitespace rest).length (whitespace rest)
      else if current = 123 then
        if (whitespace rest).head? = some 125 then .ok (whitespace rest).tail
        else
          consumeMembers field (consumeValue levels) (whitespace rest).length [] (whitespace rest)
      else consumeLiteral field (current :: rest)

/-- Checks that a source is one value whose objects repeat no key. -/
def assertNoDuplicateJsonObjectKeys (source : Units) : Except PublicContractError Unit := do
  let rest ← consumeValue field maximumDepth (maximumDepth + 1) source
  if whitespace rest ≠ [] then fail field "must be valid JSON" else .ok ()

/-- The value of a source within its bounds, whose objects repeat no key. -/
def parseStrictJson (source : Units) (maximumBytes : Nat) : Except PublicContractError JsValue := do
  if maximumBytes < utf8Length source then
    .error {
      field
      message := ascii "must be at most " ++ natText maximumBytes ++ ascii " UTF-8 bytes" }
  else
    assertNoDuplicateJsonObjectKeys field maximumDepth source
    match jsonParse source with
    | some value => .ok value
    | none => fail field "must be valid JSON"

end StrictJson

end Klura
