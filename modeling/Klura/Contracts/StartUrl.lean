import Klura.Browser.ResourcePolicy
import Klura.Library.UriComponents

/-! The route grammar of a caller's start URL, and the canonical form of a URL that it admits. -/

namespace Klura

namespace StartUrl

open StrictJson

/-- A segment of a route: a text, or a slot for one of a bounded number of bytes. -/
inductive StartUrlPathSegmentV1 where
  | literal (value : Units)
  | slot (slotId : Units) (minUtf8Bytes maxUtf8Bytes : Nat)

/-- Whether a path ends in a slash. -/
inductive TrailingSlashV1 where
  | required
  | forbidden
  deriving DecidableEq

/-- The path of a route. -/
structure StartUrlPathV1 where
  segments : List StartUrlPathSegmentV1
  trailingSlash : TrailingSlashV1

/-- A parameter that a route admits, with at most one value. -/
structure StartUrlParameterV1 where
  key : Units
  maxValueUtf8Bytes : Nat

/-- A route of start URLs. -/
structure StartUrlTemplateV1 where
  id : Units
  origin : Units
  path : StartUrlPathV1
  query : List StartUrlParameterV1

/-- The most segments of a path. -/
def MAX_PATH_SEGMENTS_V1 : Nat := 64

/-- The most parameters of a query. -/
def MAX_QUERY_PARAMETERS_V1 : Nat := 32

/-- The most bytes of a segment. -/
def MAX_SEGMENT_BYTES_V1 : Nat := 512

/-- The most bytes of a parameter's value. -/
def MAX_QUERY_VALUE_BYTES_V1 : Nat := 2048

/-- Whether a text has a control character of ASCII. -/
def containsControl (value : Units) : Bool :=
  value.any fun unit => decide (unit.toNat ≤ 0x1F ∨ unit.toNat = 0x7F)

/-- Whether a text is a segment that no URL parser takes for something else. -/
def isSafePathSegment (value : Units) : Bool :=
  !value.isEmpty && value != [46] && value != [46, 46] && !value.contains 47 &&
    !value.contains 92 && !containsControl value

/-- Checks that a text is such a segment. -/
def assertSafePathSegment (value field : Units) : Except PublicContractError Unit :=
  if isSafePathSegment value then .ok ()
  else fail field
    "must be a non-empty path segment without separators, dot segments, or controls"

/-- A segment of a route. -/
def parsePathSegment (value : JsValue) (field : Units) :
    Except PublicContractError StartUrlPathSegmentV1 :=
  match value with
  | .object entries =>
    if isText (memberOrNull entries "kind") "literal" then do
      let fields ← parseExactRecord value field [ascii "kind", ascii "value"]
      let literal ← StrictJson.parseString (memberOrNull fields "value")
        (memberField field (ascii "value")) MAX_SEGMENT_BYTES_V1
      assertSafePathSegment literal (memberField field (ascii "value"))
      .ok (.literal literal)
    else if isText (memberOrNull entries "kind") "slot" then do
      let fields ← parseExactRecord value field
        [ascii "kind", ascii "slot_id", ascii "min_utf8_bytes", ascii "max_utf8_bytes"]
      let minimum ← StrictJson.parseInteger (memberOrNull fields "min_utf8_bytes")
        (memberField field (ascii "min_utf8_bytes")) 1 MAX_SEGMENT_BYTES_V1
      let maximum ← StrictJson.parseInteger (memberOrNull fields "max_utf8_bytes")
        (memberField field (ascii "max_utf8_bytes")) minimum MAX_SEGMENT_BYTES_V1
      let slotId ← parseStableContractId (memberOrNull fields "slot_id")
        (memberField field (ascii "slot_id"))
      .ok (.slot slotId minimum maximum)
    else fail (memberField field (ascii "kind")) "must be literal or slot"
  | _ => fail field "must be a path segment object"

/-- The elements of an array of no more than a bound. -/
def parseItems (value : JsValue) (field : Units) (maximum : Nat) (things : String) :
    Except PublicContractError (List JsValue) :=
  let refused : Except PublicContractError (List JsValue) := .error {
    field
    message := ascii "must contain at most " ++ natText maximum ++ ascii " " ++ ascii things }
  match value with
  | .array items => if maximum < items.length then refused else .ok items
  | _ => refused

/-- Whether a path is to end in a slash. -/
def parseTrailingSlash (value : JsValue) (field : Units) :
    Except PublicContractError TrailingSlashV1 :=
  if isText value "required" then .ok .required
  else if isText value "forbidden" then .ok .forbidden
  else fail field "must be required or forbidden"

/-- The path of a route. -/
def parsePath (value : JsValue) (field : Units) : Except PublicContractError StartUrlPathV1 := do
  let fields ← parseExactRecord value field [ascii "segments", ascii "trailing_slash"]
  let segmentsField := memberField field (ascii "segments")
  let items ← parseItems (memberOrNull fields "segments") segmentsField MAX_PATH_SEGMENTS_V1
    "segments"
  let trailingSlash ← parseTrailingSlash (memberOrNull fields "trailing_slash")
    (memberField field (ascii "trailing_slash"))
  let segments ← parseElements parsePathSegment segmentsField 0 items
  .ok { segments, trailingSlash }

/-- A key of a query. -/
def parseQueryKey (value : JsValue) (field : Units) : Except PublicContractError Units := do
  let key ← StrictJson.parseString value field 128
  if key.isEmpty || key.contains 38 || key.contains 61 || containsControl key then
    fail field "must be a non-empty query key without delimiters or controls"
  else .ok key

/-- Whether a value is the number one. -/
def isOne : JsValue → Bool
  | .number (.finite false magnitude) => decide (magnitude.units = unitsPerOne)
  | _ => false

/-- A parameter of a route. -/
def parseParameter (value : JsValue) (field : Units) :
    Except PublicContractError StartUrlParameterV1 := do
  let fields ← parseExactRecord value field
    [ascii "key", ascii "max_values", ascii "max_value_utf8_bytes"]
  if isOne (memberOrNull fields "max_values") then do
    let key ← parseQueryKey (memberOrNull fields "key") (memberField field (ascii "key"))
    let maxValueUtf8Bytes ← StrictJson.parseInteger (memberOrNull fields "max_value_utf8_bytes")
      (memberField field (ascii "max_value_utf8_bytes")) 0 MAX_QUERY_VALUE_BYTES_V1
    .ok { key, maxValueUtf8Bytes }
  else fail (memberField field (ascii "max_values")) "must be 1"

/-- The query of a route. -/
def parseQuery (value : JsValue) (field : Units) :
    Except PublicContractError (List StartUrlParameterV1) := do
  let items ← parseItems value field MAX_QUERY_PARAMETERS_V1 "parameters"
  let query ← parseElements parseParameter field 0 items
  if (query.map fun parameter => (encodeUtf8 parameter.key).map UInt8.toNat).IsChain (· < ·) then
    .ok query
  else fail field "keys must be unique and sorted by UTF-8 byte order"

/-- The path that encoded segments make up. -/
def serializePath (segments : List Units) (trailingSlash : TrailingSlashV1) : Units :=
  if segments = [] then [47]
  else
    let serialized := segments.flatMap fun segment => 47 :: encodeURIComponent segment
    if trailingSlash = .required then serialized ++ [47] else serialized

/-- Whether a form keeps a byte: letters, digits and some marks, and spaces for a plus sign. -/
def isFormByte (byte : UInt8) : Bool :=
  let code := byte.toNat
  decide (48 ≤ code ∧ code ≤ 57 ∨ 65 ≤ code ∧ code ≤ 90 ∨ 97 ≤ code ∧ code ≤ 122) ||
    [32, 42, 45, 46, 95].contains code

/-- The bytes of a text in a form. -/
def formBytes (text : Units) : Bytes :=
  (escapeBytes isFormByte (encodeUtf8 text)).map fun byte => if byte = 32 then 43 else byte

/-- The URL class, and the text of the URL of an origin once its path is set and pairs are appended
to its query. -/
structure UrlClass extends UrlClassV1 where
  canonical : Units → Units → List (Units × Units) → Units
  /-- The path of an HTTPS URL starts with a slash. -/
  slashed : ∀ {text : Units} {url : UrlV1}, parse text = some url → url.protocol = ascii "https:" →
    url.pathname.head? = some 47
  /-- A path of encoded segments none of which is a dot segment and the pairs of a form are written
  behind the origin as they are, and what is written is read with this origin, path and query. -/
  written : ∀ {origin : Units} {base : UrlV1}, parse origin = some base →
    base.protocol = ascii "https:" → base.origin = origin →
      ∀ (segments : List Units) (trailingSlash : TrailingSlashV1) (pairs : List (Units × Units)),
        (∀ segment ∈ segments, isSafePathSegment segment = true ∧ WellPaired segment) →
        (∀ pair ∈ pairs, WellPaired pair.1 ∧ WellPaired pair.2) →
          let pathname := serializePath segments trailingSlash
          let search := searchText (joinPairs formBytes pairs)
          canonical origin pathname pairs = origin ++ pathname ++ search ∧
            parse (origin ++ pathname ++ search) =
              some ⟨ascii "https:", [], [], origin, pathname, search, []⟩

/-- The bytes that percent-encoded bytes stand for, none where an escape is cut short. -/
def unescapeBytes : Bytes → Option Bytes
  | [] => some []
  | first :: rest =>
    if first = 37 then
      match rest with
      | second :: third :: rest =>
        match hexValue second, hexValue third with
        | some high, some low => (unescapeBytes rest).map (UInt8.ofNat (16 * high + low) :: ·)
        | _, _ => none
      | _ => none
    else (unescapeBytes rest).map (first :: ·)

/-- The text of a component of a URL, none where the bytes of its escapes are no UTF-8. -/
def decodeURIComponent (component : Units) : Option Units :=
  (unescapeBytes (encodeUtf8 component)).bind fun bytes =>
    -- Bytes that are no UTF-8 are not those of the text that they are read as.
    if encodeUtf8 (decodeUtf8 bytes) = bytes then some (decodeUtf8 bytes) else none

/-- The text of a component. -/
def decodeComponent (value field : Units) : Except PublicContractError Units :=
  match decodeURIComponent value with
  | some text => .ok text
  | none => fail field "must use valid UTF-8 percent encoding"

/-- The text of a component of a query. -/
def decodeQueryComponent (value field : Units) : Except PublicContractError Units :=
  decodeComponent (value.map fun unit => if unit = 43 then 32 else unit) field

/-- The field of an element. -/
def indexField (field : Units) (index : Nat) : Units :=
  field ++ ascii "[" ++ natText index ++ ascii "]"

/-- The text of a path's piece, where a route expects a segment. -/
def parseUrlPiece (field place piece : Units) (expected : StartUrlPathSegmentV1) :
    Except PublicContractError Units := do
  let segment ← decodeComponent piece place
  match expected with
  | .literal value =>
    if segment ≠ value then fail field "does not match a literal path segment" else .ok segment
  | .slot _ minimum maximum => do
    assertSafePathSegment segment place
    if utf8Length segment < minimum ∨ maximum < utf8Length segment then
      .error {
        field := place
        message := ascii "must contain " ++ natText minimum ++ ascii " to " ++ natText maximum ++
          ascii " UTF-8 bytes" }
    else .ok segment

/-- The texts of a path's pieces, from one on. -/
def parseUrlPieces (field : Units) : Nat → List Units → List StartUrlPathSegmentV1 →
    Except PublicContractError (List Units)
  | _, [], _ => .ok []
  | _, _ :: _, [] => fail field "does not match the template path"
  | index, piece :: pieces, expected :: rest => do
    let segment ← parseUrlPiece field (indexField (memberField field (ascii "path")) index) piece
      expected
    let segments ← parseUrlPieces field (index + 1) pieces rest
    .ok (segment :: segments)

/-- The decoded segments of a path that a route admits. -/
def parseUrlPath (pathname : Units) (path : StartUrlPathV1) (field : Units) :
    Except PublicContractError (List Units) :=
  let actualTrailingSlash := decide (pathname.getLast? = some 47)
  let raw := pathname.drop 1
  let pieces := if raw = [] then [] else raw.splitOn 47
  let pieces := if actualTrailingSlash && !pieces.isEmpty then pieces.dropLast else pieces
  if actualTrailingSlash ≠ decide (path.trailingSlash = .required) then
    fail field "does not match the template trailing-slash policy"
  else if pieces.length ≠ path.segments.length then
    fail field "does not match the template path segment count"
  else parseUrlPieces field 0 pieces path.segments

/-- The values of a query's entries, from one on, behind those of the ones before. -/
def parseUrlEntries (query : List StartUrlParameterV1) (field : Units) :
    Nat → OrderedMap Units Units → List Units →
      Except PublicContractError (OrderedMap Units Units)
  | _, values, [] => .ok values
  | index, values, entry :: rest => do
    let place := indexField (memberField field (ascii "query")) index
    let key ← decodeQueryComponent (entry.takeWhile (· != 61)) (memberField place (ascii "key"))
    let value ← decodeQueryComponent ((entry.dropWhile (· != 61)).drop 1)
      (memberField place (ascii "value"))
    match query.find? fun parameter => parameter.key == key with
    | none => fail (memberField place (ascii "key")) "is not declared by the template"
    | some policy =>
      if (values.get? key).isSome then
        fail (memberField place (ascii "key")) "must not be duplicated"
      else if policy.maxValueUtf8Bytes < utf8Length value then
        .error {
          field := memberField place (ascii "value")
          message :=
            ascii "must be at most " ++ natText policy.maxValueUtf8Bytes ++ ascii " UTF-8 bytes" }
      else parseUrlEntries query field (index + 1) (values.set key value) rest

/-- The decoded values of a query that a route admits. -/
def parseUrlQuery (search : Units) (query : List StartUrlParameterV1) (field : Units) :
    Except PublicContractError (OrderedMap Units Units) :=
  let rawQuery := if search.head? = some 63 then search.drop 1 else search
  if rawQuery = [] then .ok [] else parseUrlEntries query field 0 [] (rawQuery.splitOn 38)

/-- The pairs of a canonical URL, in the order of the route. -/
def canonicalPairs (query : List StartUrlParameterV1) (values : OrderedMap Units Units) :
    List (Units × Units) :=
  query.filterMap fun parameter => (values.get? parameter.key).map fun value =>
    (parameter.key, value)

section Urls

variable (urls : UrlClass)

/-- A route of start URLs. -/
def parseStartUrlTemplate (value : JsValue) (field : Units) :
    Except PublicContractError StartUrlTemplateV1 := do
  let fields ← parseExactRecord value field
    [ascii "id", ascii "origin", ascii "path", ascii "query"]
  let id ← parseStableContractId (memberOrNull fields "id") (memberField field (ascii "id"))
  let origin ← parseHttpsOrigin urls.toUrlClassV1 (memberOrNull fields "origin")
    (memberField field (ascii "origin"))
  let path ← parsePath (memberOrNull fields "path") (memberField field (ascii "path"))
  let query ← parseQuery (memberOrNull fields "query") (memberField field (ascii "query"))
  .ok { id, origin, path, query }

/-- The canonical form of a start URL that a route admits. -/
def validateStartUrl (template : StartUrlTemplateV1) (value : JsValue) (field : Units) :
    Except PublicContractError Units := do
  let text ← StrictJson.parseString value field MAX_STRING_BYTES
  match urls.parse text with
  | none => fail field "must be an absolute HTTPS URL"
  | some url =>
    if url.protocol ≠ ascii "https:" ∨ url.origin ≠ template.origin ∨ url.username ≠ [] ∨
        url.password ≠ [] ∨ url.hash ≠ [] then
      fail field "does not match the template origin"
    else do
      let pathSegments ← parseUrlPath url.pathname template.path field
      let query ← parseUrlQuery url.search template.query field
      .ok (urls.canonical template.origin
        (serializePath pathSegments template.path.trailingSlash)
        (canonicalPairs template.query query))

end Urls

end StartUrl

end Klura
