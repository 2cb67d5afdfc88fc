import Klura.Browser.Paused
import Klura.Library.Utf8

/-! How the bytes of a request's body are counted and held to the limits of its rule. -/

namespace Klura

open StrictJson

/-- The value of a digit of a base64 text. -/
def base64Digit (unit : UInt16) : Option Nat :=
  let code := unit.toNat
  if 65 ≤ code ∧ code ≤ 90 then some (code - 65)
  else if 97 ≤ code ∧ code ≤ 122 then some (code - 71)
  else if 48 ≤ code ∧ code ≤ 57 then some (code + 4)
  else if code = 43 then some 62
  else if code = 47 then some 63
  else none

/-- The first of the bytes that a group of base64 digits stands for. -/
def base64Bytes (count value : Nat) : Bytes :=
  ([value / 65536, value / 256 % 256, value % 256].map UInt8.ofNat).take count

/-- The bytes of a text that is base64 just as it is written for them. -/
def canonicalBase64 : Units → Option Bytes
  | [] => some []
  | [first, second, 61, 61] => do
    let first ← base64Digit first
    let second ← base64Digit second
    -- The four bits that no byte uses are written as zeros.
    if second % 16 = 0 then some (base64Bytes 1 (first * 262144 + second * 4096)) else none
  | [first, second, third, 61] => do
    let first ← base64Digit first
    let second ← base64Digit second
    let third ← base64Digit third
    if third % 4 = 0 then
      some (base64Bytes 2 (first * 262144 + second * 4096 + third * 64))
    else none
  | first :: second :: third :: fourth :: rest => do
    let first ← base64Digit first
    let second ← base64Digit second
    let third ← base64Digit third
    let fourth ← base64Digit fourth
    let later ← canonicalBase64 rest
    some (base64Bytes 3 (first * 262144 + second * 4096 + third * 64 + fourth) ++ later)
  | _ => none

/-- The bytes of a base64 text, or the first count above a bound when it is longer. -/
def boundedBase64ByteLength (value : Units) (maximumBytes : Nat) : Option (Nat × Bytes) :=
  let maximumEncoded := ((maximumBytes + 1) * 4 + 2) / 3 + 4
  if maximumEncoded < value.length then some (maximumBytes + 1, [])
  else (canonicalBase64 value).map fun bytes => (bytes.length, bytes)

/-- The bytes of the entries of a body from a total on, with the chunks that were read. -/
def measureEntries (maximumBytes : Nat) :
    List (Option Units) → Nat → Bytes → Option (Nat × Option Bytes)
  | [], total, chunks => some (total, some chunks)
  | none :: _, _, _ => none
  | some entry :: rest, total, chunks =>
    match boundedBase64ByteLength entry (maximumBytes - total) with
    | none => none
    | some (bytes, chunk) =>
      -- A total above the bound is the answer, whatever follows.
      if maximumBytes < total + bytes then some (total + bytes, none)
      else measureEntries maximumBytes rest (total + bytes) (chunks ++ chunk)

/-- The bytes of a body, or none when the browser reports one without its bytes. -/
def measureParsedBrowserRequestBodyBytes (body : BrowserFetchRequestBodyV1) (maximumBytes : Nat) :
    Option Nat :=
  match body.postDataEntries, body.postData with
  | some entries, postData =>
    match measureEntries maximumBytes entries 0 [] with
    | none => none
    | some (total, none) => some total
    | some (total, some chunks) =>
      if postData.all fun text => chunks == encodeUtf8 text then some total else none
  | none, some text =>
    if maximumBytes < text.length then some (maximumBytes + 1)
    else if maximumBytes < utf8Length text then some (maximumBytes + 1)
    else some (utf8Length text)
  | none, none => if body.hasPostData then none else some 0

/-- The limit that a policy has for a rule, when it and the policy's others are safe integers. -/
def BrowserRequestBodyPolicyV1.ruleMaximum? (policy : BrowserRequestBodyPolicyV1)
    (rule : BrowserEgressRuleV1) : Option Nat :=
  if JsonNumber.maxSafeInteger < policy.maxEncodedRequestBodyBytesPerBrowserTask ∨
      JsonNumber.maxSafeInteger < policy.maxSingleRequestBodyBytes then none
  else
    (OrderedMap.get? policy.maxEncodedRequestBodyBytesByRule rule.ruleId).filter fun maximum =>
      decide (maximum ≤ JsonNumber.maxSafeInteger)

/-- The bytes of a body that a policy lets a rule's request carry. -/
def validateBrowserRequestBodyForRule (body : BrowserFetchRequestBodyV1)
    (policy : BrowserRequestBodyPolicyV1) (rule : BrowserEgressRuleV1) :
    Except PublicHttpExecutionError Nat :=
  match policy.ruleMaximum? rule with
  | none => .error {
      code := .invalidRequest
      message := ascii "browser request body policy is invalid" }
  | some ruleMaximum =>
    let maximum := min (min policy.maxEncodedRequestBodyBytesPerBrowserTask
      policy.maxSingleRequestBodyBytes) ruleMaximum
    match measureParsedBrowserRequestBodyBytes body maximum with
    | none => .error {
        code := .requestBlocked
        message := ascii "browser request body cannot be structurally accounted" }
    | some bytes =>
      if ruleMaximum < bytes ∨ policy.maxSingleRequestBodyBytes < bytes then .error {
        code := .requestBlocked
        message := ascii "browser request body exceeds its signed rule limit" }
      else .ok bytes

/-- The limits of request bodies that a resource policy signs. -/
def requestBodyPolicyForBrowserResourcePolicy (policy : BrowserResourcePolicyV1) :
    BrowserRequestBodyPolicyV1 where
  maxEncodedRequestBodyBytesPerBrowserTask := policy.maxEncodedRequestBodyBytesPerBrowserTask
  maxSingleRequestBodyBytes := policy.maxSingleRequestBodyBytes
  maxEncodedRequestBodyBytesByRule := policy.egressRules.foldl
    (fun limits rule => OrderedMap.set limits rule.ruleId rule.maxEncodedRequestBodyBytes) []

/-- The bytes of a body that count for the task, and those that count for its operation. -/
structure BrowserRequestBodyAdmissionsV1 where
  task : Nat
  operation : Option Nat

/-- The bytes that a rule's request carries, for the task and for the operation it belongs to. -/
def validateBrowserRequestBodiesForRule (body : BrowserFetchRequestBodyV1)
    (resourcePolicy : BrowserResourcePolicyV1)
    (operationPolicy : Option BrowserRequestBodyPolicyV1) (rule : BrowserEgressRuleV1)
    (preflight : Bool) : Except PublicHttpExecutionError BrowserRequestBodyAdmissionsV1 := do
  let task ← validateBrowserRequestBodyForRule body
    (requestBodyPolicyForBrowserResourcePolicy resourcePolicy) rule
  let operation ← match operationPolicy with
    | none => .ok none
    | some policy => (validateBrowserRequestBodyForRule body policy rule).map some
  if preflight ∧ task ≠ 0 then .error {
    code := .requestBlocked
    message := ascii "browser CORS preflight must have an empty request body" }
  else .ok { task, operation }

end Klura
