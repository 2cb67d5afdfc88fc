import Klura.Browser.ResourcePolicy

/-! The resource policy of a login, and the browser policy that the login browser makes of it. -/

namespace Klura

open StrictJson

/-- The most egress rules of a login. -/
def MAX_LOGIN_EGRESS_RULES_V1 : Nat := 64

/-- The most requests of a login. -/
def MAX_LOGIN_REQUESTS_V1 : Nat := 256

/-- The most bytes of request bodies of a login. -/
def MAX_LOGIN_REQUEST_BODY_BYTES_V1 : Nat := 8 * 1024 * 1024

/-- The most bytes of responses of a login. -/
def MAX_LOGIN_RESPONSE_BYTES_V1 : Nat := 32 * 1024 * 1024

/-- The most bytes a login moves through its proxy. -/
def MAX_LOGIN_WIRE_BYTES_V1 : Nat := 64 * 1024 * 1024

/-- The most bytes of one request body of a login. -/
def MAX_LOGIN_SINGLE_REQUEST_BODY_BYTES_V1 : Nat := 1024 * 1024

/-- The most bytes of one response of a login. -/
def MAX_LOGIN_SINGLE_RESPONSE_BYTES_V1 : Nat := 16 * 1024 * 1024

/-- The rules and the budgets of one login, whose rules are all of the login phase. -/
structure AuthenticationBrowserResourcePolicyV1 where
  egressRules : List BrowserEgressRuleV1
  maxRequestsPerLogin : Nat
  maxEncodedRequestBodyBytesPerLogin : Nat
  maxEncodedResponseBytesPerLogin : Nat
  maxProxyWireBytesPerLogin : Nat
  maxSingleRequestBodyBytes : Nat
  maxSingleResponseBytes : Nat
  totalTimeoutMs : Nat

/-- Whether two rules of a login may match one request. -/
def authenticationRulesOverlap (left right : BrowserEgressRuleV1) : Bool :=
  left.origin == right.origin && left.methods.any (right.methods.contains ·) &&
    (left.resourceTypes.any (right.resourceTypes.contains ·) ||
      (canReceiveBrowserPreflight left && canReceiveBrowserPreflight right)) &&
    browserRoutesOverlap left.route right.route

/-- The resource types of a login rule. -/
def parseLoginResourceTypes (value : JsValue) (field : Units) :
    Except PublicContractError (List BrowserResourceTypeV1) := do
  let resourceTypes ← parseBrowserResourceTypes value field
  if resourceTypes.contains .ping then fail field "may contain ping only for a resource rule"
  else if resourceTypes.contains .document && resourceTypes.length != 1 then
    fail field "must not combine document with another login resource type"
  else .ok resourceTypes

/-- The methods of a login rule. -/
def parseLoginMethods (value : JsValue) (field : Units) :
    Except PublicContractError (List BrowserMethodV1) :=
  parseMethodList (BROWSER_METHODS, "must be GET, HEAD, or POST")
    "must contain one to three login methods" value field

section

variable (urls : UrlClassV1)

/-- An egress rule of a login. -/
def parseAuthenticationEgressRule (maximumRequests maximumRequestBodyBytes maximumResponseBytes : Nat)
    (value : JsValue) (field : Units) : Except PublicContractError BrowserEgressRuleV1 := do
  let fields ← parseExactRecord value field egressRuleKeys
  if !isText (memberOrNull fields "phase") "login" then
    fail (memberField field (ascii "phase")) "must be login"
  else do
    let ruleId ← parseStableContractId (memberOrNull fields "rule_id")
      (memberField field (ascii "rule_id"))
    let origin ← parseHttpsOrigin urls (memberOrNull fields "origin")
      (memberField field (ascii "origin"))
    let methods ← parseLoginMethods (memberOrNull fields "methods")
      (memberField field (ascii "methods"))
    let route ← parseBrowserRouteMatcher urls (memberOrNull fields "route")
      (memberField field (ascii "route"))
    let resourceTypes ← parseLoginResourceTypes (memberOrNull fields "resource_types")
      (memberField field (ascii "resource_types"))
    let maxRequests ← parseCount fields field "max_requests" 1 maximumRequests
    let maxEncodedRequestBodyBytes ← parseCount fields field "max_encoded_request_body_bytes" 0
      maximumRequestBodyBytes
    let maxEncodedResponseBytes ← parseCount fields field "max_encoded_response_bytes" 1
      maximumResponseBytes
    .ok {
      ruleId
      phase := .login
      origin
      methods
      route
      resourceTypes
      maxRequests
      maxEncodedRequestBodyBytes
      maxEncodedResponseBytes }

/-- The egress rules of a login. -/
def parseAuthenticationEgressRules (value : JsValue) (field : Units)
    (maximumRequests maximumRequestBodyBytes maximumResponseBytes : Nat) :
    Except PublicContractError (List BrowserEgressRuleV1) :=
  parseRuleList
    (parseAuthenticationEgressRule urls maximumRequests maximumRequestBodyBytes
      maximumResponseBytes)
    authenticationRulesOverlap MAX_LOGIN_EGRESS_RULES_V1 " authentication browser egress rules" value
    field

/-- The keys of the resource policy of a login. -/
def authenticationPolicyKeys : List Units :=
  [ascii "egress_rules", ascii "max_requests_per_login",
    ascii "max_encoded_request_body_bytes_per_login", ascii "max_encoded_response_bytes_per_login",
    ascii "max_proxy_wire_bytes_per_login", ascii "max_single_request_body_bytes",
    ascii "max_single_response_bytes", ascii "total_timeout_ms"] ++ blockedFeatures.map ascii

/-- The resource policy of a login. -/
def parseAuthenticationBrowserResourcePolicy (value : JsValue) (field : Units) :
    Except PublicContractError AuthenticationBrowserResourcePolicyV1 := do
  let fields ← parseExactRecord value field authenticationPolicyKeys
  let maxRequests ← parseCount fields field "max_requests_per_login" 1 MAX_LOGIN_REQUESTS_V1
  let maxRequestBody ← parseCount fields field "max_encoded_request_body_bytes_per_login" 0
    MAX_LOGIN_REQUEST_BODY_BYTES_V1
  let maxResponse ← parseCount fields field "max_encoded_response_bytes_per_login" 1
    MAX_LOGIN_RESPONSE_BYTES_V1
  let maxWire ← parseCount fields field "max_proxy_wire_bytes_per_login" 1 MAX_LOGIN_WIRE_BYTES_V1
  let maxSingleRequest ← parseCount fields field "max_single_request_body_bytes" 0
    (min maxRequestBody MAX_LOGIN_SINGLE_REQUEST_BODY_BYTES_V1)
  let maxSingleResponse ← parseCount fields field "max_single_response_bytes" 1
    (min maxResponse MAX_LOGIN_SINGLE_RESPONSE_BYTES_V1)
  checkBlocked fields field blockedFeatures
  let egressRules ← parseAuthenticationEgressRules urls (memberOrNull fields "egress_rules")
    (memberField field (ascii "egress_rules")) maxRequests maxSingleRequest maxSingleResponse
  let totalTimeoutMs ← parseCount fields field "total_timeout_ms" 1000 900000
  .ok {
    egressRules
    maxRequestsPerLogin := maxRequests
    maxEncodedRequestBodyBytesPerLogin := maxRequestBody
    maxEncodedResponseBytesPerLogin := maxResponse
    maxProxyWireBytesPerLogin := maxWire
    maxSingleRequestBodyBytes := maxSingleRequest
    maxSingleResponseBytes := maxSingleResponse
    totalTimeoutMs }

end

/-- The browser policy of a login, whose rules are given the login phase. -/
def loginResourcePolicy (policy : AuthenticationBrowserResourcePolicyV1) :
    BrowserResourcePolicyV1 where
  egressRules := policy.egressRules.map fun rule => { rule with phase := .login }
  maxRequestsPerBrowserTask := policy.maxRequestsPerLogin
  maxEncodedRequestBodyBytesPerBrowserTask := policy.maxEncodedRequestBodyBytesPerLogin
  maxEncodedResponseBytesPerBrowserTask := policy.maxEncodedResponseBytesPerLogin
  maxProxyWireBytesPerBrowserTask := policy.maxProxyWireBytesPerLogin
  maxSingleRequestBodyBytes := policy.maxSingleRequestBodyBytes
  maxSingleResponseBytes := policy.maxSingleResponseBytes

end Klura
