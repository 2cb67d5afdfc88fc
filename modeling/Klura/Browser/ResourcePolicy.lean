import Klura.Contracts.Fields
import Klura.Library.FormUrlencoded

/-! The resource policy of a browser: its egress rules, how they are parsed and what they match. -/

namespace Klura

open StrictJson

/-- The most egress rules of a policy. -/
def MAX_BROWSER_EGRESS_RULES_V1 : Nat := 64

/-- The most bytes of the path of a route. -/
def MAX_BROWSER_ROUTE_PATH_BYTES_V1 : Nat := 2048

/-- The most keys of the query of a route. -/
def MAX_BROWSER_QUERY_KEYS_V1 : Nat := 32

/-- The most requests of a browser task. -/
def MAX_BROWSER_REQUESTS_PER_TASK_V1 : Nat := 256

/-- The most bytes of request bodies of a browser task. -/
def MAX_BROWSER_REQUEST_BODY_BYTES_V1 : Nat := 8 * 1024 * 1024

/-- The most bytes of one request body. -/
def MAX_BROWSER_SINGLE_REQUEST_BODY_BYTES_V1 : Nat := 1024 * 1024

/-- The most bytes of responses of a browser task. -/
def MAX_BROWSER_RESPONSE_BYTES_V1 : Nat := 32 * 1024 * 1024

/-- The most bytes a browser task moves through its proxy. -/
def MAX_BROWSER_WIRE_BYTES_V1 : Nat := 64 * 1024 * 1024

/-- The most bytes of a string that a contract holds. -/
def MAX_STRING_BYTES : Nat := 2048

/-- A URL in its parts, as the URL class gives them. -/
structure UrlV1 where
  protocol : Units
  username : Units
  password : Units
  origin : Units
  pathname : Units
  search : Units
  hash : Units

/-- The keys of a URL's query. -/
def UrlV1.searchKeys (url : UrlV1) : List Units := formKeys (url.search.drop 1)

/-- The URL class: what it parses a text as, and the path that a reference leads to. -/
structure UrlClassV1 where
  parse : Units → Option UrlV1
  pathnameOf : Units → Option Units

/-- A type of resource that a rule may admit. -/
inductive BrowserResourceTypeV1 where
  | document
  | stylesheet
  | script
  | xhr
  | fetch
  | eventSource
  | image
  | font
  | media
  | ping
  | worker
  deriving DecidableEq

/-- The text of a resource type. -/
def BrowserResourceTypeV1.text : BrowserResourceTypeV1 → Units
  | .document => ascii "document"
  | .stylesheet => ascii "stylesheet"
  | .script => ascii "script"
  | .xhr => ascii "xhr"
  | .fetch => ascii "fetch"
  | .eventSource => ascii "event_source"
  | .image => ascii "image"
  | .font => ascii "font"
  | .media => ascii "media"
  | .ping => ascii "ping"
  | .worker => ascii "worker"

/-- The resource types there are. -/
def BROWSER_RESOURCE_TYPES : List BrowserResourceTypeV1 :=
  [.document, .stylesheet, .script, .xhr, .fetch, .eventSource, .image, .font, .media, .ping,
    .worker]

/-- The resource type that a text names. -/
def resourceTypeOf (text : Units) : Option BrowserResourceTypeV1 :=
  BROWSER_RESOURCE_TYPES.find? fun resourceType => resourceType.text == text

/-- The phase a request is made in. -/
inductive BrowserEgressPhaseV1 where
  | login
  | navigation
  | resource
  | interaction
  | runtimeRequest
  | pageScript
  deriving DecidableEq

/-- The text of a phase. -/
def BrowserEgressPhaseV1.text : BrowserEgressPhaseV1 → Units
  | .login => ascii "login"
  | .navigation => ascii "navigation"
  | .resource => ascii "resource"
  | .interaction => ascii "interaction"
  | .runtimeRequest => ascii "runtime_request"
  | .pageScript => ascii "page_script"

/-- The phases that a package may declare a rule for. -/
def DECLARED_PHASES : List BrowserEgressPhaseV1 :=
  [.navigation, .resource, .interaction, .runtimeRequest, .pageScript]

/-- A method that a rule may admit. -/
inductive BrowserMethodV1 where
  | get
  | head
  | post
  deriving DecidableEq

/-- The text of a method. -/
def BrowserMethodV1.text : BrowserMethodV1 → Units
  | .get => ascii "GET"
  | .head => ascii "HEAD"
  | .post => ascii "POST"

/-- The methods there are. -/
def BROWSER_METHODS : List BrowserMethodV1 := [.get, .head, .post]

/-- The method that a text names. -/
def methodOf (text : Units) : Option BrowserMethodV1 :=
  BROWSER_METHODS.find? fun method => method.text == text

/-- The paths that a route admits. -/
inductive BrowserRoutePathV1 where
  | exact (value : Units)
  | prefixed (value : Units)
  deriving DecidableEq

/-- The queries that a route admits. -/
inductive BrowserRouteQueryV1 where
  | none
  | keys (required allowed : List Units)
  deriving DecidableEq

/-- A matcher of the paths and the queries of URLs. -/
structure BrowserRouteMatcherV1 where
  path : BrowserRoutePathV1
  query : BrowserRouteQueryV1
  deriving DecidableEq

/-- A rule by which requests may leave the browser. -/
structure BrowserEgressRuleV1 where
  ruleId : Units
  phase : BrowserEgressPhaseV1
  origin : Units
  methods : List BrowserMethodV1
  route : BrowserRouteMatcherV1
  resourceTypes : List BrowserResourceTypeV1
  maxRequests : Nat
  maxEncodedRequestBodyBytes : Nat
  maxEncodedResponseBytes : Nat
  deriving DecidableEq

/-- The rules and the budgets of one browser task. -/
structure BrowserResourcePolicyV1 where
  egressRules : List BrowserEgressRuleV1
  maxRequestsPerBrowserTask : Nat
  maxEncodedRequestBodyBytesPerBrowserTask : Nat
  maxEncodedResponseBytesPerBrowserTask : Nat
  maxProxyWireBytesPerBrowserTask : Nat
  maxSingleRequestBodyBytes : Nat
  maxSingleResponseBytes : Nat

/-- A request that asks to leave the browser. -/
structure BrowserEgressCandidateV1 where
  phase : BrowserEgressPhaseV1
  url : Units
  method : Units
  resourceType : Units

/-- A preflight that asks to leave the browser, for a request of some method. -/
structure BrowserPreflightEgressCandidateV1 extends BrowserEgressCandidateV1 where
  requestedMethod : Option Units

/-! The matchers. -/

/-- Whether a path admits the path of a URL. -/
def BrowserRoutePathV1.admits (path : BrowserRoutePathV1) (pathname : Units) : Bool :=
  match path with
  | .exact value => pathname == value
  | .prefixed value => value.isPrefixOf pathname

/-- Whether a route admits a URL. -/
def browserRouteMatches (route : BrowserRouteMatcherV1) (url : UrlV1) : Bool :=
  route.path.admits url.pathname &&
    match route.query with
    | .none => url.search.isEmpty
    | .keys required allowed =>
      let keys := url.searchKeys
      decide keys.Nodup && keys.all (allowed.contains ·) && required.all (keys.contains ·)

/-- Whether a rule is for requests of a phase. -/
def rulePhaseAdmits (rule : BrowserEgressRuleV1) (phase : BrowserEgressPhaseV1) : Bool :=
  rule.phase == .login || rule.phase == phase

/-- Whether a rule may stand for a preflight. -/
def canReceiveBrowserPreflight (rule : BrowserEgressRuleV1) : Bool :=
  rule.resourceTypes.any fun resourceType => resourceType == .fetch || resourceType == .xhr

/-- The only element of a list that has just one. -/
def onlyOne {α : Type} : List α → Option α
  | [only] => some only
  | _ => none

/-- Whether two paths admit a common one. -/
def pathsOverlap : BrowserRoutePathV1 → BrowserRoutePathV1 → Bool
  | .exact left, .exact right => left == right
  | .exact left, .prefixed right => right.isPrefixOf left
  | .prefixed left, .exact right => left.isPrefixOf right
  | .prefixed left, .prefixed right => right.isPrefixOf left || left.isPrefixOf right

/-- Whether two queries admit a common one. -/
def queriesOverlap : BrowserRouteQueryV1 → BrowserRouteQueryV1 → Bool
  | .none, .none => true
  | .none, .keys required _ => required.isEmpty
  | .keys required _, .none => required.isEmpty
  | .keys required allowed, .keys required' allowed' =>
    required.all (allowed'.contains ·) && required'.all (allowed.contains ·)

/-- Whether two routes admit a common URL. -/
def browserRoutesOverlap (left right : BrowserRouteMatcherV1) : Bool :=
  pathsOverlap left.path right.path && queriesOverlap left.query right.query

/-- Whether two rules may match one request. -/
def rulesOverlap (left right : BrowserEgressRuleV1) : Bool :=
  left.phase == right.phase && left.origin == right.origin &&
    left.methods.any (right.methods.contains ·) &&
    (left.resourceTypes.any (right.resourceTypes.contains ·) ||
      (left.phase == .resource && canReceiveBrowserPreflight left &&
        canReceiveBrowserPreflight right)) &&
    browserRoutesOverlap left.route right.route

section

variable (urls : UrlClassV1)

/-- The URL of a request, when it is a secure one without credentials and fragment. -/
def parseBrowserEgressUrl (value : Units) : Option UrlV1 :=
  match urls.parse value with
  | none => none
  | some url =>
    if url.protocol ≠ ascii "https:" ∨ url.username ≠ [] ∨ url.password ≠ [] ∨ url.hash ≠ [] then
      none
    else some url

/-- The rule that a request leaves by, when just one admits it. -/
def matchBrowserEgressRule (policy : BrowserResourcePolicyV1)
    (candidate : BrowserEgressCandidateV1) : Option BrowserEgressRuleV1 :=
  match parseBrowserEgressUrl urls candidate.url, resourceTypeOf candidate.resourceType with
  | some url, some resourceType =>
    onlyOne (policy.egressRules.filter fun rule =>
      rulePhaseAdmits rule candidate.phase && rule.origin == url.origin &&
        rule.methods.any (fun method => method.text == candidate.method) &&
        rule.resourceTypes.contains resourceType && browserRouteMatches rule.route url)
  | _, _ => none

/-- The rule that a preflight leaves by, which is one for the request that it is made for. -/
def matchBrowserPreflightEgressRule (policy : BrowserResourcePolicyV1)
    (candidate : BrowserPreflightEgressCandidateV1) : Option BrowserEgressRuleV1 :=
  if candidate.method ≠ ascii "OPTIONS" ∨ candidate.resourceType ≠ ascii "preflight" ∨
      candidate.phase ≠ .resource then none
  else
    match candidate.requestedMethod.bind methodOf, parseBrowserEgressUrl urls candidate.url with
    | some requestedMethod, some url =>
      onlyOne (policy.egressRules.filter fun rule =>
        rulePhaseAdmits rule candidate.phase && rule.origin == url.origin &&
          rule.methods.contains requestedMethod && canReceiveBrowserPreflight rule &&
          browserRouteMatches rule.route url)
    | _, _ => none

/-! The parsers. -/

/-- A secure origin in the form the URL class gives it. -/
def parseHttpsOrigin (value : JsValue) (field : Units) : Except PublicContractError Units := do
  let text ← StrictJson.parseString value field MAX_STRING_BYTES
  match urls.parse text with
  | none => fail field "must be an HTTPS origin"
  | some url =>
    if url.protocol ≠ ascii "https:" ∨ url.username ≠ [] ∨ url.password ≠ [] ∨
        url.pathname ≠ ascii "/" ∨ url.search ≠ [] ∨ url.hash ≠ [] ∨ text ≠ url.origin then
      fail field "must be a canonical HTTPS origin without credentials or path"
    else .ok url.origin

/-- A path in the form the URL class gives it. -/
def parseCanonicalPath (value : JsValue) (field : Units) : Except PublicContractError Units := do
  let path ← StrictJson.parseString value field MAX_BROWSER_ROUTE_PATH_BYTES_V1
  if path.head? ≠ some 47 ∨ path.contains 63 ∨ path.contains 35 then
    fail field "must be an absolute path without query or fragment"
  else
    match urls.pathnameOf path with
    | none => fail field "must be a valid absolute URL path"
    | some normalized =>
      if normalized ≠ path then fail field "must use canonical URL path normalization"
      else .ok path

/-- A key of a query. -/
def parseQueryKey (value : JsValue) (field : Units) : Except PublicContractError Units := do
  let key ← StrictJson.parseString value field 128
  if key = [] ∨ key.contains 0 then fail field "must be a non-empty query key without NUL"
  else .ok key

/-- The keys of a query, in order. -/
def parseQueryKeys (value : JsValue) (field : Units) : Except PublicContractError (List Units) :=
  let refused : Except PublicContractError (List Units) := .error {
    field
    message :=
      ascii "must contain at most " ++ natText MAX_BROWSER_QUERY_KEYS_V1 ++ ascii " query keys" }
  match value with
  | .array items =>
    if MAX_BROWSER_QUERY_KEYS_V1 < items.length then refused
    else do
      let keys ← parseElements parseQueryKey field 0 items
      assertCanonicalUnique keys field
      .ok keys
  | _ => refused

/-- The value of a member, or null where a record lacks it. -/
def memberOrNull (fields : Fields) (key : String) : JsValue :=
  (member fields (ascii key)).getD .null

/-- Whether a value is a string and this one. -/
def isText (value : JsValue) (text : String) : Bool :=
  match value with
  | .string given => given == ascii text
  | _ => false

/-- The query of a route. -/
def parseRouteQuery (value : JsValue) (field : Units) :
    Except PublicContractError BrowserRouteQueryV1 := do
  let fields ← parseBoundedRecord value field 3
  if isText (memberOrNull fields "kind") "none" && fields.length == 1 then .ok .none
  else do
    let fields ← parseExactRecord (.object fields) field
      [ascii "kind", ascii "required", ascii "allowed"]
    if !isText (memberOrNull fields "kind") "keys" then
      fail (memberField field (ascii "kind")) "must be none or keys"
    else do
      let required ← parseQueryKeys (memberOrNull fields "required")
        (memberField field (ascii "required"))
      let allowed ← parseQueryKeys (memberOrNull fields "allowed")
        (memberField field (ascii "allowed"))
      if required.any fun key => !allowed.contains key then
        fail (memberField field (ascii "required")) "must be contained in allowed"
      else .ok (.keys required allowed)

/-- A matcher of URLs. -/
def parseBrowserRouteMatcher (value : JsValue) (field : Units) :
    Except PublicContractError BrowserRouteMatcherV1 := do
  let fields ← parseExactRecord value field [ascii "path", ascii "query"]
  let pathField := memberField field (ascii "path")
  let path ← parseExactRecord (memberOrNull fields "path") pathField [ascii "kind", ascii "value"]
  let kind := memberOrNull path "kind"
  if !isText kind "exact" && !isText kind "prefix" then
    fail (memberField pathField (ascii "kind")) "must be exact or prefix"
  else do
    let text ← parseCanonicalPath urls (memberOrNull path "value")
      (memberField pathField (ascii "value"))
    let query ← parseRouteQuery (memberOrNull fields "query") (memberField field (ascii "query"))
    .ok { path := if isText kind "exact" then .exact text else .prefixed text, query }

/-- A resource type. -/
def parseResourceType (value : JsValue) (field : Units) :
    Except PublicContractError BrowserResourceTypeV1 :=
  match value with
  | .string text =>
    match resourceTypeOf text with
    | some resourceType => .ok resourceType
    | none => fail field "must be a browser resource type"
  | _ => fail field "must be a browser resource type"

/-- The resource types of a rule, in order. -/
def parseBrowserResourceTypes (value : JsValue) (field : Units) :
    Except PublicContractError (List BrowserResourceTypeV1) :=
  match value with
  | .array items =>
    if items.length = 0 ∨ BROWSER_RESOURCE_TYPES.length < items.length then
      fail field "must contain one or more browser resource types"
    else do
      let resourceTypes ← parseElements parseResourceType field 0 items
      assertCanonicalUnique (resourceTypes.map BrowserResourceTypeV1.text) field
      .ok resourceTypes
  | _ => fail field "must contain one or more browser resource types"

/-- The phase that a package declares a rule for. -/
def parsePhase (value : JsValue) (field : Units) :
    Except PublicContractError BrowserEgressPhaseV1 :=
  match value with
  | .string text =>
    match DECLARED_PHASES.find? fun phase => phase.text == text with
    | some phase => .ok phase
    | none => fail field "must be a browser egress phase"
  | _ => fail field "must be a browser egress phase"

/-- The methods that a rule of a phase may declare, and how a refusal names them. -/
def browserMethodsForPhase (phase : BrowserEgressPhaseV1) : List BrowserMethodV1 × String :=
  match phase with
  | .runtimeRequest | .pageScript => ([.get, .post], "must be GET or POST")
  | .resource => (BROWSER_METHODS, "must be GET, HEAD, or POST")
  | _ => ([.get, .head], "must be GET or HEAD")

/-- A method out of those allowed. -/
def parseMethod (allowed : List BrowserMethodV1 × String) (value : JsValue) (field : Units) :
    Except PublicContractError BrowserMethodV1 :=
  match value with
  | .string text =>
    match allowed.1.find? fun method => method.text == text with
    | some method => .ok method
    | none => fail field allowed.2
  | _ => fail field allowed.2

/-- One to three methods out of those allowed, in order. -/
def parseMethodList (allowed : List BrowserMethodV1 × String) (count : String) (value : JsValue)
    (field : Units) : Except PublicContractError (List BrowserMethodV1) :=
  match value with
  | .array items =>
    if items.length = 0 ∨ 3 < items.length then fail field count
    else do
      let methods ← parseElements (parseMethod allowed) field 0 items
      assertCanonicalUnique (methods.map BrowserMethodV1.text) field
      .ok methods
  | _ => fail field count

/-- The methods of a rule of a phase. -/
def parseMethods (value : JsValue) (phase : BrowserEgressPhaseV1) (field : Units) :
    Except PublicContractError (List BrowserMethodV1) :=
  parseMethodList (browserMethodsForPhase phase) "must contain one to three browser methods" value
    field

/-- The keys of an egress rule. -/
def egressRuleKeys : List Units :=
  [ascii "rule_id", ascii "phase", ascii "origin", ascii "methods", ascii "route",
    ascii "resource_types", ascii "max_requests", ascii "max_encoded_request_body_bytes",
    ascii "max_encoded_response_bytes"]

/-- Checks that the resource types of a rule are ones of its phase. -/
def checkResourceTypes (phase : BrowserEgressPhaseV1) (resourceTypes : List BrowserResourceTypeV1)
    (field : Units) : Except PublicContractError Unit :=
  if phase ≠ .resource ∧ resourceTypes.contains .ping then
    fail field "may contain ping only for a resource rule"
  else if phase = .runtimeRequest ∧ resourceTypes ≠ [.fetch] then
    fail field "must be exactly fetch for a runtime_request rule"
  else if phase = .pageScript ∧ resourceTypes.any fun resourceType =>
      resourceType != .fetch && resourceType != .xhr then
    fail field "must contain only fetch and xhr for a page_script rule"
  else .ok ()

/-- An egress rule. -/
def parseEgressRule (maximumRequestBodyBytes : Nat) (value : JsValue) (field : Units) :
    Except PublicContractError BrowserEgressRuleV1 := do
  let fields ← parseExactRecord value field egressRuleKeys
  let phase ← parsePhase (memberOrNull fields "phase") (memberField field (ascii "phase"))
  let typesField := memberField field (ascii "resource_types")
  let resourceTypes ← parseBrowserResourceTypes (memberOrNull fields "resource_types") typesField
  checkResourceTypes phase resourceTypes typesField
  let methods ← parseMethods (memberOrNull fields "methods") phase
    (memberField field (ascii "methods"))
  let bodyField := memberField field (ascii "max_encoded_request_body_bytes")
  let maxEncodedRequestBodyBytes ← StrictJson.parseInteger
    (memberOrNull fields "max_encoded_request_body_bytes") bodyField 0 maximumRequestBodyBytes
  if !methods.contains .post && maxEncodedRequestBodyBytes != 0 then
    fail bodyField "must be zero when POST is not declared"
  else do
    let ruleId ← parseStableContractId (memberOrNull fields "rule_id")
      (memberField field (ascii "rule_id"))
    let origin ← parseHttpsOrigin urls (memberOrNull fields "origin")
      (memberField field (ascii "origin"))
    let route ← parseBrowserRouteMatcher urls (memberOrNull fields "route")
      (memberField field (ascii "route"))
    let maxRequests ← StrictJson.parseInteger (memberOrNull fields "max_requests")
      (memberField field (ascii "max_requests")) 1 MAX_BROWSER_REQUESTS_PER_TASK_V1
    let maxEncodedResponseBytes ← StrictJson.parseInteger
      (memberOrNull fields "max_encoded_response_bytes")
      (memberField field (ascii "max_encoded_response_bytes")) 1 MAX_BROWSER_RESPONSE_BYTES_V1
    .ok {
      ruleId
      phase
      origin
      methods
      route
      resourceTypes
      maxRequests
      maxEncodedRequestBodyBytes
      maxEncodedResponseBytes }

/-- Rules one after another, whose ids differ from those before them. -/
def parseRulesFrom (parseRule : JsValue → Units → Except PublicContractError BrowserEgressRuleV1)
    (field : Units) : Nat → List Units → List JsValue →
    Except PublicContractError (List BrowserEgressRuleV1)
  | _, _, [] => .ok []
  | index, ids, item :: rest => do
    let place := field ++ ascii "[" ++ natText index ++ ascii "]"
    let rule ← parseRule item place
    if rule.ruleId ∈ ids then fail (memberField place (ascii "rule_id")) "must not be duplicated"
    else do
      let rules ← parseRulesFrom parseRule field (index + 1) (rule.ruleId :: ids) rest
      .ok (rule :: rules)

/-- The first two rules that overlap, in the order of the first and then of the second. -/
def firstOverlap (overlap : BrowserEgressRuleV1 → BrowserEgressRuleV1 → Bool) :
    List BrowserEgressRuleV1 → Option (BrowserEgressRuleV1 × BrowserEgressRuleV1)
  | [] => none
  | first :: rest =>
    match rest.find? (overlap first) with
    | some second => some (first, second)
    | none => firstOverlap overlap rest

/-- A list of rules, no two of which have one id or overlap. -/
def parseRuleList (parseRule : JsValue → Units → Except PublicContractError BrowserEgressRuleV1)
    (overlap : BrowserEgressRuleV1 → BrowserEgressRuleV1 → Bool) (maximum : Nat) (kind : String)
    (value : JsValue) (field : Units) : Except PublicContractError (List BrowserEgressRuleV1) :=
  let refused : Except PublicContractError (List BrowserEgressRuleV1) := .error {
    field
    message := ascii "must contain one to " ++ natText maximum ++ ascii kind }
  match value with
  | .array items =>
    if items.length = 0 ∨ maximum < items.length then refused
    else do
      let rules ← parseRulesFrom parseRule field 0 [] items
      match firstOverlap overlap rules with
      | some (first, second) =>
        .error {
          field
          message := ascii "rules " ++ StrictJson.stringText first.ruleId ++ ascii " and " ++
            StrictJson.stringText second.ruleId ++ ascii " overlap" }
      | none => .ok rules
  | _ => refused

/-- The egress rules of a policy. -/
def parseEgressRules (value : JsValue) (field : Units) (maximumRequestBodyBytes : Nat) :
    Except PublicContractError (List BrowserEgressRuleV1) :=
  parseRuleList (parseEgressRule urls maximumRequestBodyBytes) rulesOverlap
    MAX_BROWSER_EGRESS_RULES_V1 " browser egress rules" value field

/-- The features that every policy blocks. -/
def blockedFeatures : List String :=
  ["service_workers", "downloads", "popups", "websockets", "webtransport", "webrtc_direct_egress",
    "browser_cache"]

/-- Checks that a policy blocks these features. -/
def checkBlocked (fields : Fields) (field : Units) :
    List String → Except PublicContractError Unit
  | [] => .ok ()
  | name :: rest =>
    if !isText (memberOrNull fields name) "block" then
      fail (memberField field (ascii name)) "must be block"
    else checkBlocked fields field rest

/-- An integer member of a record. -/
def parseCount (fields : Fields) (field : Units) (name : String) (minimum maximum : Nat) :
    Except PublicContractError Nat :=
  StrictJson.parseInteger (memberOrNull fields name) (memberField field (ascii name)) minimum
    maximum

/-- The keys of a browser resource policy. -/
def browserPolicyKeys : List Units :=
  [ascii "egress_rules", ascii "max_requests_per_browser_task",
    ascii "max_encoded_request_body_bytes_per_browser_task",
    ascii "max_encoded_response_bytes_per_browser_task",
    ascii "max_proxy_wire_bytes_per_browser_task", ascii "max_single_request_body_bytes",
    ascii "max_single_response_bytes"] ++ blockedFeatures.map ascii

/-- The resource policy of a browser task. -/
def parseBrowserResourcePolicy (value : JsValue) (field : Units) :
    Except PublicContractError BrowserResourcePolicyV1 := do
  let fields ← parseExactRecord value field browserPolicyKeys
  let maxRequests ← parseCount fields field "max_requests_per_browser_task" 1
    MAX_BROWSER_REQUESTS_PER_TASK_V1
  let maxRequestBodyBytes ← parseCount fields field
    "max_encoded_request_body_bytes_per_browser_task" 0 MAX_BROWSER_REQUEST_BODY_BYTES_V1
  let maxResponseBytes ← parseCount fields field "max_encoded_response_bytes_per_browser_task" 1
    MAX_BROWSER_RESPONSE_BYTES_V1
  let maxWireBytes ← parseCount fields field "max_proxy_wire_bytes_per_browser_task" 1
    MAX_BROWSER_WIRE_BYTES_V1
  let maxSingleRequestBodyBytes ← parseCount fields field "max_single_request_body_bytes" 0
    (min maxRequestBodyBytes MAX_BROWSER_SINGLE_REQUEST_BODY_BYTES_V1)
  let maxSingleResponseBytes ← parseCount fields field "max_single_response_bytes" 1
    maxResponseBytes
  checkBlocked fields field blockedFeatures
  let egressRules ← parseEgressRules urls (memberOrNull fields "egress_rules")
    (memberField field (ascii "egress_rules")) maxSingleRequestBodyBytes
  .ok {
    egressRules
    maxRequestsPerBrowserTask := maxRequests
    maxEncodedRequestBodyBytesPerBrowserTask := maxRequestBodyBytes
    maxEncodedResponseBytesPerBrowserTask := maxResponseBytes
    maxProxyWireBytesPerBrowserTask := maxWireBytes
    maxSingleRequestBodyBytes
    maxSingleResponseBytes }

end

end Klura
