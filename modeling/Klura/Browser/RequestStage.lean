import Klura.Browser.Boundary

/-! How the boundary judges a request that the browser paused, and how it admits it. -/

namespace Klura

open StrictJson

/-- The resource types that a program's own requests have. -/
def PROGRAM_RESOURCE_TYPES : List Units := [ascii "fetch", ascii "xhr"]

/-- Whether the main frame asks for a document; a frame that is unknown is taken for it. -/
def isMainFrameDocument (paused : BrowserFetchPausedV1) (mainFrameId : Option Units) : Bool :=
  paused.resourceType == ascii "document" &&
    match paused.frameId, mainFrameId with
    | some frame, some main => frame == main
    | _, _ => true

/-- The numeral of an integer. -/
def integerText (value : Int) : Units :=
  if value < 0 then ascii "-" ++ natText value.natAbs else natText value.natAbs

/-- The keys of a query without repetitions, in order. -/
def sortedQueryKeys (keys : List Units) : List Units :=
  keys.dedup.mergeSort fun left right => decide (left ≤ right)

section

variable (urls : UrlClassV1)

/-- Whether a request is the reviewed program's own: fetch or xhr to its origin. -/
def isProgramTraffic (paused : BrowserFetchPausedV1) (programOrigin : Option Units) : Bool :=
  PROGRAM_RESOURCE_TYPES.contains paused.resourceType &&
    match programOrigin, urls.parse paused.url with
    | some origin, some url => url.origin == origin
    -- A program without an origin and a text that is no URL are read strictly.
    | _, _ => true

/-- Whether a declared resource rule admits a request as the page's own. -/
def coveredByResourceRule (policy : BrowserResourcePolicyV1) (paused : BrowserFetchPausedV1) :
    Bool :=
  (matchBrowserEgressRule urls policy {
    phase := .resource
    url := paused.url
    method := paused.method
    resourceType := paused.resourceType }).isSome

/-- A request in its structure, without its query and its body. -/
def describeRequest (paused : BrowserFetchPausedV1) (phase : BrowserEgressPhaseV1) : Units :=
  match urls.parse paused.url with
  | some url =>
    paused.method ++ ascii " " ++ url.origin ++ url.pathname ++ ascii " (" ++ phase.text ++
      ascii ")"
  | none => paused.method ++ ascii " request (" ++ phase.text ++ ascii ")"

/-- What a refused request looked like. -/
def egressDiagnostic (paused : BrowserFetchPausedV1) (phase : BrowserEgressPhaseV1) :
    PublicExecutionDiagnosticV1 :=
  let url := urls.parse paused.url
  .egressRejected phase (url.map (·.origin)) (url.map (·.pathname))
    (sortedQueryKeys ((url.map (·.searchKeys)).getD [])) paused.method paused.resourceType
    paused.preflightMethod

/-- The traffic policy of a URL's origin. -/
def findOriginPolicy (policies : List OriginTrafficPolicyV1) (value : Units) :
    Option OriginTrafficPolicyV1 :=
  match urls.parse value with
  | some url => policies.find? fun policy => policy.origin == url.origin
  | none => none

/-- The rule by which a paused request of a phase leaves: the runtime's own is a fetch. -/
def matchPausedRequest (policy : BrowserResourcePolicyV1) (paused : BrowserFetchPausedV1)
    (phase : BrowserEgressPhaseV1) : Option BrowserEgressRuleV1 :=
  let resourceType := if phase = .runtimeRequest then ascii "fetch" else paused.resourceType
  if paused.method = ascii "OPTIONS" then
    matchBrowserPreflightEgressRule urls policy {
      phase
      url := paused.url
      method := paused.method
      resourceType
      requestedMethod := paused.preflightMethod }
  else
    matchBrowserEgressRule urls policy { phase, url := paused.url, method := paused.method, resourceType }

end

/-- A scope by its identity. -/
def BrowserScopesV1.operation? (scopes : BrowserScopesV1) (operation : Option Nat) :
    Option ActiveBrowserOperationV1 :=
  operation.bind (scopes.operations[·]?)

/-- The requests that a rule has used. -/
def BrowserBudgetsV1.used (budgets : BrowserBudgetsV1) (rule : BrowserEgressRuleV1) : Nat :=
  (OrderedMap.get? budgets.ruleRequests rule.ruleId).getD 0

/-- Whether a rule, the options or the policy let no further request through. -/
def browserRequestBudgetExhausted (inForce : BoundaryPolicyV1) (budgets : BrowserBudgetsV1)
    (rule : BrowserEgressRuleV1) : Bool :=
  decide (rule.maxRequests ≤ budgets.used rule ∨
    inForce.options.maxTargetRequests ≤ budgets.targetRequests ∨
    inForce.policy.maxRequestsPerBrowserTask ≤ budgets.targetRequests)

/-- The most requests of the task. -/
def BoundaryPolicyV1.taskLimit (inForce : BoundaryPolicyV1) : Nat :=
  min inForce.options.maxTargetRequests inForce.policy.maxRequestsPerBrowserTask

/-- The phase that a rule is reported under. -/
def BrowserEgressRuleV1.reportedPhase (rule : BrowserEgressRuleV1) : BrowserEgressPhaseV1 :=
  if rule.phase = .login then .navigation else rule.phase

/-- How far the budgets of a rule and of the task are used. -/
def budgetDiagnostic (inForce : BoundaryPolicyV1) (budgets : BrowserBudgetsV1)
    (rule : BrowserEgressRuleV1) : PublicExecutionDiagnosticV1 :=
  .requestBudgetExhausted rule.ruleId rule.reportedPhase (budgets.used rule) rule.maxRequests
    budgets.targetRequests inForce.taskLimit

/-- What is decided of a request before it waits for its permit. -/
inductive BrowserRequestVerdictV1 where
  | deny
  | fail (error : PublicHttpExecutionError)
  | await (judged : JudgedBrowserRequestV1)

/-- What is decided of a request whose rule and origin policy are found. -/
def decideAdmissible (urls : UrlClassV1) (paused : BrowserFetchPausedV1)
    (phase : BrowserEgressPhaseV1) (operation runtimeRequest : Option Nat) (ambient : Bool)
    (rule : BrowserEgressRuleV1) (originPolicy : OriginTrafficPolicyV1)
    (boundary : BrowserBoundaryV1) : BrowserRequestVerdictV1 :=
  let inForce := boundary.handlerState
  let scope := boundary.scopes.operation? operation
  let isPreflight := decide (paused.method = ascii "OPTIONS")
  if scope.any fun scope => !scope.allowedRuleIds.contains rule.ruleId then .fail {
    code := .requestBlocked
    message := ascii "browser operation emitted an undeclared request" }
  else if browserRequestBudgetExhausted inForce boundary.budgets rule then .fail {
    code := .requestBudgetExhausted
    message := ascii "browser request budget is exhausted: " ++ describeRequest urls paused phase ++
      ascii " would be target request " ++ natText (boundary.budgets.targetRequests + 1) ++
      ascii " of " ++ natText inForce.taskLimit
    diagnostic := some (budgetDiagnostic inForce boundary.budgets rule) }
  else
    match validateBrowserRequestBodiesForRule paused.requestBody inForce.policy
      (scope.bind (·.requestBodyPolicy)) rule isPreflight with
    | .error error => .fail error
    | .ok bodies => .await {
        operation
        runtimeRequest
        ambient
        phase
        rule
        originPolicy
        bodies
        isPreflight
        signal := inForce.options.signal
        workloadId := inForce.options.workloadId }

/-- Whether a request is one that only a page script's rule could admit. -/
def isProgram (urls : UrlClassV1) (paused : BrowserFetchPausedV1) (boundary : BrowserBoundaryV1) :
    Bool :=
  isProgramTraffic urls paused boundary.scopes.programOrigin &&
    !coveredByResourceRule urls boundary.handlerState.policy paused

/-- Whether a request is the page's own loading while a program or the runtime's request is under
way. -/
def isAmbient (urls : UrlClassV1) (paused : BrowserFetchPausedV1) (boundary : BrowserBoundaryV1) :
    Bool :=
  let mainFrameDocument := isMainFrameDocument paused boundary.mainFrameId
  (boundary.scopes.activePageScript.isSome && !isProgram urls paused boundary &&
      !mainFrameDocument) ||
    (boundary.scopes.activeRuntimeRequest.isSome &&
      !PROGRAM_RESOURCE_TYPES.contains paused.resourceType && !mainFrameDocument)

/-- The scope that a request belongs to. -/
def BrowserScopesV1.scopeOf (scopes : BrowserScopesV1) (ambient : Bool) : Option Nat :=
  if ambient then none else scopes.activePageScript.or scopes.activeAction

/-- Whether a request is the runtime's own. -/
def BrowserScopesV1.isRuntime (scopes : BrowserScopesV1) (ambient : Bool) : Bool :=
  scopes.activeRuntimeRequest.isSome && !ambient

/-- The phase that a request is judged in. -/
def BrowserScopesV1.phaseOf (scopes : BrowserScopesV1) (ambient mainFrameDocument : Bool) :
    BrowserEgressPhaseV1 :=
  if scopes.isRuntime ambient then .runtimeRequest
  else
    match scopes.operation? (scopes.scopeOf ambient) with
    | some scope => scope.phase
    | none => if mainFrameDocument then .navigation else .resource

/-- What is decided of a request that is outside the policy: only the task's own is bound to be
declared. -/
def refuseUndeclared (urls : UrlClassV1) (paused : BrowserFetchPausedV1)
    (boundary : BrowserBoundaryV1) : BrowserRequestVerdictV1 :=
  let ambient := isAmbient urls paused boundary
  let mainFrameDocument := isMainFrameDocument paused boundary.mainFrameId
  if mainFrameDocument || boundary.scopes.isRuntime ambient ||
      (boundary.scopes.activePageScript.isSome && isProgram urls paused boundary) then .fail {
    code := .requestBlocked
    message := ascii "browser request is outside its signed egress policy"
    diagnostic := some (egressDiagnostic urls paused
      (boundary.scopes.phaseOf ambient mainFrameDocument)) }
  else .deny

/-- What is decided of a request that no scope forbids. -/
def decideInScope (urls : UrlClassV1) (paused : BrowserFetchPausedV1)
    (boundary : BrowserBoundaryV1) : BrowserRequestVerdictV1 :=
  let ambient := isAmbient urls paused boundary
  let phase := boundary.scopes.phaseOf ambient (isMainFrameDocument paused boundary.mainFrameId)
  match matchPausedRequest urls boundary.handlerState.policy paused phase,
    findOriginPolicy urls boundary.handlerState.capability.originTrafficPolicies paused.url with
  | some rule, some originPolicy =>
    decideAdmissible urls paused phase (boundary.scopes.scopeOf ambient)
      boundary.scopes.activeRuntimeRequest ambient rule originPolicy boundary
  | _, _ => refuseUndeclared urls paused boundary

/-- What is decided of a paused request. -/
def decideBrowserRequest (urls : UrlClassV1) (paused : BrowserFetchPausedV1)
    (boundary : BrowserBoundaryV1) : BrowserRequestVerdictV1 :=
  let mainFrameDocument := isMainFrameDocument paused boundary.mainFrameId
  if boundary.scopes.pageScriptNetworkSealed then
    if !isProgram urls paused boundary && !mainFrameDocument then .deny
    else .fail {
      code := .requestBlocked
      message := ascii "browser page-script emitted network traffic after its signed scope closed"
      diagnostic := some (egressDiagnostic urls paused .pageScript) }
  else if boundary.scopes.activePageScript.isSome && mainFrameDocument then .fail {
    code := .requestBlocked
    message :=
      ascii "browser page-script triggered a main-frame navigation while its scope was open"
    diagnostic := some (egressDiagnostic urls paused .pageScript) }
  else decideInScope urls paused boundary

/-- Settles the earlier attempts of a request that was issued again under its network id. -/
def supersedeEarlierAttempts (paused : BrowserFetchPausedV1) (traffic : BrowserTrafficV1) :
    BrowserTrafficV1 :=
  if paused.networkId.isSome then
    traffic.releaseAll fun admission =>
      admission.networkId == paused.networkId && admission.requestId != paused.requestId
  else traffic

/-- Settles the admission that a redirected request came from and counts the hop. -/
def followRedirectHop (paused : BrowserFetchPausedV1) (boundary : BrowserBoundaryV1) :
    BrowserBoundaryV1 × Option PublicHttpExecutionError :=
  match paused.redirectedFrom with
  | none => (boundary, none)
  | some requestId =>
    let settled :=
      { boundary with traffic := boundary.traffic.releaseVanishedRequest requestId }
    match OrderedMap.get? boundary.traffic.admitted requestId with
    | none => (settled, none)
    | some admission =>
      let chain := paused.networkId.getD requestId
      let hops := (OrderedMap.get? boundary.redirectHops chain).getD 0 + 1
      if admission.originPolicy.maxRedirectHops < hops then
        ({ settled with redirectHops := OrderedMap.delete boundary.redirectHops chain },
          some {
            code := .requestBlocked
            message := ascii "redirect limit is exhausted: " ++ admission.description ++
              ascii " would be hop " ++ natText hops ++ ascii " of at most " ++
              natText admission.originPolicy.maxRedirectHops })
      else ({ settled with redirectHops := OrderedMap.set boundary.redirectHops chain hops }, none)

/-- A handler of a paused request up to its first wait. -/
def handleBrowserRequestStage (urls : UrlClassV1) (handler : PausedHandlerV1)
    (boundary : BrowserBoundaryV1) : BrowserBoundaryV1 :=
  let paused := handler.paused
  let superseded :=
    { boundary with traffic := supersedeEarlierAttempts paused boundary.traffic }
  match followRedirectHop paused superseded with
  | (followed, some refused) => followed.fail handler refused
  | (followed, none) =>
    match decideBrowserRequest urls paused followed with
    | .deny => followed.deny urls handler
    | .fail error => followed.fail handler error
    | .await judged => { followed with
        handlers := followed.handlers.park handler (.acquiring judged) }

/-- Whether the scope a request was issued under is no longer the one in force. -/
def browserRequestScopeChanged (scopes : BrowserScopesV1) (judged : JudgedBrowserRequestV1) :
    Bool :=
  if scopes.pageScriptNetworkSealed then true
  else
    match scopes.operation? judged.operation with
    | some scope =>
      if scope.phase = .pageScript then scopes.activePageScript != judged.operation
      else !scope.released && scopes.activeAction != judged.operation
    | none =>
      judged.runtimeRequest.isSome && scopes.activeRuntimeRequest != judged.runtimeRequest

/-- Why a request that has its permit may not be admitted after all. -/
def validatePostAcquireState (judged : JudgedBrowserRequestV1) (boundary : BrowserBoundaryV1) :
    Option PublicHttpExecutionError :=
  let inForce := boundary.handlerState
  let budgets := boundary.budgets
  let exhausted (message : Units) : Option PublicHttpExecutionError :=
    some { code := .requestBudgetExhausted, message }
  if boundary.closed then
    some { code := .cancelled, message := ascii "browser network boundary is closed" }
  else if boundary.fatal.isSome then boundary.fatal
  else if !judged.ambient && browserRequestScopeChanged boundary.scopes judged then some {
    code := .requestBlocked
    message := ascii "browser request scope changed while awaiting scheduler admission" }
  else if browserRequestBudgetExhausted inForce budgets judged.rule then some {
    code := .requestBudgetExhausted
    message := ascii "browser request budget is exhausted: rule " ++ judged.rule.ruleId ++
      ascii " has used " ++ natText (budgets.used judged.rule) ++ ascii " of " ++
      natText judged.rule.maxRequests ++ ascii " requests and the task " ++
      natText budgets.targetRequests ++ ascii " of " ++ natText inForce.taskLimit
    diagnostic := some (budgetDiagnostic inForce budgets judged.rule) }
  else if inForce.policy.maxEncodedRequestBodyBytesPerBrowserTask <
      budgets.requestBodyBytes + judged.bodies.task then
    exhausted (ascii "browser request body budget is exhausted")
  else
    match boundary.scopes.operation? judged.operation, judged.bodies.operation with
    | some scope, some bytes =>
      if scope.requestBodyPolicy.any fun limits =>
          decide (limits.maxEncodedRequestBodyBytesPerBrowserTask < scope.requestBodyBytes + bytes)
      then exhausted (ascii "browser operation request body budget is exhausted")
      else none
    | _, _ => none

/-- The budgets with one more admission. -/
def BrowserBudgetsV1.charge (paused : BrowserFetchPausedV1) (judged : JudgedBrowserRequestV1)
    (budgets : BrowserBudgetsV1) : BrowserBudgetsV1 :=
  { budgets with
    ruleRequests :=
      OrderedMap.set budgets.ruleRequests judged.rule.ruleId (budgets.used judged.rule + 1)
    targetRequests := budgets.targetRequests + 1
    requestBodyBytes := budgets.requestBodyBytes + judged.bodies.task
    admissions := (paused, judged) :: budgets.admissions }

/-- A scope with one more request of its own. -/
def ActiveBrowserOperationV1.charge (judged : JudgedBrowserRequestV1)
    (scope : ActiveBrowserOperationV1) : ActiveBrowserOperationV1 :=
  { scope with
    requestBodyBytes := scope.requestBodyBytes + judged.bodies.operation.getD 0
    matchingRequests :=
      if judged.isPreflight then scope.matchingRequests
      else OrderedMap.set scope.matchingRequests judged.rule.ruleId
        ((OrderedMap.get? scope.matchingRequests judged.rule.ruleId).getD 0 + 1) }

/-- The scopes with one more request charged to the one it was issued under. -/
def BrowserScopesV1.charge (judged : JudgedBrowserRequestV1) (scopes : BrowserScopesV1) :
    BrowserScopesV1 :=
  match judged.operation with
  | none => scopes
  | some operation =>
    { scopes with operations := scopes.operations.modify operation (·.charge judged) }

/-- Whether an action ended while its request waited for admission. -/
def actionEnded (scopes : BrowserScopesV1) (judged : JudgedBrowserRequestV1) : Bool :=
  (scopes.operation? judged.operation).any fun scope =>
    scope.phase == .interaction && !scope.released && scopes.activeAction != judged.operation

/-- The entry of a request that is admitted with a permit. -/
def admissionOf (urls : UrlClassV1) (paused : BrowserFetchPausedV1)
    (judged : JudgedBrowserRequestV1) (permit : Nat) : AdmittedBrowserRequestV1 where
  requestId := paused.requestId
  permit
  rule := judged.rule
  networkId := paused.networkId
  description := describeRequest urls paused judged.phase
  originPolicy := judged.originPolicy
  operation := judged.operation

/-- A handler that goes on with the permit it was granted. -/
def admitBrowserRequest (urls : UrlClassV1) (handler : PausedHandlerV1)
    (judged : JudgedBrowserRequestV1) (permit : Nat) (boundary : BrowserBoundaryV1) :
    BrowserBoundaryV1 :=
  let returned := { boundary with traffic := boundary.traffic.releasePermit permit .neutral }
  -- A request that an ended action leaves behind is the page's own: it is refused quietly.
  if actionEnded boundary.scopes judged then returned.deny urls handler
  else
    match validatePostAcquireState judged boundary with
    | some error => returned.fail handler error
    | none =>
      { boundary with
        traffic := boundary.traffic.register (admissionOf urls handler.paused judged permit)
        budgets := boundary.budgets.charge handler.paused judged
        scopes := boundary.scopes.charge judged
        handlers := boundary.handlers.send handler .continueRequest (.continuing permit) }

/-- A handler that the scheduler turned away. -/
def handleAcquireFailure (handler : PausedHandlerV1) (cancelled : Bool) (message : Units)
    (boundary : BrowserBoundaryV1) : BrowserBoundaryV1 :=
  boundary.fail handler {
    code := if cancelled then .cancelled else .requestBlocked
    message }

end Klura
