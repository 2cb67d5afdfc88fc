import Klura.Browser.RequestStage

/-! How the boundary reads the response of an admitted request and hands it to the page. -/

namespace Klura

open StrictJson

/-- The statuses of responses that lead elsewhere. -/
def REDIRECT_STATUSES : List Nat := [301, 302, 303, 307, 308]

/-- A header's name in lower case. -/
def lowerCase (name : Units) : Units :=
  name.map fun unit => if isUpper unit then unit + 32 else unit

/-- Where a response leads, when the browser follows it. -/
def redirectLocation (paused : BrowserFetchPausedV1) : Option Units :=
  if paused.responseStatus.all fun status => !REDIRECT_STATUSES.contains status then none
  else
    match paused.responseHeaders.find? fun header => lowerCase header.1 == ascii "location" with
    | none => none
    | some header => if header.2.isEmpty then none else some header.2

/-- What the hops of a chain of redirects are counted under. -/
def redirectChainKey (paused : BrowserFetchPausedV1) : Units :=
  paused.networkId.getD paused.requestId

/-- The headers of a response whose body was read. -/
def rewriteResponseHeaders (headers : List (Units × Units)) (bodyLength : Nat) :
    List (Units × Units) :=
  (headers.filter fun header =>
    lowerCase header.1 != ascii "content-length" && lowerCase header.1 != ascii "content-encoding") ++
    [(ascii "content-length", natText bodyLength)]

/-- What the browser says when it is asked for more of a body. -/
inductive StreamReplyV1 where
  /-- A protocol error. -/
  | dropped
  /-- A reply without one of the properties that come before its bytes. -/
  | lacks (property : Units)
  /-- Some bytes, and whether they are the last ones when the reply says so. -/
  | chunk (data : Bytes) (eof : Option Bool)

/-- The error of a reply that lacks a property. -/
def lacksProperty (property : Units) : BodyOutcomeV1 :=
  .failed {
    code := .transportFailure
    message := ascii "browser CDP response lacks " ++ property }

/-- The error of a body that may not be read. -/
def tooLarge (message : Units) : BodyOutcomeV1 := .failed { code := .responseTooLarge, message }

/-- What the replies to the reads of a body come to, when they come to an end. -/
def readChunks (maximumBytes : Int) : List StreamReplyV1 → Bytes → Option BodyOutcomeV1
  | [], _ => none
  | .dropped :: _, _ => some .dropped
  | .lacks property :: _, _ => some (lacksProperty property)
  | .chunk data eof :: rest, read =>
    let total := read ++ data
    if maximumBytes < total.length then
      some (tooLarge (ascii "browser response exceeds its signed limit"))
    else
      match eof with
      | none => some (lacksProperty (ascii "eof"))
      | some true => some (.body total)
      | some false => readChunks maximumBytes rest total

/-- What reading the body of a paused response comes to: the first reply opens the stream. -/
def readPausedResponseBody (maximumBytes : Int) (replies : List StreamReplyV1) :
    Option BodyOutcomeV1 :=
  if maximumBytes < 1 then some (tooLarge (ascii "browser response budget is exhausted"))
  else
    match replies with
    | [] => none
    | .dropped :: _ => some .dropped
    | .lacks property :: _ => some (lacksProperty property)
    | .chunk _ _ :: rest => readChunks maximumBytes rest []

/-- The bytes that a response may have where the task has some left. -/
def responseLimit (policy : BrowserResourcePolicyV1) (rule : BrowserEgressRuleV1)
    (remaining : Int) : Int :=
  min (min (rule.maxEncodedResponseBytes : Int) policy.maxSingleResponseBytes) remaining

/-- What reading came to, its refusal for size with the limits that were in force. -/
def describeBody (urls : UrlClassV1) (policy : BrowserResourcePolicyV1)
    (paused : BrowserFetchPausedV1) (admission : AdmittedBrowserRequestV1) (limit remaining : Int)
    (outcome : BodyOutcomeV1) : BodyOutcomeV1 :=
  match outcome with
  | .failed error =>
    if error.code = .responseTooLarge then
      let rule := admission.rule
      let phase := rule.reportedPhase
      let url := urls.parse paused.url
      .failed {
        code := .responseTooLarge
        message := error.message ++ ascii ": " ++ describeRequest urls paused phase ++
          ascii " may carry at most " ++ integerText limit ++ ascii " bytes (rule " ++
          rule.ruleId ++ ascii " " ++ natText rule.maxEncodedResponseBytes ++
          ascii ", single response " ++ natText policy.maxSingleResponseBytes ++
          ascii ", task remaining " ++ integerText remaining ++ ascii ")"
        diagnostic := some (.responseLimitExceeded rule.ruleId phase (url.map (·.origin))
          (url.map (·.pathname)) paused.method limit) }
    else outcome
  | outcome => outcome

/-- The budgets with one more body. -/
def BrowserBudgetsV1.chargeBody (rule : BrowserEgressRuleV1) (outcome : BodyOutcomeV1)
    (budgets : BrowserBudgetsV1) : BrowserBudgetsV1 :=
  match outcome with
  | .body bytes =>
    { budgets with
      responseBytes := budgets.responseBytes + bytes.length
      bodies := (rule, bytes.length) :: budgets.bodies }
  | _ => budgets

/-- Lets the browser follow a redirect, whose admission is settled first. -/
def continueRedirect (urls : UrlClassV1) (handler : PausedHandlerV1) (status : Nat)
    (admission : AdmittedBrowserRequestV1) (boundary : BrowserBoundaryV1) : BrowserBoundaryV1 :=
  let paused := handler.paused
  let chain := redirectChainKey paused
  let hops := (OrderedMap.get? boundary.redirectHops chain).getD 0 + 1
  if admission.originPolicy.maxRedirectHops < hops then
    let described :=
      match urls.parse paused.url with
      | some url => paused.method ++ ascii " " ++ url.origin ++ url.pathname
      | none => paused.method ++ ascii " request"
    { boundary with redirectHops := OrderedMap.delete boundary.redirectHops chain }.fail handler {
      code := .requestBlocked
      message := ascii "redirect limit is exhausted: " ++ described ++ ascii " " ++ [0x2192] ++
        ascii " " ++ natText status ++ ascii " would be hop " ++ natText hops ++
        ascii " of at most " ++ natText admission.originPolicy.maxRedirectHops }
  else
    { boundary with
      redirectHops := OrderedMap.set boundary.redirectHops chain hops
      traffic := boundary.traffic.settleAdmission paused.requestId admission .success
      handlers :=
        boundary.handlers.send handler .continueRequest (.redirecting admission.permit) }

/-- A handler of a paused response up to its first wait. -/
def handleResponseStage (urls : UrlClassV1) (handler : PausedHandlerV1) (status : Nat)
    (boundary : BrowserBoundaryV1) : BrowserBoundaryV1 :=
  match OrderedMap.get? boundary.traffic.admitted handler.paused.requestId with
  | none => boundary.fail handler {
      code := .requestBlocked
      message := ascii "browser response has no admitted request" }
  | some admission =>
    if (redirectLocation handler.paused).isSome then
      continueRedirect urls handler status admission boundary
    else
      { boundary with
        redirectHops := OrderedMap.delete boundary.redirectHops (redirectChainKey handler.paused)
        handlers := { boundary.handlers.park handler (.queued admission) with
          responseBodyQueue := boundary.handlers.responseBodyQueue ++ [handler.id] } }

/-- A handler whose turn it is to read: the limit is what the task has left at this moment. -/
def beginBody (handler : PausedHandlerV1) (admission : AdmittedBrowserRequestV1)
    (boundary : BrowserBoundaryV1) : BrowserBoundaryV1 :=
  let policy := boundary.handlerState.policy
  let remaining :=
    policy.maxEncodedResponseBytesPerBrowserTask - (boundary.budgets.responseBytes : Int)
  let limit := responseLimit policy admission.rule remaining
  { boundary with handlers := boundary.handlers.park handler (.reading admission limit remaining) }

/-- A handler that has read: the bytes are charged and the next one may read. -/
def endBody (urls : UrlClassV1) (handler : PausedHandlerV1) (admission : AdmittedBrowserRequestV1)
    (limit remaining : Int) (outcome : BodyOutcomeV1) (boundary : BrowserBoundaryV1) :
    BrowserBoundaryV1 :=
  let policy := boundary.handlerState.policy
  let described := describeBody urls policy handler.paused admission limit remaining outcome
  { boundary with
    budgets := boundary.budgets.chargeBody admission.rule outcome
    handlers := { boundary.handlers.park handler (.bodyRead admission described) with
      responseBodyQueue := boundary.handlers.responseBodyQueue.tail } }

/-- A handler that ends because the browser no longer holds what it handles. -/
def releaseDropped (handler : PausedHandlerV1) (boundary : BrowserBoundaryV1) :
    BrowserBoundaryV1 :=
  { boundary with
    traffic := boundary.traffic.releaseVanishedRequest handler.paused.requestId
    handlers := (boundary.handlers.drop handler).finish handler }

/-- A handler that goes on with what reading the body came to. -/
def answerBody (handler : PausedHandlerV1) (admission : AdmittedBrowserRequestV1)
    (outcome : BodyOutcomeV1) (boundary : BrowserBoundaryV1) : BrowserBoundaryV1 :=
  match outcome with
  | .body bytes =>
    let paused := handler.paused
    let answer : BrowserAnswerV1 := .fulfillRequest (paused.responseStatus.getD 0)
      (rewriteResponseHeaders paused.responseHeaders bytes.length) bytes
    { boundary with
      handlers := boundary.handlers.send handler answer (.fulfilling admission)
      handed := (admission.rule, bytes.length) :: boundary.handed }
  | .failed error => boundary.fail handler error
  | .dropped => releaseDropped handler boundary

/-- A handler whose response the browser took. -/
def settleFulfilled (handler : PausedHandlerV1) (admission : AdmittedBrowserRequestV1)
    (boundary : BrowserBoundaryV1) : BrowserBoundaryV1 :=
  let outcome : SchedulerCompletionV1 :=
    if handler.paused.responseStatus.any fun status => decide (500 ≤ status) then .transientFailure
    else .success
  { boundary with
    traffic := boundary.traffic.settleAdmission handler.paused.requestId admission outcome
    handlers := boundary.handlers.finish handler }

end Klura
