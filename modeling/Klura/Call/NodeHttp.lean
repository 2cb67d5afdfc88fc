import Klura.Browser.Strategies

/-! The strategy that runs outside a browser: one request after another along its redirects. -/

namespace Klura

open StrictJson

/-- A request that is ready to be sent, as far as its redirects depend on it. -/
structure PreparedRequestV1 where
  url : UrlV1
  method : Units

/-- A response, as far as its redirect depends on it. -/
structure ReceivedResponseV1 where
  status : Nat
  location : Option Units
  bytes : Bytes

/-- What looking up the addresses of a host comes to. -/
inductive HostLookupV1 where
  /-- The signal was aborted before it or during it. -/
  | cancelled (before : Bool)
  | failed (message : Units)
  | addresses (addresses : List Units)

/-- Why the exchange over a connection failed. -/
inductive ExchangeFailureV1 where
  | cancelled
  | timedOut
  | tooLarge
  | network (message : Units)

/-- What sending a request to an address comes to. -/
inductive ExchangeV1 where
  /-- The request could not be made at all. -/
  | unsendable (message : Units)
  | failed (failure : ExchangeFailureV1)
  | received (response : ReceivedResponseV1)

/-- What a hop of an execution meets. -/
structure NodeHopV1 where
  /-- Whether the signal is aborted when the hop begins. -/
  aborted : Bool
  /-- Why the scheduler gives no permit. -/
  unpermitted : Option Units
  lookup : HostLookupV1
  exchange : ExchangeV1
  /-- Why the permit could not be given back. -/
  unreleased : Option Units

/-- Why the body of a response is not what the strategy projects. -/
inductive ProjectionFailureV1 where
  | publicHttp (code : PublicHttpErrorCodeV1) (message : Units)
  | other (message : Units)

/-- What a failed projection throws. -/
def ProjectionFailureV1.thrown : ProjectionFailureV1 → ThrownV1
  | .publicHttp code message => .publicHttp { code, message }
  | .other message => .other message

/-- What surrounds an execution: its capability, the network and what it relies on. -/
structure NodeNetworkV1 where
  originTrafficPolicies : List OriginTrafficPolicyV1
  requestOrigins : List Units
  /-- The URL that a location names, from the URL of the request. -/
  resolve : Units → UrlV1 → Option UrlV1
  isPublicInternetAddress : Units → Bool
  /-- Why a response is not projected. -/
  project : ReceivedResponseV1 → Option ProjectionFailureV1
  hop : Nat → NodeHopV1

/-- What an execution has come to: the requests it dispatched, and whether its permit is back. -/
structure NodeTaskV1 where
  dispatched : Nat := 0
  released : Bool := false

/-- A program of such an execution. -/
abbrev NodeProgram (α : Type) := Program NodeTaskV1 ThrownV1 α

/-- What a failed exchange throws. -/
def ExchangeFailureV1.thrown : ExchangeFailureV1 → ThrownV1
  | .cancelled =>
    .publicHttp { code := .cancelled, message := ascii "caller cancelled target dispatch" }
  | .timedOut =>
    .publicHttp { code := .requestTimeout, message := ascii "target request timed out" }
  | .tooLarge => .publicHttp {
      code := .responseTooLarge
      message := ascii "target response exceeds its signed limit" }
  | .network message => .other message

/-- The error that a request which was dispatched is rejected with. -/
def dispatchFailure : ThrownV1 → PublicHttpExecutionError
  | .publicHttp error =>
    if 0 < error.targetRequests then error
    else {
      code := error.code
      message := error.shown
      targetRequests := 1
      diagnostic := error.diagnostic }
  | thrown => { code := .transportFailure, message := thrown.message, targetRequests := 1 }

/-- The request leaves. -/
def dispatch : NodeProgram Unit :=
  modify fun task => { task with dispatched := task.dispatched + 1 }

/-- Whether a host has no address, or one that is not public. -/
def NodeNetworkV1.unreachable (network : NodeNetworkV1) (addresses : List Units) : Bool :=
  addresses.length == 0 || addresses.any fun address => !network.isPublicInternetAddress address

/-- Sends a request to the first address of its host. -/
def sendPinnedHttpsRequest (network : NodeNetworkV1) (hop : NodeHopV1) :
    NodeProgram ReceivedResponseV1 := do
  match hop.lookup with
  | .cancelled before => throw (.publicHttp {
      code := .cancelled
      message := if before then ascii "caller cancelled before target dispatch"
        else ascii "caller cancelled target dispatch" })
  | .failed message => throw (.other message)
  | .addresses addresses =>
    if network.unreachable addresses then
      throw (.publicHttp {
        code := .requestBlocked
        message := ascii "DNS resolution did not yield only public addresses" })
    else
      match hop.exchange with
      | .unsendable message => throw (.other message)
      | .failed failure =>
        dispatch
        throw (.publicHttp (dispatchFailure failure.thrown))
      | .received response =>
        dispatch
        return response

/-- An error with the requests that were completed before it added to its own. -/
def withTargetRequestCount (thrown : ThrownV1) (completedTargetRequests : Nat) :
    PublicHttpExecutionError :=
  match thrown with
  | .publicHttp error =>
    if completedTargetRequests = 0 then error
    else {
      code := error.code
      message := error.shown
      targetRequests := completedTargetRequests + error.targetRequests }
  | thrown => {
      code := .transportFailure
      message := thrown.message
      targetRequests := completedTargetRequests }

/-- Gives the permit of a hop back, when it is not back already. -/
def releasePermit (hop : NodeHopV1) : NodeProgram Unit := do
  let task ← get
  if task.released then return
  else
    set { task with released := true }
    match hop.unreleased with
    | some message => throw (.other message)
    | none => return

/-- Whether a status redirects. -/
def isRedirectStatus (status : Nat) : Bool :=
  status == 301 || status == 302 || status == 303 || status == 307 || status == 308

/-- Whether a URL leaves the HTTPS boundary. -/
def violatesTargetUrl (url : UrlV1) : Bool :=
  url.protocol != ascii "https:" || url.username.length != 0 || url.password.length != 0 ||
    url.hash.length != 0

/-- The traffic policy of a request whose origin the capability declares. -/
def NodeNetworkV1.declared (network : NodeNetworkV1) (url : UrlV1) : Option OriginTrafficPolicyV1 :=
  if network.requestOrigins.contains url.origin then
    network.originTrafficPolicies.find? fun policy => policy.origin == url.origin
  else none

/-- What a redirect is refused with, or else the URL that it leads to. -/
def redirectTarget (network : NodeNetworkV1) (request : PreparedRequestV1)
    (policy : OriginTrafficPolicyV1) (redirectHops targetRequests : Nat)
    (received : ReceivedResponseV1) : Except PublicHttpExecutionError UrlV1 :=
  let refuse (code : PublicHttpErrorCodeV1) (message : Units) :
      Except PublicHttpExecutionError UrlV1 := .error { code, message, targetRequests }
  if policy.maxRedirectHops ≤ redirectHops then
    refuse .requestBlocked (ascii "redirect limit is exhausted")
  else
    match received.location.filter fun location => location.length != 0 with
    | none => refuse .transportFailure (ascii "redirect response has no Location header")
    | some location =>
      if request.method ≠ ascii "GET" ∧ received.status ≠ 307 ∧ received.status ≠ 308 then
        refuse .requestBlocked (ascii "redirect would change the declared request method")
      else
        match network.resolve location request.url with
        | none => refuse .requestBlocked (ascii "redirect Location is invalid")
        | some url =>
          if violatesTargetUrl url then .error (withTargetRequestCount (.publicHttp {
            code := .requestBlocked
            message := ascii "target URL violates the HTTPS boundary" }) targetRequests)
          else .ok url

/-- Sends a request and gives its permit back, however it ends. -/
def exchangeHop (network : NodeNetworkV1) (hop : NodeHopV1) (targetRequests : Nat) :
    NodeProgram ReceivedResponseV1 := do
  try
    let received ← sendPinnedHttpsRequest network hop
    releasePermit hop
    pure received
  catch thrown =>
    releasePermit hop
    throw (.publicHttp (withTargetRequestCount thrown targetRequests))

/-- The response of an execution with the requests it took. -/
def respondNode (network : NodeNetworkV1) (received : ReceivedResponseV1) (targetRequests : Nat) :
    NodeProgram PublicHttpResponseV1 := do
  match network.project received with
  | some failure =>
    throw (.publicHttp (withTargetRequestCount failure.thrown targetRequests))
  | none => return { status := received.status, targetRequests, deniedResources := [] }

/-- Asks for the permit of a hop. -/
def acquirePermit (hop : NodeHopV1) : NodeProgram Unit := do
  match hop.unpermitted with
  | some message => throw (.other message)
  | none => modify fun task => { task with released := false }

/-- Sends a request and what its redirects lead to, within the ceiling of the execution. -/
def executeRedirectSequence (network : NodeNetworkV1) (maxTargetRequests : Nat)
    (request : PreparedRequestV1) (redirectHops targetRequests : Nat) :
    NodeProgram PublicHttpResponseV1 :=
  let hop := network.hop targetRequests
  if hop.aborted then throw (.publicHttp {
    code := .cancelled
    message := ascii "caller cancelled before target dispatch" })
  else
    match network.declared request.url with
    | none => throw (.publicHttp {
      code := .requestBlocked
      message := ascii "request origin is not declared by the capability" })
    | some policy =>
      if exhausted : maxTargetRequests ≤ targetRequests then throw (.publicHttp {
        code := .requestBudgetExhausted
        message := ascii "signed target request budget is exhausted"
        targetRequests })
      else do
        acquirePermit hop
        let received ← exchangeHop network hop targetRequests
        if isRedirectStatus received.status then
          match redirectTarget network request policy redirectHops (targetRequests + 1) received with
          | .error refused => throw (.publicHttp refused)
          | .ok url =>
            executeRedirectSequence network maxTargetRequests { request with url }
              (redirectHops + 1) (targetRequests + 1)
        else respondNode network received (targetRequests + 1)
termination_by maxTargetRequests - targetRequests

/-- A call of a strategy that runs outside a browser. -/
structure NodeCallV1 where
  /-- Whether the capability has the strategy. -/
  belongs : Bool
  /-- Whether the strategy asks to be run outside a browser. -/
  nodeContext : Bool
  maxTargetRequestsPerCall : Nat
  timeoutMs : JsonNumber
  maxTargetRequests : JsonNumber
  /-- The contract error of the input, when it has one. -/
  invalidInput : Option Units
  /-- The request, or why it is not built. -/
  request : Except ProjectionFailureV1 PreparedRequestV1
  /-- Whether the deadline has passed when the sequence ends. -/
  timedOut : Bool

/-- Why such a call is not begun, or else its request. -/
def refuseNodeHttp (call : NodeCallV1) : Except ThrownV1 PreparedRequestV1 :=
  let checks := [
    (!call.belongs, ascii "strategy is absent from the selected capability"),
    (!call.nodeContext, ascii "node HTTP execution requires a node-context strategy"),
    (!BrowserCallV1.safeWithin call.timeoutMs 1 JsonNumber.maxSafeInteger,
      ascii "timeout_ms must be a positive integer"),
    (!BrowserCallV1.safeWithin call.maxTargetRequests 1 call.maxTargetRequestsPerCall,
      ascii "max_target_requests must fit the selected capability budget")]
  match checks.find? fun check => check.1, call.invalidInput, call.request with
  | some check, _, _ => .error (.publicHttp { code := .invalidRequest, message := check.2 })
  | none, some message, _ => .error (.other message)
  | none, none, .error (.publicHttp code message) => .error (.publicHttp { code, message })
  | none, none, .error (.other message) =>
    .error (.publicHttp { code := .invalidRequest, message })
  | none, none, .ok request => .ok request

/-- The requests that an error of public HTTP counts; any other counts none. -/
def countedRequests : ThrownV1 → Nat
  | .publicHttp error => error.targetRequests
  | _ => 0

/-- Runs a strategy outside a browser; when its deadline has passed that is its error. -/
def executeNodeHttpStrategy (call : NodeCallV1) (network : NodeNetworkV1) :
    NodeProgram PublicHttpResponseV1 := do
  match refuseNodeHttp call with
  | .error thrown => throw thrown
  | .ok request =>
    try
      executeRedirectSequence network (call.maxTargetRequests.safeInteger.getD 0).toNat request 0 0
    catch thrown =>
      if call.timedOut then throw (.publicHttp {
        code := .requestTimeout
        message := ascii "target request deadline expired"
        targetRequests := countedRequests thrown })
      else throw thrown

end Klura
