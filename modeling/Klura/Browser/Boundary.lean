import Klura.Browser.RequestBody

/-! The state of the network boundary of a page, and what settles the requests it admitted. -/

namespace Klura

open StrictJson

/-- The most refused subresources that are recorded. -/
def MAX_RECORDED_DENIED_RESOURCES_V1 : Nat := 64

/-- The most refused subresources of one kind that are recorded. -/
def MAX_RECORDED_DENIED_RESOURCES_PER_KIND_V1 : Nat := 4

/-- The scope of an action or a page script: the rules it may use and what it used. -/
structure ActiveBrowserOperationV1 where
  phase : BrowserEgressPhaseV1
  allowedRuleIds : List Units
  matchingRequests : OrderedMap Units Nat
  requestBodyBytes : Nat
  requestBodyPolicy : Option BrowserRequestBodyPolicyV1
  released : Bool

/-- A request that was admitted and is not settled, with the permit it holds. -/
structure AdmittedBrowserRequestV1 where
  requestId : Units
  permit : Nat
  rule : BrowserEgressRuleV1
  networkId : Option Units
  description : Units
  originPolicy : OriginTrafficPolicyV1
  operation : Option Nat

/-- A request that a rule admits and that asks the scheduler for its permit. -/
structure JudgedBrowserRequestV1 where
  operation : Option Nat
  runtimeRequest : Option Nat
  ambient : Bool
  phase : BrowserEgressPhaseV1
  rule : BrowserEgressRuleV1
  originPolicy : OriginTrafficPolicyV1
  bodies : BrowserRequestBodyAdmissionsV1
  isPreflight : Bool
  signal : Nat
  workloadId : Option Units

/-- What reading the body of a paused response came to. -/
inductive BodyOutcomeV1 where
  | body (bytes : Bytes)
  | failed (error : PublicHttpExecutionError)
  /-- A protocol error: the browser no longer holds the response. -/
  | dropped

/-- The handler of something the browser paused; a request's counts as a pending admission. -/
structure PausedHandlerV1 where
  id : Nat
  paused : BrowserFetchPausedV1
  counted : Bool

/-- What a suspended handler waits for. -/
inductive HandlerStageV1 where
  /-- For the scheduler's permit. -/
  | acquiring (judged : JudgedBrowserRequestV1)
  /-- To go on with the permit it was granted. -/
  | granted (judged : JudgedBrowserRequestV1) (permit : Nat)
  /-- For the browser to continue the request it admitted. -/
  | continuing (permit : Nat)
  /-- For the browser to fail what it refused. -/
  | answering
  /-- For its turn to read a body. -/
  | queued (admission : AdmittedBrowserRequestV1)
  /-- For the body it reads, with what it may have and what the task has left. -/
  | reading (admission : AdmittedBrowserRequestV1) (limit remaining : Int)
  /-- To go on with what reading came to. -/
  | bodyRead (admission : AdmittedBrowserRequestV1) (outcome : BodyOutcomeV1)
  /-- For the browser to take the response. -/
  | fulfilling (admission : AdmittedBrowserRequestV1)
  /-- For the browser to follow the redirect. -/
  | redirecting (permit : Nat)

/-- What the browser is told to do with what it paused. -/
inductive BrowserAnswerV1 where
  | continueRequest
  | fail
  | deny
  | fulfillRequest (status : Nat) (headers : List (Units × Units)) (body : Bytes)

/-- A wait for the page to be quiet: the requests it allows, and whether its timer runs. -/
structure QuietWaiterV1 where
  id : Nat
  maximumInFlight : Nat
  quietMs : Nat
  timer : Bool

/-- A policy with the capability and the options it comes from. -/
structure BoundaryPolicyV1 where
  capability : BrowserNetworkCapabilityV1
  policy : BrowserResourcePolicyV1
  options : BrowserBoundaryOptionsV1

/-- The admitted requests, who waits for them to settle, and the permits given and taken back. -/
structure BrowserTrafficV1 where
  admitted : OrderedMap Units AdmittedBrowserRequestV1 := []
  activeRequests : Int := 0
  quietWaiters : List QuietWaiterV1 := []
  nextWaiter : Nat := 0
  nextPermit : Nat := 0
  /-- The permits released so far, latest first. -/
  released : List (Nat × SchedulerCompletionV1) := []

/-- What was used of the budgets since the policy came into force. -/
structure BrowserBudgetsV1 where
  ruleRequests : OrderedMap Units Nat := []
  targetRequests : Nat := 0
  responseBytes : Nat := 0
  requestBodyBytes : Nat := 0
  /-- The admissions that were charged, latest first. -/
  admissions : List (BrowserFetchPausedV1 × JudgedBrowserRequestV1) := []
  /-- The rules of the bodies that were charged and their bytes, latest first. -/
  bodies : List (BrowserEgressRuleV1 × Nat) := []

/-- The scopes of actions, of page scripts and of the runtime's requests. -/
structure BrowserScopesV1 where
  operations : List ActiveBrowserOperationV1 := []
  nextRuntimeRequest : Nat := 0
  activeAction : Option Nat := none
  activePageScript : Option Nat := none
  activeRuntimeRequest : Option Nat := none
  pageScriptNetworkSealed : Bool := false
  programOrigin : Option Units := none

/-- The subresources that were refused. -/
structure BrowserDenialsV1 where
  deniedRequests : Nat := 0
  deniedByKind : OrderedMap Units Nat := []
  deniedResources : List BrowserDeniedResourceV1 := []

/-- The suspended handlers, whose turn it is to read, and what the browser was told. -/
structure BrowserHandlersV1 where
  suspended : List (PausedHandlerV1 × HandlerStageV1) := []
  nextHandler : Nat := 0
  pendingAdmissions : Int := 0
  responseBodyQueue : List Nat := []
  /-- The handlers that answered and what they said, latest first. -/
  answers : List (Nat × BrowserAnswerV1) := []
  /-- The handlers whose request the browser no longer held. -/
  dropped : List Nat := []

/-- The network boundary of a page. -/
structure BrowserBoundaryV1 where
  /-- The policy that the boundary was last given. -/
  current : BoundaryPolicyV1
  /-- The policy that its handlers read. -/
  handlerState : BoundaryPolicyV1
  mainFrameId : Option Units
  redirectHops : OrderedMap Units Nat := []
  closed : Bool := false
  fatal : Option PublicHttpExecutionError := none
  traffic : BrowserTrafficV1 := {}
  budgets : BrowserBudgetsV1 := {}
  scopes : BrowserScopesV1 := {}
  denials : BrowserDenialsV1 := {}
  handlers : BrowserHandlersV1 := {}
  /-- The rules of the responses handed to the page and their bytes, latest first. -/
  handed : List (BrowserEgressRuleV1 × Nat) := []

namespace BrowserTrafficV1

/-- The waits after a change of the requests in flight: a timer runs just while they are few. -/
def notifyActivity (traffic : BrowserTrafficV1) : BrowserTrafficV1 :=
  { traffic with
    quietWaiters := traffic.quietWaiters.map fun waiter =>
      { waiter with timer := decide (traffic.activeRequests ≤ waiter.maximumInFlight) } }

/-- A permit that its holder gives back. -/
def releasePermit (permit : Nat) (outcome : SchedulerCompletionV1) (traffic : BrowserTrafficV1) :
    BrowserTrafficV1 :=
  { traffic with released := (permit, outcome) :: traffic.released }

/-- Settles the request that is admitted under an id, when there is one. -/
def releaseVanishedRequest (requestId : Units) (traffic : BrowserTrafficV1) : BrowserTrafficV1 :=
  match OrderedMap.get? traffic.admitted requestId with
  | none => traffic
  | some admission =>
    { traffic.releasePermit admission.permit .neutral with
      admitted := OrderedMap.delete traffic.admitted requestId
      activeRequests := traffic.activeRequests - 1 }.notifyActivity

/-- Settles an admission, whatever is admitted under its id by now. -/
def settleAdmission (requestId : Units) (admission : AdmittedBrowserRequestV1)
    (outcome : SchedulerCompletionV1) (traffic : BrowserTrafficV1) : BrowserTrafficV1 :=
  { traffic.releasePermit admission.permit outcome with
    admitted := OrderedMap.delete traffic.admitted requestId
    activeRequests := traffic.activeRequests - 1 }.notifyActivity

/-- Admits a request. -/
def register (admission : AdmittedBrowserRequestV1) (traffic : BrowserTrafficV1) :
    BrowserTrafficV1 :=
  { traffic with
    admitted := OrderedMap.set traffic.admitted admission.requestId admission
    activeRequests := traffic.activeRequests + 1 }.notifyActivity

/-- Settles the admitted requests of some kind. -/
def releaseAll (kind : AdmittedBrowserRequestV1 → Bool) (traffic : BrowserTrafficV1) :
    BrowserTrafficV1 :=
  (traffic.admitted.filter fun entry => kind entry.2).foldl
    (fun traffic entry => traffic.releaseVanishedRequest entry.2.requestId) traffic

/-- Ends every wait for quiet. -/
def rejectQuietWaiters (traffic : BrowserTrafficV1) : BrowserTrafficV1 :=
  { traffic with quietWaiters := [] }

end BrowserTrafficV1

namespace BrowserHandlersV1

/-- A handler that waits. -/
def park (handler : PausedHandlerV1) (stage : HandlerStageV1) (handlers : BrowserHandlersV1) :
    BrowserHandlersV1 :=
  { handlers with suspended := (handler, stage) :: handlers.suspended }

/-- A handler that tells the browser what to do and waits for it to be done. -/
def send (handler : PausedHandlerV1) (answer : BrowserAnswerV1) (stage : HandlerStageV1)
    (handlers : BrowserHandlersV1) : BrowserHandlersV1 :=
  { handlers.park handler stage with answers := (handler.id, answer) :: handlers.answers }

/-- A handler that ends. -/
def finish (handler : PausedHandlerV1) (handlers : BrowserHandlersV1) : BrowserHandlersV1 :=
  if handler.counted then
    { handlers with pendingAdmissions := handlers.pendingAdmissions - 1 }
  else handlers

/-- A handler whose request the browser dropped. -/
def drop (handler : PausedHandlerV1) (handlers : BrowserHandlersV1) : BrowserHandlersV1 :=
  { handlers with dropped := handler.id :: handlers.dropped }

/-- The suspended handler with an id, and the others. -/
def takeHandler (id : Nat) : List (PausedHandlerV1 × HandlerStageV1) →
    Option ((PausedHandlerV1 × HandlerStageV1) × List (PausedHandlerV1 × HandlerStageV1))
  | [] => none
  | entry :: rest =>
    if entry.1.id = id then some (entry, rest)
    else (takeHandler id rest).map fun found => (found.1, entry :: found.2)

end BrowserHandlersV1

namespace BrowserBoundaryV1

/-- Refuses a request for good: the task ends with its first such error. -/
def fail (handler : PausedHandlerV1) (error : PublicHttpExecutionError)
    (boundary : BrowserBoundaryV1) : BrowserBoundaryV1 :=
  { boundary with
    fatal := boundary.fatal.or (some error)
    traffic := (boundary.traffic.releaseVanishedRequest handler.paused.requestId).rejectQuietWaiters
    handlers := boundary.handlers.send handler .fail .answering }

end BrowserBoundaryV1

/-- The record of refused subresources with one more, when there is room for its kind. -/
def BrowserDenialsV1.record (kind : Units) (resource : BrowserDeniedResourceV1)
    (denials : BrowserDenialsV1) : BrowserDenialsV1 :=
  let seen := (OrderedMap.get? denials.deniedByKind kind).getD 0
  let counted := { denials with deniedRequests := denials.deniedRequests + 1 }
  if seen < MAX_RECORDED_DENIED_RESOURCES_PER_KIND_V1 ∧
      denials.deniedResources.length < MAX_RECORDED_DENIED_RESOURCES_V1 then
    { counted with
      deniedByKind := OrderedMap.set denials.deniedByKind kind (seen + 1)
      deniedResources := denials.deniedResources ++ [resource] }
  else counted

/-- The origin that a refused subresource is recorded under. -/
def deniedOrigin (urls : UrlClassV1) (url : Units) : Units :=
  match urls.parse url with
  | some url => url.origin
  | none => ascii "invalid-url"

/-- What is recorded of a refused request. -/
def BrowserFetchPausedV1.denied (paused : BrowserFetchPausedV1) : BrowserDeniedResourceV1 where
  url := paused.url
  method := paused.method
  resourceType := paused.resourceType
  cdpResourceType := paused.cdpResourceType

/-- Refuses a request that the page made on its own, and the task goes on. -/
def BrowserBoundaryV1.deny (urls : UrlClassV1) (handler : PausedHandlerV1)
    (boundary : BrowserBoundaryV1) : BrowserBoundaryV1 :=
  let resource := handler.paused.denied
  let kind := deniedOrigin urls resource.url ++ ascii " " ++ resource.resourceType
  { boundary with
    denials := boundary.denials.record kind resource
    handlers := boundary.handlers.send handler .deny .answering }

end Klura
