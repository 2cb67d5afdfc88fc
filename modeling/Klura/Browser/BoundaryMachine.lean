import Klura.Browser.ResponseStage
import Klura.Library.Machine

/-! The network boundary as a machine: what its handlers, the browser and its users may do next. -/

namespace Klura

open StrictJson

/-- What an action expects of its requests: their rules, and whether a wait completes it. -/
structure BrowserActionExpectationV1 where
  egressRuleIds : List Units
  waits : Bool

/-- Something that happens at the boundary. -/
inductive BrowserEventV1 where
  /-- The browser pauses a request or a response. -/
  | requestPaused (paused : BrowserFetchPausedV1)
  /-- The browser reports a pause that is malformed. -/
  | malformedPaused
  /-- The scheduler grants a handler its permit. -/
  | acquired (handler : Nat)
  /-- The scheduler turns a handler away. -/
  | acquireFailed (handler : Nat) (cancelled : Bool) (message : Units)
  /-- A handler goes on with its permit or with the body it read. -/
  | resumed (handler : Nat)
  /-- A handler begins to read. -/
  | bodyOpened (handler : Nat)
  /-- The browser has replied to the reads of a handler. -/
  | bodyReplied (handler : Nat) (replies : List StreamReplyV1)
  /-- The browser did what a handler told it. -/
  | commandDone (handler : Nat)
  /-- The browser no longer holds what a handler's command is about. -/
  | commandRejected (handler : Nat)
  /-- A load finished or failed. -/
  | loadingEnded (networkId : Units)
  | beginRuntimeRequest
  | endRuntimeRequest (scope : Nat)
  | beginAction (expect : BrowserActionExpectationV1)
  | finishAction (scope : Nat) (expect : BrowserActionExpectationV1)
  | abortAction (scope : Nat)
  | beginPageScript (expect : BrowserActionExpectationV1) (limits : BrowserRequestBodyPolicyV1)
      (origin : Units)
  | finishPageScript (scope : Nat)
  | abortPageScript (scope : Nat)
  | waitForQuiet (maximumInFlight quietMs : Nat)
  /-- The timer of a wait runs out. -/
  | quietElapsed (waiter : Nat)
  /-- The caller gives up a wait. -/
  | quietAborted (waiter : Nat)
  | transition (capability : BrowserNetworkCapabilityV1) (options : BrowserBoundaryOptionsV1)
  | close

/-- The boundary that is installed for a capability that has a resource policy. -/
def installBrowserNetworkBoundary (capability : BrowserNetworkCapabilityV1)
    (options : BrowserBoundaryOptionsV1) (mainFrameId : Option Units) :
    Except PublicHttpExecutionError BrowserBoundaryV1 :=
  match capability.browserResources with
  | none => .error {
      code := .invalidRequest
      message := ascii "browser resource policy is absent" }
  | some policy => .ok {
      current := { capability, policy, options }
      handlerState := { capability, policy, options }
      mainFrameId }

namespace BrowserScopesV1

/-- Whether no scope is open. -/
def free (scopes : BrowserScopesV1) : Bool :=
  scopes.activeAction.isNone && scopes.activePageScript.isNone && scopes.activeRuntimeRequest.isNone

/-- Opens the scope of a request of the runtime. -/
def beginRuntimeRequest (scopes : BrowserScopesV1) : BrowserScopesV1 :=
  if scopes.free then
    { scopes with
      activeRuntimeRequest := some scopes.nextRuntimeRequest
      nextRuntimeRequest := scopes.nextRuntimeRequest + 1 }
  else scopes

/-- Closes the scope of a request of the runtime, when it is the one that is open. -/
def endRuntimeRequest (scope : Nat) (scopes : BrowserScopesV1) : BrowserScopesV1 :=
  if scopes.activeRuntimeRequest = some scope then { scopes with activeRuntimeRequest := none }
  else scopes

/-- A scope that has just been opened. -/
def opened (phase : BrowserEgressPhaseV1) (expect : BrowserActionExpectationV1)
    (requestBodyPolicy : Option BrowserRequestBodyPolicyV1) : ActiveBrowserOperationV1 where
  phase
  allowedRuleIds := expect.egressRuleIds
  matchingRequests := []
  requestBodyBytes := 0
  requestBodyPolicy
  released := false

/-- Opens the scope of an action. -/
def beginAction (expect : BrowserActionExpectationV1) (scopes : BrowserScopesV1) :
    BrowserScopesV1 :=
  if scopes.free then
    { scopes with
      operations := scopes.operations ++ [opened .interaction expect none]
      activeAction := some scopes.operations.length }
  else scopes

/-- Ends an action; with a declared wait, what it has in flight is the page's own from here on. -/
def finishAction (scope : Nat) (expect : BrowserActionExpectationV1) (scopes : BrowserScopesV1) :
    BrowserScopesV1 :=
  if scopes.activeAction = some scope then
    { scopes with
      operations :=
        if expect.waits then
          scopes.operations.modify scope fun action => { action with released := true }
        else scopes.operations
      activeAction := none }
  else scopes

/-- Gives up an action. -/
def abortAction (scope : Nat) (scopes : BrowserScopesV1) : BrowserScopesV1 :=
  if scopes.activeAction = some scope then { scopes with activeAction := none } else scopes

/-- Opens the scope of a page script. -/
def beginPageScript (expect : BrowserActionExpectationV1) (limits : BrowserRequestBodyPolicyV1)
    (origin : Units) (scopes : BrowserScopesV1) : BrowserScopesV1 :=
  if scopes.free && !scopes.pageScriptNetworkSealed then
    { scopes with
      operations := scopes.operations ++ [opened .pageScript expect (some limits)]
      activePageScript := some scopes.operations.length
      programOrigin := some origin }
  else scopes

/-- Ends a page script, finished or given up: its network is sealed. -/
def endPageScript (scope : Nat) (scopes : BrowserScopesV1) : BrowserScopesV1 :=
  if scopes.activePageScript = some scope then
    { scopes with activePageScript := none, pageScriptNetworkSealed := true }
  else scopes

/-- The scopes of a boundary that is closed. -/
def closeAll (scopes : BrowserScopesV1) : BrowserScopesV1 :=
  { scopes with activeAction := none, activePageScript := none, activeRuntimeRequest := none }

end BrowserScopesV1

namespace BrowserBoundaryV1

/-- A handler of what the browser paused, up to its first wait. -/
def handleFetchPaused (urls : UrlClassV1) (paused : BrowserFetchPausedV1)
    (boundary : BrowserBoundaryV1) : BrowserBoundaryV1 :=
  let handler : PausedHandlerV1 := { id := boundary.handlers.nextHandler, paused, counted := false }
  let started := { boundary with
    handlers := { boundary.handlers with nextHandler := handler.id + 1 } }
  match boundary.fatal, paused.responseError, paused.responseStatus with
  | some fatal, _, _ => started.fail handler fatal
  | none, some reason, _ => started.fail handler {
      code := .transportFailure
      message := ascii "browser request failed before a response: " ++ reason }
  | none, none, none =>
    handleBrowserRequestStage urls { handler with counted := true }
      { started with
        handlers := { started.handlers with
          pendingAdmissions := started.handlers.pendingAdmissions + 1 } }
  | none, none, some status => handleResponseStage urls handler status started

/-- The boundary after a pause that is malformed. -/
def malformedPaused (boundary : BrowserBoundaryV1) : BrowserBoundaryV1 :=
  { boundary with
    fatal := boundary.fatal.or (some {
      code := .transportFailure
      message := ascii "browser CDP request interception is malformed" })
    traffic := boundary.traffic.rejectQuietWaiters }

/-- Hands the boundary to a suspended handler, which leaves the suspended ones. -/
def withHandler (id : Nat)
    (go : PausedHandlerV1 → HandlerStageV1 → BrowserBoundaryV1 → Option BrowserBoundaryV1)
    (boundary : BrowserBoundaryV1) : Option BrowserBoundaryV1 :=
  match BrowserHandlersV1.takeHandler id boundary.handlers.suspended with
  | none => none
  | some ((handler, stage), others) =>
    go handler stage
      { boundary with handlers := { boundary.handlers with suspended := others } }

/-- A handler that is granted the next permit. -/
def acquired (handler : PausedHandlerV1) (judged : JudgedBrowserRequestV1)
    (boundary : BrowserBoundaryV1) : BrowserBoundaryV1 :=
  let permit := boundary.traffic.nextPermit
  { boundary with
    traffic := { boundary.traffic with nextPermit := permit + 1 }
    handlers := boundary.handlers.park handler (.granted judged permit) }

/-- A handler that ends. -/
def finished (handler : PausedHandlerV1) (boundary : BrowserBoundaryV1) : BrowserBoundaryV1 :=
  { boundary with handlers := boundary.handlers.finish handler }

/-- Why the boundary may not be given another policy. -/
def transitionRefusal (capability : BrowserNetworkCapabilityV1) (boundary : BrowserBoundaryV1) :
    Option PublicHttpExecutionError :=
  if boundary.fatal.isSome then boundary.fatal
  else if capability.browserResources.isNone then some {
    code := .invalidRequest
    message := ascii "browser resource policy is absent" }
  else if boundary.traffic.admitted.length ≠ 0 ∨ boundary.traffic.activeRequests ≠ 0 ∨
      boundary.scopes.free = false ∨ boundary.traffic.quietWaiters.length ≠ 0 ∨
      boundary.handlers.pendingAdmissions ≠ 0 then some {
    code := .transportFailure
    message := ascii "browser network boundary cannot transition while requests are active" }
  else none

/-- Gives the boundary another policy, with budgets that are unused. -/
def transition (capability : BrowserNetworkCapabilityV1) (options : BrowserBoundaryOptionsV1)
    (boundary : BrowserBoundaryV1) : BrowserBoundaryV1 :=
  match boundary.transitionRefusal capability, capability.browserResources with
  | none, some policy =>
    -- The record that the handlers read keeps what it was installed with.
    { boundary with
      current := { capability, policy, options }
      budgets := {}
      scopes := { boundary.scopes with pageScriptNetworkSealed := false, programOrigin := none } }
  | _, _ => boundary

/-- Adds a wait for quiet, unless the task has failed. -/
def waitForQuiet (maximumInFlight quietMs : Nat) (boundary : BrowserBoundaryV1) :
    BrowserBoundaryV1 :=
  if boundary.fatal.isSome then boundary
  else
    let traffic := boundary.traffic
    let waiter : QuietWaiterV1 := { id := traffic.nextWaiter, maximumInFlight, quietMs, timer := false }
    let waiting := { traffic with
      quietWaiters := traffic.quietWaiters ++ [waiter]
      nextWaiter := traffic.nextWaiter + 1 }
    { boundary with traffic := waiting.notifyActivity }

/-- The boundary without a wait for quiet. -/
def withoutWaiter (id : Nat) (boundary : BrowserBoundaryV1) : BrowserBoundaryV1 :=
  { boundary with
    traffic := { boundary.traffic with
      quietWaiters := boundary.traffic.quietWaiters.filter fun waiter => decide (waiter.id ≠ id) } }

/-- Closes the boundary: what is admitted gives its permit back. -/
def close (boundary : BrowserBoundaryV1) : BrowserBoundaryV1 :=
  let traffic := boundary.traffic
  { boundary with
    closed := true
    scopes := boundary.scopes.closeAll
    traffic := { traffic with
      admitted := []
      quietWaiters := []
      released :=
        (traffic.admitted.map fun entry => (entry.2.permit, .neutral)) ++ traffic.released } }

/-- The boundary with other scopes, unless the task has failed. -/
def whenHealthy (scopes : BrowserScopesV1) (boundary : BrowserBoundaryV1) : BrowserBoundaryV1 :=
  if boundary.fatal.isSome then boundary else { boundary with scopes }

/-- What an event makes of the boundary, when it can happen. -/
def step (urls : UrlClassV1) (boundary : BrowserBoundaryV1) :
    BrowserEventV1 → Option BrowserBoundaryV1
  | .requestPaused paused =>
    if boundary.closed then none else some (boundary.handleFetchPaused urls paused)
  | .malformedPaused => if boundary.closed then none else some boundary.malformedPaused
  | .acquired id => boundary.withHandler id fun handler stage rest =>
    match stage with
    | .acquiring judged => some (rest.acquired handler judged)
    | _ => none
  | .acquireFailed id cancelled message => boundary.withHandler id fun handler stage rest =>
    match stage with
    | .acquiring _ => some (handleAcquireFailure handler cancelled message rest)
    | _ => none
  | .resumed id => boundary.withHandler id fun handler stage rest =>
    match stage with
    | .granted judged permit => some (admitBrowserRequest urls handler judged permit rest)
    | .bodyRead admission outcome => some (answerBody handler admission outcome rest)
    | _ => none
  | .bodyOpened id => boundary.withHandler id fun handler stage rest =>
    match stage with
    | .queued admission =>
      -- Only the first of the queue may read.
      if rest.handlers.responseBodyQueue.head? = some handler.id then
        some (beginBody handler admission rest)
      else none
    | _ => none
  | .bodyReplied id replies => boundary.withHandler id fun handler stage rest =>
    match stage with
    | .reading admission limit remaining =>
      (readPausedResponseBody limit replies).map fun outcome =>
        endBody urls handler admission limit remaining outcome rest
    | _ => none
  | .commandDone id => boundary.withHandler id fun handler stage rest =>
    match stage with
    | .continuing _ | .answering | .redirecting _ => some (rest.finished handler)
    | .fulfilling admission => some (settleFulfilled handler admission rest)
    | _ => none
  | .commandRejected id => boundary.withHandler id fun handler stage rest =>
    match stage with
    | .answering =>
      some { rest with handlers := (rest.handlers.drop handler).finish handler }
    | .continuing _ | .redirecting _ | .fulfilling _ => some (releaseDropped handler rest)
    | _ => none
  | .loadingEnded networkId =>
    if boundary.closed then none
    else some { boundary with
      traffic := boundary.traffic.releaseAll fun admission => admission.networkId == some networkId }
  | .beginRuntimeRequest => some { boundary with scopes := boundary.scopes.beginRuntimeRequest }
  | .endRuntimeRequest scope => some { boundary with scopes := boundary.scopes.endRuntimeRequest scope }
  | .beginAction expect => some { boundary with scopes := boundary.scopes.beginAction expect }
  | .finishAction scope expect => some (boundary.whenHealthy (boundary.scopes.finishAction scope expect))
  | .abortAction scope => some { boundary with scopes := boundary.scopes.abortAction scope }
  | .beginPageScript expect limits origin =>
    some { boundary with scopes := boundary.scopes.beginPageScript expect limits origin }
  | .finishPageScript scope => some (boundary.whenHealthy (boundary.scopes.endPageScript scope))
  | .abortPageScript scope => some { boundary with scopes := boundary.scopes.endPageScript scope }
  | .waitForQuiet maximumInFlight quietMs => some (boundary.waitForQuiet maximumInFlight quietMs)
  | .quietElapsed id =>
    if boundary.traffic.quietWaiters.any fun waiter => waiter.id == id && waiter.timer then
      some (boundary.withoutWaiter id)
    else none
  | .quietAborted id => some (boundary.withoutWaiter id)
  | .transition capability options => some (boundary.transition capability options)
  | .close => some boundary.close

end BrowserBoundaryV1

/-- The machine of a boundary, from the moment it is installed. -/
def browserMachine (urls : UrlClassV1) : Machine BrowserBoundaryV1 BrowserEventV1 where
  starts boundary := ∃ capability options mainFrameId,
    installBrowserNetworkBoundary capability options mainFrameId = .ok boundary
  step before event after := before.step urls event = some after

theorem browserMachine_reaches {urls : UrlClassV1} {capability : BrowserNetworkCapabilityV1}
    {options : BrowserBoundaryOptionsV1} {mainFrameId : Option Units}
    {boundary after : BrowserBoundaryV1} {events : List BrowserEventV1}
    (installed : installBrowserNetworkBoundary capability options mainFrameId = .ok boundary)
    (run : Machine.runSteps (BrowserBoundaryV1.step urls) boundary events = some after) :
    (browserMachine urls).Reaches (fun _ _ => True) after :=
  Machine.reaches_of_runSteps (fun _ _ _ steps => steps) run
    (.start ⟨capability, options, mainFrameId, installed⟩)

end Klura
