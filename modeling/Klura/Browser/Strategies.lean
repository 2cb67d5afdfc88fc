import Klura.Browser.Execution

/-! The strategies that run in a browser, each with a browser of its own or in a bounded page. -/

namespace Klura

open StrictJson

/-- Why a call could not be prepared: its input, its URL, its request or its arguments. -/
inductive PreparationFailureV1 where
  | contract (message : Units)
  | publicHttp (code : PublicHttpErrorCodeV1) (message : Units)

/-- What a failed preparation throws. -/
def PreparationFailureV1.thrown : PreparationFailureV1 → ThrownV1
  | .contract message => .other message
  | .publicHttp code message => .publicHttp { code, message }

/-- A call of a strategy that runs in a browser. -/
structure BrowserCallV1 where
  /-- Whether the capability has the strategy. -/
  belongs : Bool
  capability : BrowserNetworkCapabilityV1
  maxTargetRequestsPerCall : Nat
  timeoutMs : JsonNumber
  maxTargetRequests : JsonNumber
  signal : Nat
  workloadId : Option Units
  prepared : Option PreparationFailureV1

namespace BrowserCallV1

/-- What a call asks of the boundary. -/
def options (call : BrowserCallV1) : BrowserBoundaryOptionsV1 where
  maxTargetRequests := (call.maxTargetRequests.safeInteger.getD 0).toNat
  signal := call.signal
  workloadId := call.workloadId

/-- Whether a number is a safe integer between two bounds. -/
def safeWithin (value : JsonNumber) (minimum maximum : Int) : Bool :=
  match value.safeInteger with
  | none => false
  | some integer => decide (minimum ≤ integer ∧ integer ≤ maximum)

/-- Whether the time a call is given is none. -/
def timeless (call : BrowserCallV1) : Bool :=
  !safeWithin call.timeoutMs 1 JsonNumber.maxSafeInteger

/-- Whether the requests a call is given are fewer than it needs or more than its capability's. -/
def misbudgeted (call : BrowserCallV1) (minimum : Int) : Bool :=
  !safeWithin call.maxTargetRequests minimum call.maxTargetRequestsPerCall

/-- The refusal of the first check that fails, or else of the preparation. -/
def refuse (call : BrowserCallV1) (checks : List (Bool × Units)) : Option ThrownV1 :=
  match checks.find? fun check => check.1 with
  | some check => some (.publicHttp { code := .invalidRequest, message := check.2 })
  | none => call.prepared.map PreparationFailureV1.thrown

end BrowserCallV1

/-- Why a navigation is not begun. -/
def refuseNavigation (call : BrowserCallV1) : Option ThrownV1 :=
  call.refuse [
    (!call.belongs, ascii "strategy is absent from the selected capability"),
    (call.capability.browserResources.isNone, ascii "browser navigation has no resource policy"),
    (call.timeless, ascii "timeout_ms must be a positive integer"),
    (call.misbudgeted 1, ascii "max_target_requests must fit the selected capability budget")]

/-- Why a request in a browser is not begun. -/
def refuseBrowserHttp (browserContext navigable : Bool) (call : BrowserCallV1) : Option ThrownV1 :=
  call.refuse [
    (!call.belongs, ascii "strategy is absent from the selected capability"),
    (!browserContext, ascii "browser HTTP execution requires a browser-context strategy"),
    (call.capability.browserResources.isNone, ascii "browser HTTP has no resource policy"),
    (!navigable, ascii "browser HTTP base origin is not declared for navigation"),
    (call.timeless, ascii "timeout_ms must be a positive integer"),
    (call.misbudgeted 2,
      ascii "browser HTTP needs budget for its bootstrap navigation and request")]

/-- Why a page script is not begun. -/
def preparePageScriptRequest (undeclaredState : Bool) (call : BrowserCallV1) : Option ThrownV1 :=
  call.refuse [
    (!call.belongs, ascii "strategy is absent from the selected capability"),
    (undeclaredState, ascii ("browser page-script execution admits browser state only under a " ++
      "declared authentication contract")),
    (call.capability.browserResources.isNone, ascii "browser page script has no resource policy"),
    (call.timeless, ascii "timeout_ms must be a positive integer"),
    (call.misbudgeted 1, ascii "max_target_requests must fit the selected capability budget")]

/-- What a navigation meets in the page. -/
structure NavigationPageV1 where
  navigating : PageOperationV1
  answered : Bool
  status : Nat
  waiting : PageOperationV1
  /-- The interaction program, when the strategy has one. -/
  interacting : Option PageOperationV1
  /-- The projection of the document, when the interaction did not give the body. -/
  projecting : Option PageOperationV1
  selecting : PageOperationV1

/-- A stage that is only run when there is something to run in it. -/
def stageOf (stage : PublicExecutionStageV1) (operation : Option PageOperationV1) :
    StagedOperationsV1 :=
  operation.toList.map fun operation => (stage, operation)

/-- What a navigation awaits in the page. -/
def NavigationPageV1.operations (page : NavigationPageV1) : StagedOperationsV1 :=
  [(.navigation, page.navigating),
    (.navigation, documentResponse page.answered),
    (.wait, page.waiting)] ++
  stageOf .interaction page.interacting ++ stageOf .projection page.projecting ++
  [(.projection, page.selecting)]

/-- What a request in a browser meets in the page. -/
structure BrowserHttpPageV1 where
  navigating : PageOperationV1
  fetching : PageOperationV1
  status : Nat
  bytes : Nat
  responseLimit : Nat
  projecting : PageOperationV1

/-- What a request in a browser awaits up to its projection. -/
def BrowserHttpPageV1.operations (page : BrowserHttpPageV1) : StagedOperationsV1 :=
  [(.bootstrap, page.navigating),
    (.request, finishRuntimeRequest page.fetching),
    (.request, responseWithin page.bytes page.responseLimit)]

/-- What a page script meets in the page. -/
structure PageScriptPageV1 where
  navigating : PageOperationV1
  answered : Bool
  waiting : PageOperationV1
  interacting : Option PageOperationV1
  /-- Whether the page is still at the reviewed origin. -/
  locating : PageOperationV1
  running : PageOperationV1
  /-- The wait that the program expects, when it expects one. -/
  settling : Option PageOperationV1
  finishing : PageOperationV1
  selecting : PageOperationV1

/-- The stage that prepares the page for its program: the last before it. -/
def PageScriptPageV1.preparing (page : PageScriptPageV1) : PublicExecutionStageV1 :=
  if page.interacting.isSome then .interaction else .wait

/-- What a page script awaits in the page. -/
def PageScriptPageV1.operations (page : PageScriptPageV1) : StagedOperationsV1 :=
  [(.navigation, page.navigating),
    (.navigation, documentResponse page.answered),
    (.wait, page.waiting)] ++
  stageOf .interaction page.interacting ++
  [(page.preparing, assertHealthy), (page.preparing, page.locating), (.program, page.running)] ++
  stageOf .wait page.settling ++
  [(.program, page.finishing), (.projection, page.selecting), (.projection, assertHealthy)]

/-- What an error of a navigation becomes. -/
def translateNavigation (_ : BrowserTaskV1) : ThrownV1 → PublicHttpExecutionError
  | .projection message => { code := .responseInvalidJson, message }
  | .interaction message failure =>
    { code := .browserInteractionFailed, message, interactionFailure := some failure }
  | thrown => transportFailure thrown

/-- What an error of a page script becomes. -/
def translatePageScript (task : BrowserTaskV1) : ThrownV1 → PublicHttpExecutionError
  | .interaction message failure =>
    { code := .browserInteractionFailed, message, interactionFailure := some failure }
  | .program code message => {
      code
      message
      -- A result that is too large is about the program alone.
      diagnostic :=
        if code = .responseTooLarge then none
        else some (.pageProgramRejected task.targetRequests task.deniedResources) }
  | thrown => transportFailure thrown

/-- The handler of a navigation with its own browser. -/
def catchNavigation : CatchClauseV1 where
  timedOut := (·.expired)
  aborted := (·.aborted)
  expiry _ := (ascii "browser navigation deadline expired", none)
  cancellation := ascii "caller cancelled browser navigation"
  verdict task := task.violation.or task.fatal
  translate := translateNavigation

/-- The handler of a navigation in a bounded page. -/
def catchBoundedNavigation : CatchClauseV1 where
  timedOut := (·.pageExpired)
  aborted := (·.pageAborted)
  expiry task := deadlineExpired (ascii "browser navigation") task.stage task
  cancellation := ascii "caller cancelled browser navigation"
  verdict := (·.fatal)
  translate := translateNavigation

/-- The handler of a request with its own browser. -/
def catchBrowserHttp : CatchClauseV1 where
  timedOut := (·.expired)
  aborted := (·.aborted)
  expiry task := deadlineExpired (ascii "browser HTTP") task.stage task
  cancellation := ascii "caller cancelled browser HTTP"
  verdict := (·.fatal)
  translate _ := transportFailure

/-- The handler of a request in a bounded page. -/
def catchBoundedBrowserHttp : CatchClauseV1 :=
  { catchBrowserHttp with timedOut := (·.pageExpired), aborted := (·.pageAborted) }

/-- The handler of a page script with its own browser: it asks for no verdict. -/
def catchPageScript : CatchClauseV1 where
  timedOut := (·.expired)
  aborted := (·.aborted)
  expiry := deadlineExpired (ascii "browser page-script") .navigation
  cancellation := ascii "caller cancelled browser page-script execution"
  verdict _ := none
  translate _ := transportFailure

/-- The handler of a page script in a bounded page. -/
def catchBoundedPageScript : CatchClauseV1 where
  timedOut := (·.pageExpired)
  aborted := (·.pageAborted)
  expiry task := deadlineExpired (ascii "browser page-script") task.stage task
  cancellation := ascii "caller cancelled browser page-script execution"
  verdict := (·.fatal)
  translate := translatePageScript

section

variable (urls : UrlClassV1)

/-- Runs a navigation inside an already isolated page. -/
def executeBrowserNavigationStrategyInBoundedPage (call : BrowserCallV1)
    (page : NavigationPageV1) : BrowserProgram PublicHttpResponseV1 :=
  executeInBoundedPage urls (refuseNavigation call) call.capability call.options
    (ascii "caller cancelled before browser navigation") .navigation catchBoundedNavigation
    page.operations page.status

/-- Runs a navigation in a browser of its own. -/
def executeBrowserNavigationStrategy (call : BrowserCallV1) (browser : OwnBrowserV1)
    (page : NavigationPageV1) : BrowserProgram PublicHttpResponseV1 :=
  executeInOwnBrowser urls (refuseNavigation call) call.capability call.options browser
    .navigation catchNavigation (do
      awaiting urls
        (page.operations ++ [(.projection, guardHealthy), (.projection, assertHealthy)])
      respond page.status)

/-- Runs a request inside an already isolated page. -/
def executeBrowserHttpStrategyInBoundedPage (browserContext navigable : Bool)
    (call : BrowserCallV1) (page : BrowserHttpPageV1) : BrowserProgram PublicHttpResponseV1 :=
  executeInBoundedPage urls (refuseBrowserHttp browserContext navigable call) call.capability
    call.options (ascii "caller cancelled before browser HTTP") .bootstrap catchBoundedBrowserHttp
    (page.operations ++ [(.request, page.projecting)]) page.status

/-- Runs a request in a browser of its own. -/
def executeBrowserHttpStrategy (browserContext navigable : Bool) (call : BrowserCallV1)
    (browser : OwnBrowserV1) (page : BrowserHttpPageV1) : BrowserProgram PublicHttpResponseV1 :=
  executeInOwnBrowser urls (refuseBrowserHttp browserContext navigable call) call.capability
    call.options browser .bootstrap catchBrowserHttp (do
      awaiting urls (page.operations ++
        [(.request, guardHealthy), (.request, assertHealthy), (.request, page.projecting)])
      respond page.status)

/-- Runs a reviewed page script inside an already isolated page. -/
def executeBrowserPageScriptStrategyInBoundedPage (undeclaredState : Bool) (call : BrowserCallV1)
    (page : PageScriptPageV1) : BrowserProgram PublicHttpResponseV1 :=
  executeInBoundedPage urls (preparePageScriptRequest undeclaredState call) call.capability
    call.options (ascii "caller cancelled before browser navigation") .navigation
    catchBoundedPageScript page.operations 200

/-- Runs a reviewed page script in a browser of its own. -/
def executeBrowserPageScriptStrategy (undeclaredState : Bool) (call : BrowserCallV1)
    (browser : OwnBrowserV1) (page : PageScriptPageV1) : BrowserProgram PublicHttpResponseV1 :=
  executeInOwnBrowser urls (preparePageScriptRequest undeclaredState call) call.capability
    call.options browser .navigation catchPageScript (do
      let response ← executeBrowserPageScriptStrategyInBoundedPage urls undeclaredState call page
      awaiting urls [(.projection, guardHealthy)]
      return response)

end

end Klura
