import Klura.Browser.BoundaryMachine
import Klura.Library.Program

/-! An execution in a browser: what it awaits, what may end it, and the error its end becomes. -/

namespace Klura

open StrictJson

/-- What an execution may be ended by, by the class its handler tells it apart with. -/
inductive ThrownV1 where
  | publicHttp (error : PublicHttpExecutionError)
  | projection (message : Units)
  | interaction (message : Units) (failure : BrowserInteractionFailureV1)
  | program (code : PublicHttpErrorCodeV1) (message : Units)
  | other (message : Units)

/-- The message that an error of public HTTP shows, which names its field first. -/
def PublicHttpExecutionError.shown (error : PublicHttpExecutionError) : Units :=
  ascii "public_http: " ++ error.message

/-- The message of what was thrown. -/
def ThrownV1.message : ThrownV1 → Units
  | .publicHttp error => error.shown
  | .projection message | .interaction message _ | .program _ message | .other message => message

/-- What an execution has come to. -/
structure BrowserTaskV1 where
  /-- The boundary of its page, once it is installed. -/
  boundary : Option BrowserBoundaryV1 := none
  /-- What the guard of its page has refused. -/
  violation : Option PublicHttpExecutionError := none
  /-- Whether its caller has cancelled it. -/
  cancelled : Bool := false
  /-- Whether the deadline of its browser has passed. -/
  expired : Bool := false
  /-- Whether the deadline of its work in the page has passed. -/
  pageExpired : Bool := false
  stage : PublicExecutionStageV1 := .navigation
  /-- The requests that the boundary admitted since it began. -/
  admitted : Nat := 0

/-- Whether an event gives the boundary another policy. -/
def BrowserEventV1.isTransition : BrowserEventV1 → Bool
  | .transition _ _ => true
  | _ => false

/-- Something an execution awaits: what happens meanwhile, and how it ends. -/
structure PageOperationV1 where
  traffic : List BrowserEventV1 := []
  /-- Only the execution itself gives the boundary another policy. -/
  own : ∀ event ∈ traffic, event.isTransition = false := by simp
  violates : Option PublicHttpExecutionError := none
  cancels : Bool := false
  expires : Bool := false
  pageExpires : Bool := false
  fails : BrowserTaskV1 → Option ThrownV1 := fun _ => none

namespace BrowserTaskV1

/-- The requests that the boundary says it admitted. -/
def targetRequests (task : BrowserTaskV1) : Nat :=
  (task.boundary.map (·.budgets.targetRequests)).getD 0

/-- The subresources that the boundary refused. -/
def deniedResources (task : BrowserTaskV1) : List BrowserDeniedResourceV1 :=
  (task.boundary.map (·.denials.deniedResources)).getD []

/-- Why the boundary is not healthy. -/
def fatal (task : BrowserTaskV1) : Option PublicHttpExecutionError :=
  task.boundary.bind (·.fatal)

/-- Whether the signal of an execution with its own browser is aborted. -/
def aborted (task : BrowserTaskV1) : Bool := task.cancelled || task.expired

/-- Whether the signal of the work in a page is aborted. -/
def pageAborted (task : BrowserTaskV1) : Bool := task.aborted || task.pageExpired

/-- Something happens at the boundary; what cannot happen there does not. -/
def observe (urls : UrlClassV1) (task : BrowserTaskV1) (event : BrowserEventV1) : BrowserTaskV1 :=
  match task.boundary with
  | none => task
  | some boundary =>
    match boundary.step urls event with
    | none => task
    | some after => { task with
        boundary := some after
        admitted := task.admitted +
          (after.budgets.admissions.length - boundary.budgets.admissions.length) }

/-- An error with the count of the boundary. -/
def recount (task : BrowserTaskV1) (error : PublicHttpExecutionError) : PublicHttpExecutionError :=
  { error with targetRequests := task.targetRequests }

end BrowserTaskV1

/-- What a task has come to when it has awaited an operation. -/
def PageOperationV1.during (urls : UrlClassV1) (operation : PageOperationV1)
    (stage : PublicExecutionStageV1) (task : BrowserTaskV1) : BrowserTaskV1 :=
  let seen := operation.traffic.foldl (BrowserTaskV1.observe urls) { task with stage }
  { seen with
    violation := seen.violation.or operation.violates
    cancelled := seen.cancelled || operation.cancels
    expired := seen.expired || operation.expires
    pageExpired := seen.pageExpired || operation.pageExpires }

/-- Operations in the stages they belong to. -/
abbrev StagedOperationsV1 := List (PublicExecutionStageV1 × PageOperationV1)

/-- How awaiting operations one after the other ends, and what the task has come to then. -/
def perform (urls : UrlClassV1) :
    StagedOperationsV1 → BrowserTaskV1 → Option ThrownV1 × BrowserTaskV1
  | [], task => (none, task)
  | (stage, operation) :: rest, task =>
    let after := operation.during urls stage task
    match operation.fails after with
    | some thrown => (some thrown, after)
    | none => perform urls rest after

/-- A program of an execution. -/
abbrev BrowserProgram (α : Type) := Program BrowserTaskV1 ThrownV1 α

/-- Awaits operations one after the other. -/
def awaiting (urls : UrlClassV1) (operations : StagedOperationsV1) : BrowserProgram Unit :=
  fun task =>
    match perform urls operations task with
    | (none, after) => .ok () after
    | (some thrown, after) => .error thrown after

/-- Awaits what ends an execution, in whatever stage it is. -/
def winding (urls : UrlClassV1) (operation : PageOperationV1) : BrowserProgram Unit := fun task =>
  awaiting urls [(task.stage, operation)] task

/-- Fails when the boundary has refused something for good. -/
def assertHealthy : PageOperationV1 where
  fails task := task.fatal.map .publicHttp

/-- Fails when the guard has kept something out of the page. -/
def guardHealthy : PageOperationV1 where
  fails task := task.violation.map .publicHttp

/-- Fails when a navigation led to no document. -/
def documentResponse (answered : Bool) : PageOperationV1 where
  fails task :=
    if answered then none
    else some (.publicHttp {
      code := .transportFailure
      message := ascii "browser navigation did not produce a document response"
      targetRequests := task.targetRequests })

/-- A request of the runtime: its scope is finished however it ends, which fails with the error of
the boundary when there is one. -/
def finishRuntimeRequest (fetch : PageOperationV1) : PageOperationV1 :=
  { fetch with fails := fun task => (task.fatal.map .publicHttp).or (fetch.fails task) }

/-- Fails when a response is larger than its strategy signs for. -/
def responseWithin (bytes limit : Nat) : PageOperationV1 where
  fails task :=
    if bytes ≤ limit then none
    else some (.publicHttp {
      code := .responseTooLarge
      message := ascii "browser HTTP response exceeds its signed limit"
      targetRequests := task.targetRequests })

/-- What the handler of an execution makes of the error that ended it. -/
structure CatchClauseV1 where
  /-- Whether the deadline that the handler asks about has passed. -/
  timedOut : BrowserTaskV1 → Bool
  /-- Whether the signal that the handler asks about is aborted. -/
  aborted : BrowserTaskV1 → Bool
  expiry : BrowserTaskV1 → Units × Option PublicExecutionDiagnosticV1
  cancellation : Units
  /-- What was refused, by which an error of the page is explained. -/
  verdict : BrowserTaskV1 → Option PublicHttpExecutionError
  translate : BrowserTaskV1 → ThrownV1 → PublicHttpExecutionError

/-- The error that an execution fails with: an error of public HTTP is left as it is, and every
other one carries the count of the boundary. -/
def CatchClauseV1.catchThrown (clause : CatchClauseV1) (task : BrowserTaskV1) (thrown : ThrownV1) :
    PublicHttpExecutionError :=
  if clause.timedOut task then task.recount {
    code := .requestTimeout
    message := (clause.expiry task).1
    diagnostic := (clause.expiry task).2 }
  else if clause.aborted task then
    task.recount { code := .cancelled, message := clause.cancellation }
  else
    match thrown with
    | .publicHttp error => error
    | _ =>
      match clause.verdict task with
      | some refused => task.recount { refused with message := refused.shown }
      | none => task.recount (clause.translate task thrown)

/-- The error of a deadline that passed, with the stage and what the page was refused until then. -/
def deadlineExpired (name : Units) (stage : PublicExecutionStageV1) (task : BrowserTaskV1) :
    Units × Option PublicExecutionDiagnosticV1 :=
  (name ++ ascii " deadline expired during " ++ stage.text,
    some (.deadlineExpired stage task.targetRequests task.deniedResources))

/-- An error of the transport. -/
def transportFailure (thrown : ThrownV1) : PublicHttpExecutionError where
  code := .transportFailure
  message := thrown.message

/-- What an execution answers with, as far as it is its own. -/
structure PublicHttpResponseV1 where
  status : Nat
  targetRequests : Nat
  deniedResources : List BrowserDeniedResourceV1

/-- The response of a page, with what the boundary counts. -/
def respond (status : Nat) : BrowserProgram PublicHttpResponseV1 := do
  let task ← get
  return {
    status
    targetRequests := task.targetRequests
    deniedResources := task.deniedResources }

/-- Fails when the signal of the execution is aborted. -/
def throwIfAborted (aborted : BrowserTaskV1 → Bool) (message : Units) : PageOperationV1 where
  fails task := if aborted task then some (.publicHttp { code := .cancelled, message }) else none

/-- Hands the boundary of the page to the policy of a capability. -/
def transition (capability : BrowserNetworkCapabilityV1) (options : BrowserBoundaryOptionsV1) :
    BrowserProgram Unit := do
  let task ← get
  match task.boundary with
  | none => return
  | some boundary =>
    match boundary.transitionRefusal capability with
    | some refused => throw (.publicHttp refused)
    | none => set { task with boundary := some (boundary.transition capability options) }

/-- An execution in a page whose boundary is handed over: it has a deadline of its own. -/
def executeInBoundedPage (urls : UrlClassV1) (refusal : Option ThrownV1)
    (capability : BrowserNetworkCapabilityV1) (options : BrowserBoundaryOptionsV1)
    (beforeStart : Units) (first : PublicExecutionStageV1) (clause : CatchClauseV1)
    (operations : StagedOperationsV1) (status : Nat) : BrowserProgram PublicHttpResponseV1 := do
  match refusal with
  | some thrown => throw thrown
  | none =>
    modify fun task => { task with pageExpired := false }
    try
      awaiting urls [(first, throwIfAborted (·.pageAborted) beforeStart)]
      transition capability options
      awaiting urls operations
      respond status
    catch thrown =>
      let task ← get
      throw (.publicHttp (clause.catchThrown task thrown))

/-- What an execution with its own browser awaits besides its work in the page. -/
structure OwnBrowserV1 where
  /-- The proxy, the browser, its context, its page and the guard of the page. -/
  launching : PageOperationV1
  mainFrameId : Option Units
  /-- The end of the context. -/
  closing : PageOperationV1
  /-- The ends of the boundary, the browser and the proxy. -/
  ending : PageOperationV1

/-- Installs the boundary of the page. -/
def install (capability : BrowserNetworkCapabilityV1) (options : BrowserBoundaryOptionsV1)
    (mainFrameId : Option Units) : BrowserProgram Unit := do
  match installBrowserNetworkBoundary capability options mainFrameId with
  | .error refused => throw (.publicHttp refused)
  | .ok boundary => modify fun task => { task with boundary := some boundary }

/-- An execution with its own browser, which it closes however its work ends. -/
def executeInOwnBrowser (urls : UrlClassV1) (refusal : Option ThrownV1)
    (capability : BrowserNetworkCapabilityV1) (options : BrowserBoundaryOptionsV1)
    (browser : OwnBrowserV1) (first : PublicExecutionStageV1) (clause : CatchClauseV1)
    (work : BrowserProgram PublicHttpResponseV1) : BrowserProgram PublicHttpResponseV1 := do
  match refusal with
  | some thrown => throw thrown
  | none =>
    try
      awaiting urls [
        (first, throwIfAborted (·.aborted) (ascii "caller cancelled before browser launch")),
        (first, browser.launching)]
      install capability options browser.mainFrameId
      try work
      finally winding urls browser.closing
    catch thrown =>
      let task ← get
      throw (.publicHttp (clause.catchThrown task thrown))
    finally winding urls browser.ending

end Klura
