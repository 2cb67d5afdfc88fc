import Klura.Browser.ResourcePolicy
import Klura.Scheduler.Entry

/-! What the browser pauses, what its boundary may do with it, and the errors it ends with. -/

namespace Klura

open StrictJson

/-- Why an execution over public HTTP failed. -/
inductive PublicHttpErrorCodeV1 where
  | cancelled
  | invalidRequest
  | requestBlocked
  | requestBudgetExhausted
  | requestTimeout
  | responseTooLarge
  | responseInvalidJson
  | responseContractMismatch
  | transportFailure
  | browserUnavailable
  | browserInteractionFailed
  deriving DecidableEq

/-- A subresource that the policy refused. -/
structure BrowserDeniedResourceV1 where
  url : Units
  method : Units
  resourceType : Units
  cdpResourceType : Units
  deriving DecidableEq

/-- The step of a browser task that was running when its deadline passed. -/
inductive PublicExecutionStageV1 where
  | navigation
  | wait
  | interaction
  | program
  | projection
  | bootstrap
  | request
  deriving DecidableEq

/-- The name of a stage. -/
def PublicExecutionStageV1.text : PublicExecutionStageV1 → Units
  | .navigation => ascii "navigation"
  | .wait => ascii "wait"
  | .interaction => ascii "interaction"
  | .program => ascii "program"
  | .projection => ascii "projection"
  | .bootstrap => ascii "bootstrap"
  | .request => ascii "request"

/-- How an interaction program failed. -/
inductive BrowserInteractionFailureCodeV1 where
  | targetNotFound
  | targetAmbiguous
  | valueInvalid
  | actionFailed
  | actionEgressMismatch
  | waitFailed
  | interactionIndeterminate
  | interactionStalled
  | interactionLimitExhausted
  | aggregationTooLarge
  deriving DecidableEq

/-- Where an interaction program failed. -/
structure BrowserInteractionFailureV1 where
  strategyId : Units
  code : BrowserInteractionFailureCodeV1
  actionId : Option Units
  round : Nat
  deriving DecidableEq

/-- The details that an error of an execution carries. -/
inductive PublicExecutionDiagnosticV1 where
  | egressRejected (phase : BrowserEgressPhaseV1) (origin path : Option Units)
      (queryKeys : List Units) (method resourceType : Units) (requestedMethod : Option Units)
  | responseLimitExceeded (ruleId : Units) (phase : BrowserEgressPhaseV1)
      (origin path : Option Units) (method : Units) (limitBytes : Int)
  | requestBudgetExhausted (ruleId : Units) (phase : BrowserEgressPhaseV1)
      (ruleRequests ruleLimit taskRequests taskLimit : Nat)
  | deadlineExpired (stage : PublicExecutionStageV1) (targetRequests : Nat)
      (deniedResources : List BrowserDeniedResourceV1)
  | pageProgramRejected (targetRequests : Nat) (deniedResources : List BrowserDeniedResourceV1)
  deriving DecidableEq

/-- An error of an execution over public HTTP. -/
structure PublicHttpExecutionError where
  code : PublicHttpErrorCodeV1
  message : Units
  targetRequests : Nat := 0
  interactionFailure : Option BrowserInteractionFailureV1 := none
  diagnostic : Option PublicExecutionDiagnosticV1 := none
  deriving DecidableEq

/-- The body of a paused request, as the browser reports it. -/
structure BrowserFetchRequestBodyV1 where
  postData : Option Units
  hasPostData : Bool
  postDataEntries : Option (List (Option Units))

/-- A request or a response that the browser paused. -/
structure BrowserFetchPausedV1 where
  requestId : Units
  url : Units
  method : Units
  resourceType : Units
  cdpResourceType : Units
  frameId : Option Units
  networkId : Option Units
  redirectedFrom : Option Units
  responseStatus : Option Nat
  responseError : Option Units
  responseHeaders : List (Units × Units)
  requestBody : BrowserFetchRequestBodyV1
  preflightMethod : Option Units

/-- A traffic policy that a capability declares for an origin. -/
structure OriginTrafficPolicyV1 where
  origin : Units
  maxRedirectHops : Nat
  /-- The limits that only the scheduler reads. -/
  traffic : OriginSchedulerTrafficPolicyV1
  deriving DecidableEq

/-- What a capability lets a browser do on the network. -/
structure BrowserNetworkCapabilityV1 where
  browserResources : Option BrowserResourcePolicyV1
  originTrafficPolicies : List OriginTrafficPolicyV1

/-- What an execution asks of the boundary: its ceiling, its abort signal and its workload. -/
structure BrowserBoundaryOptionsV1 where
  maxTargetRequests : Nat
  signal : Nat
  workloadId : Option Units

/-- Signed limits of request bodies. -/
structure BrowserRequestBodyPolicyV1 where
  maxEncodedRequestBodyBytesPerBrowserTask : Nat
  maxSingleRequestBodyBytes : Nat
  maxEncodedRequestBodyBytesByRule : OrderedMap Units Nat

end Klura
