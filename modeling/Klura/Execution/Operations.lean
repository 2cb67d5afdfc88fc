import Klura.Execution.Health
import Klura.Execution.Request
import Klura.Library.Interaction
import Klura.Scheduler.Entry
import Klura.Strategies.Candidates

/-! What a local execution performs outside itself, and the strategies that it executes. -/

namespace Klura

/-- The kinds of prerequisites. -/
inductive StrategyPrereqKind where
  | cached
  | capability
  | tag
  | fetchExtract
  | pageExtract
  | jsEval
  | browser
  deriving DecidableEq

/-- A prerequisite of a strategy; what only its templates and its extraction read is kept as one
value. -/
structure StrategyPrereqV1 where
  kind : StrategyPrereqKind
  name : Units
  /-- The platform of the capability, where it is another one. -/
  platform : Option Units
  capability : Option Units
  tag : Option Units
  value : Option JsValue
  url : Option Units
  binds : Option Units
  /-- The names to bind with the paths to their values, where there are any. -/
  vars : Option (List (Units × Units))
  optional : Bool
  /-- The seconds that a token is kept, 1800 where nothing is said; none where it is not kept. -/
  ttl : Option Int
  others : JsValue

/-- What the notes of a strategy say about a parameter. -/
structure ParamDocV1 where
  name : Units
  optional : Bool
  isEnum : Bool
  observed : List Units
  /-- The capability that lists the values of an enumeration. -/
  source : Option Units

/-- How the page comes to open a web socket. -/
inductive WsOpenV1 where
  | navigate
  | none
  | steps
  deriving DecidableEq

/-- What a strategy over a web socket has of its own. -/
structure WebSocketPartV1 where
  origin : Units
  wsUrl : Units
  wsOpen : WsOpenV1
  /-- Whether the page computes the frame. -/
  frameFromPage : Bool
  /-- What a received frame must contain, where an answer is awaited. -/
  ackMatch : Option Units

/-- A strategy as an execution sees it; what only its templates read is kept as one value. -/
structure LocalStrategyV1 where
  tier : StrategyTier
  baseUrl : Units
  websocket : Option WebSocketPartV1
  prerequisites : List StrategyPrereqV1
  params : List ParamDocV1
  /-- The prerequisite whose value is the result. -/
  responseFrom : Option Units
  /-- The step of the recorded path at which the strategy was found. -/
  anchor : Option Units
  /-- The names of the steps of a recorded path. -/
  stepIds : List (Option Units)
  provides : List Units
  /-- The milliseconds that results are cached, where the strategy says so. -/
  cacheTtlMs : Option Int
  others : JsValue

/-- The result of an execution with the URL it ended at. -/
structure LocalResultV1 extends ExecuteResultV1 where
  finalUrl : Option Units

/-- Why a prerequisite is not resolved. -/
inductive PrereqFailureV1 where
  | missingTag
  | noProvider
  | severalProviders
  | missingCapability
  | failedWith (status : Option Nat)
  | unresolved (name : Units)
  | missingUrl
  | missingVars
  | unsupportedKind
  | fetchFailed (message : Units)
  | badStatus (status : Nat)
  | unreadableBody (message : Units)
  | notExtracted (message : Units)
  deriving DecidableEq

/-- The errors of an execution. -/
inductive LocalErrorV1 where
  /-- Node's transport fails with a signal. -/
  | transportFailure (signal : Units)
  /-- An error that carries an execution state, with its code and details. -/
  | state (state : FactoryExecutionState) (code : Units) (details : List (Units × JsValue))
  | requestTimeout
  | scheduler (code : Units)
  | prereq (name : Units) (failure : PrereqFailureV1)
  | other (message : Units)

/-- What a request is sent for: the model's label, with the depth of the execution. -/
inductive RequestRoleV1 where
  | main (depth : Nat)
  /-- The main request again, after a partial replay. -/
  | retry (depth : Nat)
  | prerequisite
  deriving DecidableEq

/-- A request as it is handed to a transport. -/
structure OutgoingRequestV1 where
  method : Units
  url : Units
  headers : List (Units × Units)
  body : Option Units
  deriving DecidableEq

/-- A response that Node received, behind its redirects. -/
structure NodeFetchedV1 where
  status : Nat
  setCookies : List Units
  contentType : Units
  url : Units

/-- What a request from Node comes to, with the dispatches that were made of it. -/
inductive NodeFetchV1 where
  | response (response : NodeFetchedV1)
  | timedOut
  | scheduler (code : Units) (dispatches : Nat)
  | failed (cause : Option Units) (message : Units) (dispatches : Nat)

/-- What reading the body of a response comes to. -/
inductive BodyReadV1 where
  | text (text : Units)
  | failed (message : Units)
  | timedOut

/-- What a request from the page comes to. -/
inductive BrowserFetchV1 where
  | response (status : Nat) (body : JsValue) (finalUrl : Units)
  | failed (error : Units) (notSent timedOut : Bool)

/-- What sending a frame from Node comes to. -/
inductive NodeFrameV1 where
  | sent (ack : Option Units)
  | failed (code : Units) (sent : Bool) (error : Units)

/-- A session of a browser, with the account it was opened for. -/
structure SessionV1 where
  id : Nat
  platform : Units
  identity : Option Units
  borrowed : Bool

/-- What the health record says about trying a tier. -/
inductive ProbationV1 where
  | run
  | skip
  | probe
  deriving DecidableEq

/-- What changes the health record of a tier. -/
inductive HealthUpdateV1 where
  | probeAttempted
  | healthy
  | failed
  | nodeTransportSuccess (protocol : WireProtocolV1)

/-- The operations that do not throw. -/
inductive SureOpV1 where
  | shouldSkipBrokenTier (platform capability : Units) (tier : StrategyTier)
  | updateHealth (platform capability : Units) (tier : StrategyTier) (update : HealthUpdateV1)
  | getHealthIsBroken (platform capability : Units) (tier : StrategyTier)
  | recordNodeTransportFailure (platform capability : Units) (protocol : WireProtocolV1)
      (signal : Units)
  | tokenGet (platform name : Units)
  | capabilityCacheGet (platform : Units) (identity : Option Units) (capability : Units)
      (args : CallArgs)
  | capabilityCacheSet (platform : Units) (identity : Option Units) (capability : Units)
      (args : CallArgs) (result : LocalResultV1) (ttlMs : Int)
  | evictForCapability (platform : Units) (identity : Option Units) (capability : Units)
  | readStorageStateCookies (platform : Units) (identity : Option Units) (url : Units)
  | writeStorageStateCookies (platform : Units) (identity : Option Units) (values : List Units)
      (url : Units)
  | loadStorageStatePath (platform : Units) (identity : Option Units)
  | sendNodeRequest (role : RequestRoleV1) (workload : Units) (request : OutgoingRequestV1)
  | readBody (role : RequestRoleV1) (url : Units)
  | sendNodeWebSocketFrame (role : RequestRoleV1) (url : Units) (headers : List (Units × Units))
      (frame : Units) (ackMatch : Option Units)
  | getUrl (session : SessionV1)
  | waitForWsOpen (session : SessionV1) (url : Units)
  /-- Gives a session up and keeps the error, if there is one. -/
  | endDriveQuietly (session : SessionV1)

/-- What such an operation answers. -/
abbrev SureOpV1.Result : SureOpV1 → Type
  | .shouldSkipBrokenTier .. => ProbationV1
  | .updateHealth .. => Unit
  | .getHealthIsBroken .. => Bool
  | .recordNodeTransportFailure .. => Nat
  | .tokenGet .. => Option Units
  | .capabilityCacheGet .. => Option LocalResultV1
  | .capabilityCacheSet .. => Unit
  | .evictForCapability .. => Unit
  | .readStorageStateCookies .. => Option Units
  | .writeStorageStateCookies .. => Unit
  | .loadStorageStatePath .. => Bool
  | .sendNodeRequest .. => NodeFetchV1
  | .readBody .. => BodyReadV1
  | .sendNodeWebSocketFrame .. => NodeFrameV1
  | .getUrl .. => Units
  | .waitForWsOpen .. => Bool
  | .endDriveQuietly .. => Unit

/-- The operations that may throw. -/
inductive RiskyOpV1 where
  | loadStrategies (platform capability : Units)
  | loadStrategy (platform capability : Units)
  | findCapabilitiesProviding (platform tag : Units)
  | isCapabilityForbidden (platform capability : Units)
  | isTierAllowed (platform capability : Units) (tier : StrategyTier)
  | getIdentity (platform : Units) (identity : Option Units)
  | archiveStrategy (platform capability : Units) (tier : StrategyTier)
  | demoteFetchToPageScript (platform capability : Units)
  | stampPostSaveValidationProof (platform capability : Units) (strategy : LocalStrategyV1)
  | tokenSet (platform name value : Units) (ttl : Int)
  | saveStorageState (platform : Units) (identity : Option Units)
  | driverSaveStorageState (session : SessionV1) (platform : Units) (identity : Option Units)
  | acquirePermit (url workload : Units)
  | releasePermit (completion : SchedulerCompletionV1)
  /-- A session that is ready on a page, with the account it was opened for: the warm one of the
  account, or else any that is shared on the platform. -/
  | tryCheckoutReadySession (platform : Units) (identity : Option Units) (url : Units)
      (wsUrl : Option Units)
  | createSession (platform : Units) (identity : Option Units) (storageState : Bool)
  | runBrowserPrereq (session : SessionV1) (prereq : StrategyPrereqV1)
      (scope : OrderedMap Units JsValue) (forceFresh : Bool)
  | fireInterrupts (session : SessionV1) (strategy : LocalStrategyV1)
      (tokens : OrderedMap Units JsValue)
  | navigate (session : SessionV1) (url : Units)
  | fetchInBrowser (role : RequestRoleV1) (session : SessionV1) (request : OutgoingRequestV1)
  | htmlToAriaLikeTree (session : SessionV1) (html : Units)
  | runWsOpenSteps (session : SessionV1) (args : CallArgs)
  | evaluateFrame (session : SessionV1) (strategy : LocalStrategyV1) (args : CallArgs)
  | sendWebSocketFrame (role : RequestRoleV1) (session : SessionV1) (url frame : Units)
      (ackMatch : Option Units)
  | waitForAck (session : SessionV1) (ackMatch : Units)
  | executeSteps (role : RequestRoleV1) (session : SessionV1) (strategy : LocalStrategyV1)
      (args : CallArgs)
  | replayStep (role : RequestRoleV1) (session : SessionV1) (step : Option Units)
      (args : CallArgs)
  | endDrive (session : SessionV1)

/-- What such an operation returns when it does not throw. -/
abbrev RiskyOpV1.Result : RiskyOpV1 → Type
  | .loadStrategies .. => List LocalStrategyV1
  | .loadStrategy .. => Option LocalStrategyV1
  | .findCapabilitiesProviding .. => List Units
  | .isCapabilityForbidden .. => Bool
  | .isTierAllowed .. => Bool
  | .getIdentity .. => List (Units × JsValue)
  | .archiveStrategy .. => Unit
  | .demoteFetchToPageScript .. => Unit
  | .stampPostSaveValidationProof .. => Unit
  | .tokenSet .. => Unit
  | .saveStorageState .. => Unit
  | .driverSaveStorageState .. => Unit
  | .acquirePermit .. => Unit
  | .releasePermit .. => Unit
  | .tryCheckoutReadySession .. => Option (Nat × Option Units)
  | .createSession .. => Nat
  | .runBrowserPrereq .. => List (Units × JsValue)
  | .fireInterrupts .. => List (Units × JsValue)
  | .navigate .. => Unit
  | .fetchInBrowser .. => BrowserFetchV1
  | .htmlToAriaLikeTree .. => JsValue
  | .runWsOpenSteps .. => Unit
  | .evaluateFrame .. => Units
  | .sendWebSocketFrame .. => Option Units
  | .waitForAck .. => Option Units
  | .executeSteps .. => LocalResultV1
  | .replayStep .. => Unit
  | .endDrive .. => Unit

/-- The operations of an execution. -/
inductive LocalOpV1 where
  | sure (op : SureOpV1)
  | risky (op : RiskyOpV1)

/-- What an operation answers: an error, where it may throw. -/
abbrev LocalOpV1.Answer : LocalOpV1 → Type
  | .sure op => op.Result
  | .risky op => Except LocalErrorV1 op.Result

/-- The operations of an execution with their answers. -/
abbrev localInterface : Interface := { Op := LocalOpV1, Answer := LocalOpV1.Answer }

/-- A program of an execution. -/
abbrev LocalProgram (α : Type) : Type := Interaction localInterface LocalErrorV1 α

/-- Performs an operation that does not throw. -/
def performs (op : SureOpV1) : LocalProgram op.Result :=
  Interaction.perform (I := localInterface) (LocalOpV1.sure op)

/-- Performs an operation that may throw. -/
def attempts (op : RiskyOpV1) : LocalProgram op.Result := do
  Interaction.ofExcept (← Interaction.perform (I := localInterface) (LocalOpV1.risky op))

end Klura
