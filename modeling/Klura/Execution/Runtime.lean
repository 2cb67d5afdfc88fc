import Klura.Execution.Stores

/-! What an execution runs with, and the plainest of it: texts without templates, and operations that
find nothing and succeed. -/

namespace Klura

open StrictJson

/-- What an execution runs with. -/
structure LocalRuntimeV1 where
  code : LocalCodeV1
  finalizeCascadeFailure : CallArgs → CascadeStateV1 → LocalResultV1
  hasPool : Bool
  hasTokenCache : Bool
  /-- How deep executions may lie within each other. -/
  nesting : Nat

/-- The program of an execution. -/
def LocalRuntimeV1.execute (runtime : LocalRuntimeV1) (call : LocalExecutionV1) :
    LocalProgram LocalResultV1 :=
  executeNested runtime.code runtime.finalizeCascadeFailure runtime.hasPool runtime.hasTokenCache
    runtime.nesting call

/-- A run of an execution on what outlives it. -/
def LocalRuntimeV1.runsOn {Value : Type} (runtime : LocalRuntimeV1)
    (behaviour : Behaviour localInterface StoreKeyV1 Value) (call : LocalExecutionV1)
    (store : StoreKeyV1 → Value) :
    Interaction.Ran localInterface LocalErrorV1 LocalResultV1
      (Footprint localInterface StoreKeyV1 Value) :=
  runOn LocalOpV1.reads LocalOpV1.writes behaviour (runtime.execute call) store

/-- The texts of an execution without templates: they stand for themselves, with the method of the
main request and the prerequisites'. -/
def plainCode (method : String) : LocalCodeV1 where
  toUpperCase text := text
  toLowerCase text := text
  device := { userAgent := none, acceptLanguage := ascii "en", clientHints := [] }
  prepareRequest strategy _ := .ok {
    method := ascii method, url := strategy.baseUrl, isForm := false, bodyObj := none
    serializedBody := none }
  resolveHeaders _ _ := .ok []
  prereqUrl prereq _ := .ok (prereq.url.getD [])
  prereqRequest _ _ := .ok { method := ascii "GET", headers := [], body := none }
  capabilityArgs _ _ := .ok []
  extractTokens _ _ := .ok []
  walkJsonPath _ _ := none
  parseBody _ text := .string text
  applyHtmlExtract _ body := .ok body
  applyResponseFrom _ _ := .ok .null
  resolveGenerated _ args := .ok (.inr args)
  looksLikeHtml _ := false
  stripForbiddenHeaders headers := headers
  originOf text := text
  navigateTo strategy _ := .ok strategy.baseUrl
  resolveWsFrame _ _ := .ok (.inr [])
  wsUrl _ _ := .ok []
  wsOrigin _ _ := .ok []
  readyPage _ _ := .ok none
  extractEnumValuesFromListing _ := []
  assessDeclaredCollectionEmptiness _ _ := false
  looksLikeAuthFailure _ := false

/-- The plainest runtime. -/
def plainRuntime (method : String) (hasPool : Bool) : LocalRuntimeV1 where
  code := plainCode method
  finalizeCascadeFailure _ _ := plainResult 500 .null
  hasPool
  hasTokenCache := false
  nesting := 2

/-- A strategy on a tier without prerequisites. -/
def plainLocalStrategy (tier : StrategyTier) : LocalStrategyV1 where
  tier
  baseUrl := ascii "https://shop.example/orders"
  websocket := none
  prerequisites := []
  params := []
  responseFrom := none
  anchor := none
  stepIds := []
  provides := []
  cacheTtlMs := none
  others := .null

/-- A call of one capability of a shop. -/
def plainExecution (identity : Option Units) : LocalExecutionV1 where
  platform := ascii "shop"
  capability := ascii "list_orders"
  args := []
  depth := 0
  identity
  strategyOverride := none
  suppressStrategyState := false
  suppressPersistedCookies := false

/-- The answer of an operation that does not throw where nothing is found and nothing fails. -/
def SureOpV1.plainAnswer : (op : SureOpV1) → op.Result
  | .shouldSkipBrokenTier .. => .run
  | .updateHealth .. => ()
  | .getHealthIsBroken .. => false
  | .recordNodeTransportFailure .. => (1 : Nat)
  | .tokenGet .. => none
  | .capabilityCacheGet .. => none
  | .capabilityCacheSet .. => ()
  | .evictForCapability .. => ()
  | .readStorageStateCookies .. => none
  | .writeStorageStateCookies .. => ()
  | .loadStorageStatePath .. => false
  | .sendNodeRequest _ _ request => .response {
      status := 200, setCookies := [], contentType := ascii "text/plain", url := request.url }
  | .readBody .. => .text (ascii "done")
  | .sendNodeWebSocketFrame .. => .sent none
  | .getUrl session => session.platform
  | .waitForWsOpen .. => true
  | .endDriveQuietly .. => ()

/-- What an operation that may throw returns where nothing is found and nothing fails, with the
strategies that are saved. -/
def RiskyOpV1.plainAnswer (saved : List LocalStrategyV1) : (op : RiskyOpV1) → op.Result
  | .loadStrategies .. => saved
  | .loadStrategy .. => none
  | .findCapabilitiesProviding .. => []
  | .isCapabilityForbidden .. => false
  | .isTierAllowed .. => true
  | .getIdentity .. => []
  | .archiveStrategy .. => ()
  | .demoteFetchToPageScript .. => ()
  | .stampPostSaveValidationProof .. => ()
  | .tokenSet .. => ()
  | .saveStorageState .. => ()
  | .driverSaveStorageState .. => ()
  | .acquirePermit .. => ()
  | .releasePermit .. => ()
  | .tryCheckoutReadySession .. => none
  | .createSession .. => (0 : Nat)
  | .runBrowserPrereq .. => []
  | .fireInterrupts .. => []
  | .navigate .. => ()
  | .fetchInBrowser _ _ request => .response 200 (.string (ascii "done")) request.url
  | .htmlToAriaLikeTree .. => .null
  | .runWsOpenSteps .. => ()
  | .evaluateFrame .. => ([] : Units)
  | .sendWebSocketFrame .. => none
  | .waitForAck .. => none
  | .executeSteps .. => plainResult 200 .null
  | .replayStep .. => ()
  | .endDrive .. => ()

/-- The answer of an operation where nothing is found and nothing fails. -/
def LocalOpV1.plainAnswer (saved : List LocalStrategyV1) : (op : LocalOpV1) → op.Answer
  | .sure op => op.plainAnswer
  | .risky op => .ok (op.plainAnswer saved)

/-- The plainest behaviour, with the strategies that are saved. -/
def plainBehaviour (saved : List LocalStrategyV1) : Behaviour localInterface StoreKeyV1 Bool :=
  fun _ op _ => (op.plainAnswer saved, fun _ => false)

/-- The request of an operation of Node. -/
def LocalOpV1.nodeRequest : LocalOpV1 → Option OutgoingRequestV1
  | .sure (.sendNodeRequest _ _ request) => some request
  | _ => none

/-- The requests that Node sends in a run. -/
def nodeRequests (events : List (Interaction.Event localInterface)) : List OutgoingRequestV1 :=
  events.filterMap fun event => event.op.nodeRequest

end Klura
