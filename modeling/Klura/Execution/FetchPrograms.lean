import Klura.Execution.PrereqPrograms

/-! The main request of a strategy over HTTP, from Node and from a page. -/

namespace Klura

open StrictJson

/-- What an execution of a strategy is told. -/
structure StrategyCallV1 where
  platform : Units
  capability : Units
  args : CallArgs
  depth : Nat
  identity : Option Units
  hasTokenCache : Bool
  role : RequestRoleV1

variable (code : LocalCodeV1)

/-- What a main request from Node throws or returns when it brings no response. -/
def mainFetchEnd (method url : Units) : NodeFetchV1 → Except LocalErrorV1 LocalResultV1
  | .response response => .ok (plainResult response.status .null)
  | .timedOut => .error (mapDispatchedHttpTimeout code method url .requestTimeout)
  | .scheduler found dispatches =>
    if httpMethodMayMutate code method = true ∧ dispatches ≠ 0 then
      .error (dispatchedHttpDeliveryUnknown code method url)
    else .error (.scheduler found)
  | .failed cause message _ =>
    if httpMethodMayMutate code method = true then
      .error (dispatchedHttpDeliveryUnknown code method url)
    else
      match classifyFetchThrow cause with
      | some signal => .error (.transportFailure signal)
      | none => .ok (plainResult 0 (errorBody "fetch_failed" [(ascii "details", .string message)]))

/-- The result that is read from the response to a main request from Node. -/
def readMainResponse (strategy : LocalStrategyV1) (call : StrategyCallV1) (url : Units)
    (withoutPersistedCookies : Bool) (response : NodeFetchedV1) : LocalProgram LocalResultV1 := do
  Interaction.whenever (withoutPersistedCookies = false ∧ response.setCookies ≠ [])
    (performs (.writeStorageStateCookies call.platform call.identity response.setCookies url))
  match ← performs (.readBody call.role url) with
  | .timedOut => throw .requestTimeout
  | .failed message =>
    return plainResult response.status
      (errorBody "body_read_failed" [(ascii "details", .string message)])
  | .text text =>
    match code.applyHtmlExtract strategy (code.parseBody response.contentType text) with
    | .error (found, details) =>
      return plainResult response.status
        (.object [(ascii "error", .string found), (ascii "details", .string details)])
    | .ok body =>
      return { plainResult response.status body with finalUrl := some response.url }

/-- Fires the main request of a strategy from Node. -/
def fireRequestFromNode (strategy : LocalStrategyV1) (args : CallArgs) (call : StrategyCallV1)
    (withoutPersistedCookies : Bool) : LocalProgram LocalResultV1 := do
  let prepared ← resolves (code.prepareRequest strategy args)
  let cookies ← Interaction.orElse (withoutPersistedCookies = false)
    (performs (.readStorageStateCookies call.platform call.identity prepared.url)) none
  let strategyHeaders ← resolves (code.resolveHeaders strategy args)
  let headers := buildNodeHeaders code strategyHeaders prepared.serializedBody.isSome
    prepared.isForm cookies
  let fetched ← performs (.sendNodeRequest call.role (workloadId call.platform call.capability)
    { method := prepared.method, url := prepared.url, headers, body := prepared.serializedBody })
  match fetched with
  | .response response =>
    tryFinally
      (tryCatch
        (readMainResponse code strategy call prepared.url withoutPersistedCookies response)
        fun error => throw (mapDispatchedHttpTimeout code prepared.method prepared.url error))
      (attempts (.releasePermit (completionOf response.status)))
  | missing => Interaction.ofExcept (mainFetchEnd code prepared.method prepared.url missing)

/-- The result of a strategy whose result is the value of a prerequisite. -/
def responseFromResult (strategy : LocalStrategyV1) (tokens : OrderedMap Units JsValue) :
    LocalResultV1 :=
  match code.applyResponseFrom strategy tokens with
  | .ok body => plainResult 200 body
  | .error message =>
    plainResult 500 (errorBody "response_from_failed" [(ascii "message", .string message)])

/-- Executes a fetch strategy from Node. -/
def executeFetchNode (strategy : LocalStrategyV1) (call : StrategyCallV1)
    (resolve : CapabilityResolver) (withoutPersistedCookies : Bool) :
    LocalProgram LocalResultV1 := do
  let tokens ← resolveNodeCompatiblePrereqs code call.hasTokenCache resolve call.args
    call.platform call.capability call.identity strategy.prerequisites []
  if strategy.responseFrom.isSome then return responseFromResult code strategy tokens
  else
    match ← resolves (code.resolveGenerated strategy (spread tokens call.args)) with
    | .inl needed => return needsGeneration call.platform call.capability needed
    | .inr args => fireRequestFromNode code strategy args call withoutPersistedCookies

/-- The characters that the body of a result may have. -/
def MAX_TOOL_OUTPUT_CHARS : Nat := 20000

/-- What a request from the page comes to once its permit is given back. -/
def settleBrowserFetch (request : OutgoingRequestV1) (result : BrowserFetchV1) :
    LocalProgram BrowserFetchV1 := do
  match result with
  | .response status _ _ =>
    attempts (.releasePermit (completionOf status))
    return result
  | .failed _ notSent timedOut =>
    attempts (.releasePermit .neutral)
    if httpMethodMayMutate code request.method = true ∧ notSent = false then
      throw (dispatchedHttpDeliveryUnknown code request.method request.url)
    else if timedOut then throw .requestTimeout
    else return result

/-- Sends a request from the page of a session, under a permit of its origin. -/
def fetchInBrowserWithOriginAdmission (session : SessionV1) (workload : Units)
    (role : RequestRoleV1) (request : OutgoingRequestV1) : LocalProgram BrowserFetchV1 := do
  attempts (.acquirePermit request.url workload)
  let rethrown (error : LocalErrorV1) : LocalProgram BrowserFetchV1 :=
    throw (mapDispatchedHttpTimeout code request.method request.url error)
  let result ← tryCatch (attempts (.fetchInBrowser role session request)) fun error => do
    attempts (.releasePermit .neutral)
    rethrown error
  -- A permit that was given back is not given back again when this throws.
  tryCatch (settleBrowserFetch code request result) rethrown

/-- The result of a response that a page received, where its body is not too large. -/
def readPageResponse (strategy : LocalStrategyV1) (session : SessionV1) (status : Nat)
    (found : JsValue) (finalUrl : Units) : LocalProgram LocalResultV1 := do
  let result (body : JsValue) : LocalResultV1 :=
    { plainResult status body with finalUrl := some finalUrl }
  match code.applyHtmlExtract strategy found with
  | .error (problem, details) =>
    return result (.object [(ascii "error", .string problem), (ascii "details", .string details)])
  | .ok body =>
    let serialized := jsonStringify body
    if serialized.length ≤ MAX_TOOL_OUTPUT_CHARS then return result body
    else
      let tooLarge := result (errorBody "response_too_large"
        [(ascii "total_chars", .number (Double.nearest false serialized.length)),
          (ascii "preview", .string (serialized.take 2000))])
      match body with
      | .string html =>
        if code.looksLikeHtml html then
          tryCatch
            (do
              let tree ← attempts (.htmlToAriaLikeTree session html)
              return result (errorBody "response_too_large_html_trimmed"
                [(ascii "total_chars", .number (Double.nearest false html.length)),
                  (ascii "a11y_tree", tree)]))
            (fun _ => return tooLarge)
        else return tooLarge
      | _ => return tooLarge

/-- Brings a page to a URL, where there is one to bring it to. -/
def navigateWhere (session : SessionV1) : Option Units → LocalProgram Unit
  | some url => attempts (.navigate session url)
  | none => pure ()

/-- Fires the main request of a strategy from the page of a session, and persists the cookies of
the session; the jar that it persists them in is the one of the default account. -/
def fireRequestInSession (session : SessionV1) (strategy : LocalStrategyV1) (args : CallArgs)
    (call : StrategyCallV1) (navigateTo : Option Units) : LocalProgram LocalResultV1 := do
  let prepared ← resolves (code.prepareRequest strategy args)
  let resolved ← resolves (code.resolveHeaders strategy args)
  let typed := if prepared.method ≠ ascii "GET" ∧ prepared.bodyObj.isSome then
      [(ascii "Content-Type", if prepared.isForm then ascii "application/x-www-form-urlencoded"
        else ascii "application/json")]
    else []
  let headers := code.stripForbiddenHeaders
    (resolved.foldl (fun headers header => OrderedMap.set headers header.1 header.2) typed)
  navigateWhere session navigateTo
  let fetched ← fetchInBrowserWithOriginAdmission code session
    (workloadId call.platform call.capability) call.role
    { method := prepared.method, url := prepared.url, headers, body := prepared.serializedBody }
  attempts (.saveStorageState call.platform none)
  attempts (.driverSaveStorageState session call.platform none)
  match fetched with
  | .failed error _ _ =>
    return plainResult 0 (errorBody "fetch_failed" [(ascii "details", .string error)])
  | .response status body finalUrl => readPageResponse code strategy session status body finalUrl

/-- A ready session for an account, where one is looked for and found. -/
def tryCheckoutReadySession (platform : Units) (identity : Option Units) :
    Option (Units × Option Units) → LocalProgram (Option (Nat × Option Units))
  | some (url, wsUrl) => attempts (.tryCheckoutReadySession platform identity url wsUrl)
  | none => pure none

/-- A session for an account: a ready one on a page, or else a new one with the cookies of the
account's jar. -/
def openSession (platform : Units) (identity : Option Units)
    (ready : Option (Units × Option Units)) (storageState : Bool) : LocalProgram SessionV1 := do
  match ← tryCheckoutReadySession platform identity ready with
  | some (id, owner) => return { id, platform, identity := owner, borrowed := true }
  | none =>
    let id ← attempts (.createSession platform identity storageState)
    return { id, platform, identity, borrowed := false }

/-- The page that a strategy over HTTP finds ready. -/
def readyOf (strategy : LocalStrategyV1) : Option (Units × Option Units) :=
  if strategy.baseUrl = [] then none else some (strategy.baseUrl, none)

/-- What an execution does in its session before and with the main request. -/
def runInSession (strategy : LocalStrategyV1) (call : StrategyCallV1) (session : SessionV1)
    (browserPrereqs : List StrategyPrereqV1) (scanned : OrderedMap Units JsValue) :
    LocalProgram LocalResultV1 := do
  let tokens ← runBrowserPrereqs call.hasTokenCache session call.platform call.args
    strategy.responseFrom browserPrereqs scanned
  if strategy.responseFrom.isSome then return responseFromResult code strategy tokens
  else
    let interrupted ← attempts (.fireInterrupts session strategy tokens)
    let bound := spread tokens interrupted
    match ← resolves (code.resolveGenerated strategy (spread bound call.args)) with
    | .inl needed => return needsGeneration call.platform call.capability needed
    | .inr args =>
      let currentUrl ← performs (.getUrl session)
      if code.originOf currentUrl = code.originOf strategy.baseUrl then
        fireRequestInSession code session strategy args call none
      else
        let url ← resolves (code.navigateTo strategy args)
        fireRequestInSession code session strategy args call (some url)

/-- Executes a strategy over HTTP in a page. -/
def executeFetchInBrowser (execute : SubCallV1 → LocalProgram LocalResultV1)
    (strategy : LocalStrategyV1) (call : StrategyCallV1) : LocalProgram LocalResultV1 := do
  -- No account is passed on to the capabilities that the strategy depends on, and no suppression.
  let resolve : CapabilityResolver := fun prereq tokens =>
    resolveCapabilityPrereq code execute prereq call.platform call.args tokens call.depth none false
  let (tokens, browserPrereqs) ← scanCachedPrereqs call.hasTokenCache call.platform resolve
    strategy.prerequisites []
  let storageState ← performs (.loadStorageStatePath call.platform call.identity)
  let session ← openSession call.platform call.identity (readyOf strategy) storageState
  tryFinally (runInSession code strategy call session browserPrereqs tokens)
    (attempts (.endDrive session))

end Klura
