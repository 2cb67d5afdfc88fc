import Klura.Execution.Operations

/-! How the prerequisites of a strategy are resolved, from Node and before a page. -/

namespace Klura

open StrictJson

/-- A generator that only the caller can run, by the name of what it generates. -/
abbrev NeededGenerators : Type := List (Units × JsValue)

/-- The parts of a request that a prerequisite makes. -/
structure PrereqRequestV1 where
  method : Units
  headers : List (Units × Units)
  body : Option Units

/-- The device that requests from Node pretend to be. -/
structure DeviceProfileV1 where
  userAgent : Option Units
  acceptLanguage : Units
  clientHints : List (Units × Units)

/-- The functions of an execution that neither perform anything nor choose what is performed. -/
structure LocalCodeV1 where
  toUpperCase : Units → Units
  toLowerCase : Units → Units
  device : DeviceProfileV1
  /-- The request of a strategy for arguments, or why there is none. -/
  prepareRequest : LocalStrategyV1 → CallArgs → Except Units PreparedRequest
  resolveHeaders : LocalStrategyV1 → CallArgs → Except Units (List (Units × Units))
  /-- The templates of a prerequisite, resolved in a scope. -/
  prereqUrl : StrategyPrereqV1 → CallArgs → Except Units Units
  prereqRequest : StrategyPrereqV1 → CallArgs → Except Units PrereqRequestV1
  capabilityArgs : StrategyPrereqV1 → CallArgs → Except Units CallArgs
  /-- The tokens that a prerequisite extracts from the text of a response. -/
  extractTokens : StrategyPrereqV1 → Units → Except PrereqFailureV1 (List (Units × JsValue))
  walkJsonPath : JsValue → Units → Option JsValue
  /-- The value of a body with a content type. -/
  parseBody : Units → Units → JsValue
  applyHtmlExtract : LocalStrategyV1 → JsValue → Except (Units × Units) JsValue
  applyResponseFrom : LocalStrategyV1 → OrderedMap Units JsValue → Except Units JsValue
  /-- The arguments with what the generators of a strategy make, or what only the caller can. -/
  resolveGenerated : LocalStrategyV1 → CallArgs → Except Units (NeededGenerators ⊕ CallArgs)
  looksLikeHtml : Units → Bool
  stripForbiddenHeaders : List (Units × Units) → List (Units × Units)
  originOf : Units → Units
  navigateTo : LocalStrategyV1 → CallArgs → Except Units Units
  /-- The frame of a strategy that does not need the page, or what only the caller can make. -/
  resolveWsFrame : LocalStrategyV1 → CallArgs → Except Units (NeededGenerators ⊕ Units)
  wsUrl : LocalStrategyV1 → CallArgs → Except Units Units
  wsOrigin : LocalStrategyV1 → CallArgs → Except Units Units
  /-- The URLs of a ready page, where no placeholder is left in them. -/
  readyPage : LocalStrategyV1 → CallArgs → Except Units (Option (Units × Units))
  extractEnumValuesFromListing : JsValue → List Units
  assessDeclaredCollectionEmptiness : LocalStrategyV1 → JsValue → Bool
  looksLikeAuthFailure : LocalResultV1 → Bool

/-- An object with the members of another laid over it. -/
def spread (base patch : List (Units × JsValue)) : List (Units × JsValue) :=
  patch.foldl (fun members member => OrderedMap.set members member.1 member.2) base

/-- A result of a status and a body. -/
def plainResult (status : Nat) (body : JsValue) : LocalResultV1 :=
  { status := some status, body, bodyOk := none, executionState := none, finalUrl := none }

/-- A result that ends in an execution state. -/
def stateResult (state : FactoryExecutionState) (body : List (Units × JsValue)) : LocalResultV1 :=
  { status := some 0, body := .object body, bodyOk := none, executionState := some state,
    finalUrl := none }

/-- A body that names an error with its details. -/
def errorBody (code : String) (details : List (Units × JsValue)) : JsValue :=
  .object ((ascii "error", .string (ascii code)) :: details)

/-- The result of an execution that only the caller's generators can go on with. -/
def needsGeneration (platform capability : Units) (needed : NeededGenerators) : LocalResultV1 :=
  stateResult .notRun [(ascii "needs_generation", .boolean true),
    (ascii "platform", .string platform), (ascii "capability", .string capability),
    (ascii "generators_needed", .object needed)]

/-- The result of a text function, or its error thrown. -/
def resolves {α : Type} (result : Except Units α) : LocalProgram α :=
  Interaction.ofExcept (result.mapError .other)

variable (code : LocalCodeV1)

/-- Whether a dispatched HTTP method may have changed remote state. -/
def httpMethodMayMutate (method : Units) : Bool :=
  let normalized := code.toUpperCase method
  normalized != ascii "GET" && normalized != ascii "HEAD" && normalized != ascii "OPTIONS"

/-- The error for a request that was dispatched without a response that confirms its delivery. -/
def dispatchedHttpDeliveryUnknown (method url : Units) : LocalErrorV1 :=
  .state .sentUnconfirmed (ascii "http_delivery_unknown")
    [(ascii "method", .string (code.toUpperCase method)), (ascii "url", .string url)]

/-- A deadline that passed behind the dispatch of a mutation leaves its delivery unknown. -/
def mapDispatchedHttpTimeout (method url : Units) : LocalErrorV1 → LocalErrorV1
  | .requestTimeout =>
    if httpMethodMayMutate code method then dispatchedHttpDeliveryUnknown code method url
    else .requestTimeout
  | error => error

/-- The signal of an error of the transport, by the code of its cause. -/
def classifyFetchThrow (cause : Option Units) : Option Units :=
  match cause with
  | none => none
  | some found =>
    if found = ascii "EAI_AGAIN" ∨ found = ascii "ENOTFOUND" then some (ascii "dns_failure")
    else if found = ascii "ECONNRESET" ∨ found = ascii "EPIPE" then some (ascii "connection_reset")
    else if found = ascii "EPROTO" then some (ascii "tls_protocol_error")
    else if ascii "ERR_SSL_" <+: found ∨ ascii "CERT_" <+: found then some (ascii "tls_handshake")
    else if found = ascii "ERR_HTTP2_PROTOCOL_ERROR" ∨ found = ascii "ERR_HTTP2_STREAM_ERROR" then
      some (ascii "http2_protocol")
    else none

/-- Whether a header is among those given, whatever its case. -/
def hasHeader (headers : List (Units × Units)) (name : String) : Bool :=
  headers.any fun header => code.toLowerCase header.1 == ascii name

/-- The headers of a request from Node: those of the strategy, then the device's, then cookies. -/
def buildNodeHeaders (strategyHeaders : List (Units × Units)) (bodyIsSerialized isForm : Bool)
    (cookieHeader : Option Units) : List (Units × Units) :=
  let put (headers : List (Units × Units)) (name : String) (value : Option Units) :
      List (Units × Units) :=
    match value with
    | some text => OrderedMap.set headers (ascii name) text
    | none => headers
  let given := strategyHeaders.foldl
    (fun headers header => OrderedMap.set headers header.1 header.2) []
  let typed := put given "Content-Type" (if bodyIsSerialized && !hasHeader code given "content-type"
    then some (if isForm then ascii "application/x-www-form-urlencoded"
      else ascii "application/json") else none)
  let named := put typed "User-Agent"
    (if hasHeader code typed "user-agent" then none else code.device.userAgent)
  let spoken := put named "Accept-Language"
    (if hasHeader code named "accept-language" then none else some code.device.acceptLanguage)
  let hinted := code.device.clientHints.foldl (fun headers hint =>
    if headers.any fun header => code.toLowerCase header.1 == hint.1 then headers
    else OrderedMap.set headers hint.1 hint.2) spoken
  match cookieHeader with
  | some (unit :: rest) => OrderedMap.set hinted (ascii "Cookie") (unit :: rest)
  | _ => hinted

/-- The name that the traffic of a capability is scheduled under. -/
def workloadId (platform capability : Units) : Units := platform ++ 47 :: capability

/-- How a permit is given back after a response. -/
def completionOf (status : Nat) : SchedulerCompletionV1 :=
  if 500 ≤ status then .transientFailure else .success

/-- What a prerequisite throws when its request from Node brings no response. -/
def prereqFetchError (prereq : StrategyPrereqV1) (method url : Units) (fetch : NodeFetchV1) :
    LocalErrorV1 :=
  let mutates := prereq.kind = .fetchExtract ∧ httpMethodMayMutate code method = true
  match fetch with
  | .response _ => .prereq prereq.name (.fetchFailed [])
  | .timedOut =>
    if mutates then dispatchedHttpDeliveryUnknown code method url
    else .prereq prereq.name (.fetchFailed [])
  | .scheduler found dispatches =>
    if prereq.kind = .pageExtract then .prereq prereq.name (.fetchFailed found)
    else if mutates ∧ dispatches ≠ 0 then dispatchedHttpDeliveryUnknown code method url
    else .scheduler found
  | .failed cause message _ =>
    if mutates then dispatchedHttpDeliveryUnknown code method url
    else
      match classifyFetchThrow cause with
      | some signal => .transportFailure signal
      | none => .prereq prereq.name (.fetchFailed message)

/-- The tokens that a prerequisite extracts from a response to its request. -/
def readPrereqResponse (prereq : StrategyPrereqV1) (platform : Units) (identity : Option Units)
    (url : Units) (response : NodeFetchedV1) : LocalProgram (List (Units × JsValue)) := do
  Interaction.whenever (response.setCookies ≠ [])
    (performs (.writeStorageStateCookies platform identity response.setCookies url))
  if response.status < 200 ∨ 300 ≤ response.status then
    throw (.prereq prereq.name (.badStatus response.status))
  else
    match ← performs (.readBody .prerequisite url) with
    | .timedOut => throw .requestTimeout
    | .failed message => throw (.prereq prereq.name (.unreadableBody message))
    | .text text =>
      Interaction.ofExcept ((code.extractTokens prereq text).mapError (.prereq prereq.name))

/-- Fetches a prerequisite from Node: the persisted cookies go with it, and those of the response
are persisted. -/
def fetchPrereqFromNode (prereq : StrategyPrereqV1) (scope : CallArgs)
    (platform capability : Units) (identity : Option Units) :
    LocalProgram (List (Units × JsValue)) := do
  match prereq.url with
  | none | some [] => throw (.prereq prereq.name .missingUrl)
  | some _ =>
    let url ← resolves (code.prereqUrl prereq scope)
    if prereq.kind ≠ .fetchExtract ∧ prereq.kind ≠ .pageExtract then
      throw (.prereq prereq.name .unsupportedKind)
    else if prereq.vars = none then throw (.prereq prereq.name .missingVars)
    else
      let request ← resolves (code.prereqRequest prereq scope)
      let cookies ← performs (.readStorageStateCookies platform identity url)
      let method := if prereq.kind = .pageExtract then ascii "GET"
        else code.toUpperCase request.method
      let built := buildNodeHeaders code request.headers request.body.isSome false cookies
      let headers := if prereq.kind = .pageExtract then
          OrderedMap.set built (ascii "Accept")
            (ascii "text/html,application/xhtml+xml,application/xml;q=0.9,*/*;q=0.8")
        else built
      let fetched ← performs (.sendNodeRequest .prerequisite (workloadId platform capability)
        { method, url, headers, body := request.body })
      match fetched with
      | .response response =>
        tryFinally
          (tryCatch (readPrereqResponse code prereq platform identity url response)
            fun error => throw (mapDispatchedHttpTimeout code method url error))
          (attempts (.releasePermit (completionOf response.status)))
      | missing => throw (prereqFetchError code prereq method url missing)

/-- An execution of a capability that a strategy depends on. -/
structure SubCallV1 where
  platform : Units
  capability : Units
  args : CallArgs
  depth : Nat
  identity : Option Units
  suppressStrategyState : Bool

variable (execute : SubCallV1 → LocalProgram LocalResultV1)

/-- The time that the results of a capability are cached. -/
def resolveCapabilityCacheTtlMs (platform capability : Units) : LocalProgram Int := do
  let saved ← attempts (.loadStrategies platform capability)
  return (saved.findSome? LocalStrategyV1.cacheTtlMs).getD 0

/-- The capability that a prerequisite names, or that provides its tag. -/
def targetCapability (prereq : StrategyPrereqV1) (targetPlatform : Units) :
    LocalProgram Units := do
  if prereq.kind = .tag then
    match prereq.tag with
    | none | some [] => throw (.prereq prereq.name .missingTag)
    | some tag =>
      match ← attempts (.findCapabilitiesProviding targetPlatform tag) with
      | [] => throw (.prereq prereq.name .noProvider)
      | [capability] => return capability
      | _ => throw (.prereq prereq.name .severalProviders)
  else
    match prereq.capability with
    | none => throw (.prereq prereq.name .missingCapability)
    | some capability => return capability

/-- The result of a capability from the cache, or else of its execution, which is then cached. -/
def getCachedOrExecuted (call : SubCallV1) (ttlMs : Int) : LocalProgram LocalResultV1 := do
  let hit ← Interaction.orElse (0 < ttlMs)
    (performs (.capabilityCacheGet call.platform call.identity call.capability call.args)) none
  match hit with
  | some result => return result
  | none =>
    let fresh ← execute call
    Interaction.whenever (0 < ttlMs) (performs
      (.capabilityCacheSet call.platform call.identity call.capability call.args fresh ttlMs))
    return fresh

/-- The value that a path of a prerequisite leads to in the result it depends on. -/
def boundValue (prereq : StrategyPrereqV1) (body : JsValue) (name path : Units) :
    Except LocalErrorV1 JsValue :=
  match path with
  | [] => .ok body
  | path =>
    match code.walkJsonPath body path with
    | some value => .ok value
    | none =>
      if prereq.optional then .ok .null
      else .error (.prereq prereq.name (.unresolved name))

/-- The values that the paths of a prerequisite lead to in the result it depends on. -/
def bindVars (prereq : StrategyPrereqV1) (body : JsValue) :
    List (Units × Units) → Except LocalErrorV1 (List (Units × JsValue))
  | [] => .ok []
  | (name, path) :: rest => do
    let value ← boundValue code prereq body name path
    let others ← bindVars prereq body rest
    .ok ((name, value) :: others)

/-- What a prerequisite binds of the result it depends on, none for its effects alone. -/
def boundOf (prereq : StrategyPrereqV1) (result : LocalResultV1) :
    Except LocalErrorV1 (Option (List (Units × JsValue))) :=
  let vars := prereq.vars.getD []
  let unbound := if vars = [] then none
    else some (vars.map fun entry => (entry.1, JsValue.null))
  match classifyFactoryExecutionResult result.toExecuteResultV1 with
  | .notRun =>
    if prereq.optional then .ok unbound
    else .error (.state .notRun (ascii "capability_prerequisite_not_run")
      [(ascii "prerequisite", .string prereq.name), (ascii "prerequisite_result", result.body)])
  | .deliveryUnknown =>
    .error (.state .sentUnconfirmed (ascii "capability_prerequisite_delivery_unknown")
      [(ascii "prerequisite", .string prereq.name), (ascii "prerequisite_result", result.body)])
  | .transportFailure | .explicitFailure =>
    if prereq.optional then .ok unbound
    else .error (.prereq prereq.name (.failedWith result.status))
  | .explicitSuccess | .transportAccepted =>
    if vars = [] then .ok none
    else (bindVars code prereq result.body vars).map some

/-- Resolves a prerequisite on a capability: its result is taken from the cache or executed. -/
def resolveCapabilityPrereq (prereq : StrategyPrereqV1) (callerPlatform : Units)
    (callerArgs : CallArgs) (callerTokens : OrderedMap Units JsValue) (depth : Nat)
    (parentIdentity : Option Units) (suppressStrategyState : Bool) :
    LocalProgram (Option (List (Units × JsValue))) := do
  let targetPlatform := match prereq.platform with
    | some (unit :: rest) => unit :: rest
    | _ => callerPlatform
  let capability ← targetCapability prereq targetPlatform
  let args ← resolves (code.capabilityArgs prereq (spread callerTokens callerArgs))
  -- A verification must neither see nor replace what callers find in the cache.
  let ttlMs ← Interaction.orElse (suppressStrategyState = false)
    (resolveCapabilityCacheTtlMs targetPlatform capability) 0
  let result ← getCachedOrExecuted execute
    { platform := targetPlatform, capability, args, depth := depth + 1,
      identity := parentIdentity, suppressStrategyState } ttlMs
  Interaction.ofExcept (boundOf code prereq result)

/-- A prerequisite on a capability as the caller of a loop over prerequisites resolves it. -/
abbrev CapabilityResolver : Type :=
  StrategyPrereqV1 → OrderedMap Units JsValue → LocalProgram (Option (List (Units × JsValue)))

/-- The value of a cached prerequisite. -/
def cachedToken (hasTokenCache : Bool) (platform : Units) (prereq : StrategyPrereqV1) :
    LocalProgram JsValue := do
  let cached ← Interaction.orElse (hasTokenCache = true)
    (performs (.tokenGet platform prereq.name)) none
  return match cached with
    | some token => .string token
    | none => prereq.value.getD (.string [])

/-- Keeps the token that a prerequisite leaves under its own name. -/
def keepToken (hasTokenCache : Bool) (platform : Units) (prereq : StrategyPrereqV1)
    (tokens : OrderedMap Units JsValue) : LocalProgram Unit :=
  match prereq.name, OrderedMap.get? tokens prereq.name, hasTokenCache, prereq.ttl with
  | _ :: _, some (.string (unit :: rest)), true, some ttl =>
    attempts (.tokenSet platform prereq.name (unit :: rest) ttl)
  | _, _, _, _ => pure ()

/-- The tokens with one that is cached, where it is not empty. -/
def withCached (tokens : OrderedMap Units JsValue) (name : Units) :
    Option Units → OrderedMap Units JsValue
  | some (unit :: rest) => OrderedMap.set tokens name (.string (unit :: rest))
  | _ => tokens

/-- Resolves a prerequisite of a strategy from Node, and adds what it binds to the tokens. -/
def resolveNodePrereq (hasTokenCache : Bool) (resolve : CapabilityResolver) (args : CallArgs)
    (platform capability : Units) (identity : Option Units) (prereq : StrategyPrereqV1)
    (tokens : OrderedMap Units JsValue) : LocalProgram (OrderedMap Units JsValue) := do
  match prereq.kind with
  | .cached =>
    let token ← cachedToken hasTokenCache platform prereq
    return OrderedMap.set tokens prereq.name token
  | .capability | .tag =>
    let bound ← resolve prereq tokens
    return spread tokens (bound.getD [])
  | _ =>
    let cached ← Interaction.orElse (prereq.kind = .fetchExtract ∧ hasTokenCache = true)
      (performs (.tokenGet platform prereq.name)) none
    let scope := withCached tokens prereq.name cached
    let extracted ← fetchPrereqFromNode code prereq (spread scope args) platform capability identity
    keepToken hasTokenCache platform prereq extracted
    return spread scope extracted

/-- Resolves the prerequisites of a strategy from Node. -/
def resolveNodeCompatiblePrereqs (hasTokenCache : Bool) (resolve : CapabilityResolver)
    (args : CallArgs) (platform capability : Units) (identity : Option Units) :
    List StrategyPrereqV1 → OrderedMap Units JsValue → LocalProgram (OrderedMap Units JsValue)
  | [], tokens => pure tokens
  | prereq :: rest, tokens => do
    let next ← resolveNodePrereq code hasTokenCache resolve args platform capability identity prereq
      tokens
    resolveNodeCompatiblePrereqs hasTokenCache resolve args platform capability identity rest next

/-- Resolves a prerequisite that needs no page, and adds what it binds to the tokens; none where
it is left to a page. -/
def scanCachedPrereq (hasTokenCache : Bool) (platform : Units) (resolve : CapabilityResolver)
    (prereq : StrategyPrereqV1) (tokens : OrderedMap Units JsValue) :
    LocalProgram (Option (OrderedMap Units JsValue)) := do
  match prereq.kind with
  | .cached =>
    let token ← cachedToken hasTokenCache platform prereq
    return some (OrderedMap.set tokens prereq.name token)
  | .capability | .tag =>
    let bound ← resolve prereq tokens
    return some (spread tokens (bound.getD []))
  | _ =>
    let cached ← Interaction.orElse (prereq.kind = .browser ∧ hasTokenCache = true)
      (performs (.tokenGet platform prereq.name)) none
    return match cached with
      | some (unit :: rest) => some (withCached tokens prereq.name (some (unit :: rest)))
      | _ => none

/-- Resolves what needs no page of the prerequisites of a strategy, and leaves the others. -/
def scanCachedPrereqs (hasTokenCache : Bool) (platform : Units) (resolve : CapabilityResolver) :
    List StrategyPrereqV1 → OrderedMap Units JsValue →
      LocalProgram (OrderedMap Units JsValue × List StrategyPrereqV1)
  | [], tokens => pure (tokens, [])
  | prereq :: rest, tokens => do
    let resolved ← scanCachedPrereq hasTokenCache platform resolve prereq tokens
    let left ← scanCachedPrereqs hasTokenCache platform resolve rest (resolved.getD tokens)
    return (left.1, if resolved.isSome then left.2 else prereq :: left.2)

/-- Runs the prerequisites that need a page in a session. -/
def runBrowserPrereqs (hasTokenCache : Bool) (session : SessionV1) (platform : Units)
    (args : CallArgs) (fresh : Option Units) :
    List StrategyPrereqV1 → OrderedMap Units JsValue → LocalProgram (OrderedMap Units JsValue)
  | [], tokens => pure tokens
  | prereq :: rest, tokens => do
    let bindsTo := prereq.binds.getD prereq.name
    let extracted ← attempts (.runBrowserPrereq session prereq (spread tokens args)
      (decide (prereq.kind = .jsEval ∧ fresh = some bindsTo)))
    let next := spread tokens extracted
    Interaction.whenever (prereq.kind = .browser) (keepToken hasTokenCache platform prereq next)
    runBrowserPrereqs hasTokenCache session platform args fresh rest next

end Klura
