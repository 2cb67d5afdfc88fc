import Klura.Execution.Request
import Klura.Contracts.CanonicalText

/-! How successful runs of a recorded path are observed, and how a faster strategy is made of them. -/

namespace Klura

open StrictJson

/-- A request that the driver intercepted, with the parts that graduation reads. -/
structure InterceptedRequest where
  method : Units
  url : Units
  headers : List (Units × Units)
  /-- None for an undefined body. -/
  postData : Option JsValue
  status : Option Nat
  isNavigation : Bool

/-- The kinds of bodies. -/
inductive BodyKind where
  | json
  | form
  | other
  | none
  deriving DecidableEq

/-- The shape of a captured call. -/
structure CapturedCallShape where
  method : Units
  urlShape : Units
  origin : Units
  endpointPath : Units
  headerNames : List Units
  headers : List (Units × Units)
  bodyKind : BodyKind
  bodyTopKeys : List Units
  rawBody : JsValue

/-- A frame of a web socket that the driver captured. -/
structure WebSocketFrame where
  url : Units
  sent : Bool
  payload : Units
  timestamp : Nat
  deriving DecidableEq

/-- The shape of a frame that echoed what a run typed. -/
structure WsObservedShape where
  wsUrl : Units
  frameTemplate : Units
  substitutedArgs : List (Units × Units)
  ackSubstring : Option Units
  deriving DecidableEq

/-- The tiers that a recorded path graduates to. -/
inductive GraduatedTier where
  | fetch
  | pageScript
  deriving DecidableEq

/-- What is stored about the runs of a capability. -/
structure GraduationState where
  observations : List CapturedCallShape
  wsObservations : List WsObservedShape
  graduatedTier : Option GraduatedTier

/-- The state of a capability without stored runs. -/
def GraduationState.empty : GraduationState :=
  { observations := [], wsObservations := [], graduatedTier := none }

/-- The observations that are kept of a capability. -/
def MAX_OBSERVATIONS : Nat := 10

/-- The headers that are never sent again. -/
def UNSAFE_HEADERS : List Units :=
  ["host", "connection", "content-length", "cookie", "sec-fetch-dest", "sec-fetch-mode",
    "sec-fetch-site", "sec-fetch-user", "upgrade-insecure-requests", ":authority", ":method",
    ":path", ":scheme"].map ascii

/-- The headers that are kept of a call. -/
def MAX_HEADERS_PER_CALL : Nat := 32

/-- The code units that are kept of a header's value. -/
def MAX_HEADER_VALUE_CHARS : Nat := 1024

/-- The parts of a parsed URL. -/
structure ParsedUrl where
  protocol : Units
  host : Units
  pathname : Units

/-- The functions of the language that graduation rests on besides those of resolution. -/
structure GraduationWorld extends ResolveWorld where
  /-- None where the URL constructor throws. -/
  parseUrl : Units → Option ParsedUrl
  /-- None where a string is badly escaped. -/
  decodeURIComponent : Units → Option Units

/-- A string without white space at its ends. -/
def trim (text : Units) : Units :=
  ((text.dropWhile isWhitespace).reverse.dropWhile isWhitespace).reverse

/-- The media type of a request. -/
def extractContentType (world : GraduationWorld) (entry : InterceptedRequest) : Option Units :=
  (entry.headers.find? fun header => world.toLowerCase header.1 == ascii "content-type").map
    fun header =>
      let head := header.2.takeWhile (· != 59)
      trim (if head = [] then header.2 else head)

/-- The value of a JSON text, null where it is none. -/
def tryParseJson (text : Units) : JsValue := (jsonParse text).getD .null

/-- The value of a JSON body, which may be captured as its text. -/
def parsedBody : JsValue → JsValue
  | .string text => tryParseJson text
  | value => value

/-- Whether a body is there. -/
def bodyMissing : Option JsValue → Bool
  | none | some .null | some (.string []) => true
  | some _ => false

/-- The kind of a body and the keys at its top. -/
def classifyBodyKind (world : GraduationWorld) (contentType : Option Units)
    (body : Option JsValue) : BodyKind × List Units :=
  if bodyMissing body then (.none, [])
  else
    let ct := world.toLowerCase (contentType.getD [])
    if includes ct (ascii "application/json") then
      match body.map parsedBody with
      | some (.object entries) => (.json, world.sortByLocale (entries.map Prod.fst))
      | _ => (.json, [])
    else if includes ct (ascii "application/x-www-form-urlencoded") then (.form, [])
    else (.other, [])

/-- The headers of a request that are kept, by their names in lower case. -/
def keptHeaders (world : GraduationWorld) (entry : InterceptedRequest) : List (Units × Units) :=
  ((entry.headers.map fun header => (world.toLowerCase header.1, header.2)).filter fun header =>
    !UNSAFE_HEADERS.contains header.1).take MAX_HEADERS_PER_CALL |>.map fun header =>
      (header.1, header.2.take MAX_HEADER_VALUE_CHARS)

/-- The shape of one request of the log, where it can be captured. -/
def candidateOf (world : GraduationWorld) (entry : InterceptedRequest) : Option CapturedCallShape :=
  let method := world.toUpperCase entry.method
  if [ascii "GET", ascii "HEAD", ascii "OPTIONS", []].contains method then none
  else if entry.status.all fun status => status < 200 || 300 ≤ status then none
  else if entry.isNavigation then none
  else if bodyMissing entry.postData then none
  else
    match world.parseUrl entry.url with
    | none => none
    | some url =>
      let (kind, topKeys) :=
        classifyBodyKind world (extractContentType world entry) entry.postData
      if kind = .other ∨ kind = .none then none
      else
        let kept := keptHeaders world entry
        some {
          method
          urlShape := url.host ++ url.pathname
          origin := url.protocol ++ ascii "//" ++ url.host
          endpointPath := url.pathname
          headerNames := world.sortByLocale (kept.map Prod.fst)
          headers := kept.foldl (fun headers header => OrderedMap.set headers header.1 header.2) []
          bodyKind := kind
          bodyTopKeys := topKeys
          rawBody := entry.postData.getD .null }

/-- The last request of a log that can be captured. -/
def selectCandidateCall (world : GraduationWorld) (log : List InterceptedRequest) :
    Option CapturedCallShape :=
  (log.filterMap (candidateOf world)).getLast?

/-- The last observations of a number, none where there are fewer. -/
def lastObservations {α : Type} (observations : List α) (threshold : Nat) : List α :=
  if observations.length < threshold then []
  else observations.drop (observations.length - threshold)

/-- Whether two calls have the same shape. -/
def sameShape (call base : CapturedCallShape) : Bool :=
  call.method == base.method && call.urlShape == base.urlShape && call.bodyKind == base.bodyKind
    && call.bodyTopKeys == base.bodyTopKeys

/-- The first of the last observations and the headers they all have, where their shapes agree. -/
def detectConsistency (world : GraduationWorld) (observations : List CapturedCallShape)
    (threshold : Nat) : Option (CapturedCallShape × List Units) :=
  match lastObservations observations threshold with
  | [] => none
  | base :: rest =>
    if rest.all fun call => sameShape call base then
      let intersection := rest.foldl
        (fun names call => names.filter fun name => call.headerNames.contains name)
        base.headerNames.dedup
      some (base, world.sortByLocale intersection)
    else none

/-- The fetch strategy that sends a captured call again. -/
def synthesizeHighestViable (base : CapturedCallShape) (requiredHeaderNames : List Units) :
    FetchStrategy :=
  let headers := requiredHeaderNames.filterMap fun name =>
    (OrderedMap.get? base.headers name).map fun value => (name, value)
  let body :=
    if base.bodyKind = .json then
      match parsedBody base.rawBody with
      | .object entries => some entries
      | _ => none
    else none
  { method := base.method, baseUrl := base.origin, endpoint := base.endpointPath,
    contentType := if base.bodyKind = .json then .json else .form, headers, body }

/-- A page script that sends one frame. -/
structure WsStrategy where
  baseUrl : Units
  wsUrl : Units
  frame : Units
  params : List (Units × Units)
  ackMatch : Option Units

/-- A strategy that graduation makes. -/
inductive SynthesizedStrategy where
  | fetch (strategy : FetchStrategy)
  | websocket (strategy : WsStrategy)

/-- The check of a made strategy before it is saved. -/
def preValidate (world : GraduationWorld) : SynthesizedStrategy → Bool
  | .fetch strategy => strategy.baseUrl != [] && strategy.endpoint != [] &&
    (world.newUrl strategy.baseUrl strategy.endpoint).isSome
  | .websocket strategy => strategy.baseUrl != [] && strategy.wsUrl != []

/-- What a run typed and which frames were captured in it. -/
structure GraduationWsContext where
  frames : List WebSocketFrame
  typedValues : List Units
  args : CallArgs

/-- Whether a string has another, as it is or decoded, in any case. -/
def substringMatchWithDecoding (world : GraduationWorld) (haystack lcNeedle : Units) : Bool :=
  let lowerRaw := world.toLowerCase haystack
  let plusAsSpace := lowerRaw.map fun unit => if unit = 43 then 32 else unit
  haystack != [] && (includes lowerRaw lcNeedle || includes plusAsSpace lcNeedle ||
    (world.decodeURIComponent plusAsSpace).any fun decoded => includes decoded lcNeedle)

/-- Whether a payload looks like text. -/
def isLikelyUtf8 (payload : Units) : Bool :=
  let front := payload.take 256
  let control := front.countP fun unit =>
    unit.toNat < 32 && unit != 9 && unit != 10 && unit != 13
  payload != [] && !payload.contains 0 && 10 * control < front.length

/-- The part of an answer that acknowledges a frame. -/
def ackToken (payload : Units) : Option Units :=
  -- The first run of at least six word units that starts with no digit, up to thirty-one of them.
  let matched := payload.tails.findSome? fun back =>
    let word := (back.takeWhile isWordUnit).take 31
    if word.length < 6 ∨ word.head?.any fun first => 48 ≤ first.toNat && first.toNat ≤ 57
    then none else some word
  match matched with
  | some word => some word
  | none =>
    let clipped := payload.take 40
    if 6 ≤ clipped.length then some clipped else none

/-- The acknowledgement of a sent frame. -/
def findAckSubstring (frames : List WebSocketFrame) (frame : WebSocketFrame) : Option Units :=
  (frames.filter fun answer =>
    !answer.sent && frame.timestamp ≤ answer.timestamp &&
      answer.timestamp ≤ frame.timestamp + 1000 && isLikelyUtf8 answer.payload).findSome?
        fun answer => ackToken answer.payload

/-- The sent frame that echoes a typed value last, with the value. -/
def lastEcho (world : GraduationWorld) (frames : List WebSocketFrame) (needles : List Units) :
    Option (WebSocketFrame × Units) :=
  frames.foldl (fun found frame =>
    if frame.sent && isLikelyUtf8 frame.payload then
      match (needles.filter fun needle =>
          substringMatchWithDecoding world frame.payload (world.toLowerCase needle)).getLast? with
      | some needle => some (frame, needle)
      | none => found
    else found) none

/-- Whether an argument's value is replaced by its name. -/
def replaceable (name : Units) : JsValue → Option Units
  | .string value => if (trim value).length < 3 ∨ [95] <+: name then none else some value
  | _ => none

/-- A payload with the values of arguments replaced by their names, and the replaced ones. -/
def rewriteArgs (args : CallArgs) (payload : Units) : Units × List (Units × Units) :=
  args.foldl (fun state arg =>
    match replaceable arg.1 arg.2 with
    | none => state
    | some value =>
      if !includes state.1 value then state
      else ((literalPattern value (token arg.1)).replaceAll state.1, state.2 ++ [(arg.1, value)]))
    (payload, [])

/-- The frame of a run that sent what the run typed, once. -/
def echoedFrame (world : GraduationWorld) (ctx : GraduationWsContext) : Option WebSocketFrame :=
  let needles := (ctx.typedValues.map trim).filter fun value => 3 ≤ value.length
  match lastEcho world ctx.frames needles with
  | none => none
  | some (candidate, matchedNeedle) =>
    let matchCount := ctx.frames.countP fun frame =>
      frame.sent && substringMatchWithDecoding world frame.payload (world.toLowerCase matchedNeedle)
    if 1 < matchCount then none else some candidate

/-- The shape of the frame that a run sent what it typed in. -/
def detectWsEchoShape (world : GraduationWorld) (ctx : GraduationWsContext) :
    Option WsObservedShape :=
  (echoedFrame world ctx).map fun candidate =>
    let (template, substitutedArgs) := rewriteArgs ctx.args candidate.payload
    { wsUrl := candidate.url.takeWhile (· != 63), frameTemplate := template, substitutedArgs,
      ackSubstring := findAckSubstring ctx.frames candidate }

/-- The first of the last shapes, where their URLs and templates agree. -/
def detectWsConsistency (observations : List WsObservedShape) (threshold : Nat) :
    Option WsObservedShape :=
  match lastObservations observations threshold with
  | [] => none
  | base :: rest =>
    if rest.all fun shape =>
        shape.wsUrl == base.wsUrl && shape.frameTemplate == base.frameTemplate
    then some base else none

/-- A URL without what stands from its last slash on. -/
def withoutLastSegment (url : Units) : Units :=
  if 47 ∈ url then (url.reverse.dropWhile (· != 47)).reverse.dropLast else url

/-- The HTTP URL that stands for the directory of a web socket's. -/
def httpBase (wsUrl : Units) : Units :=
  withoutLastSegment
    (if ascii "ws:" <+: wsUrl then ascii "http:" ++ wsUrl.drop 3
    else if ascii "wss:" <+: wsUrl then ascii "https:" ++ wsUrl.drop 4
    else wsUrl)

/-- The page script that sends an observed frame again. -/
def synthesizeWsStrategy (shape : WsObservedShape) : WsStrategy :=
  let baseUrl := httpBase shape.wsUrl
  { baseUrl := if baseUrl = [] then ascii "https://example.invalid" else baseUrl
    wsUrl := shape.wsUrl
    frame := shape.frameTemplate
    params := shape.substitutedArgs.foldl
      (fun params arg => OrderedMap.set params arg.1 arg.2) []
    ackMatch := shape.ackSubstring }

/-- A run of a recorded path, with what the machine does while it is recorded. -/
structure RecordedRun where
  log : List InterceptedRequest
  wsContext : Option GraduationWsContext
  /-- Whether the lock of the capability is free. -/
  lockFree : Bool
  /-- Whether the stored state can be read. -/
  readable : Bool
  /-- The highest tier that is saved besides the recorded path, none where loading fails. -/
  saved : Option (Option GraduatedTier)
  observationThreshold : Nat
  /-- Whether each write of the state succeeds. -/
  writesObservation : Bool
  writesWsObservation : Bool
  writesTier : Bool
  /-- Whether the save policy accepts a strategy and it is written. -/
  accepts : SynthesizedStrategy → Bool

/-- The stored state and the strategy that was persisted. -/
structure RecordedOutcome where
  state : GraduationState
  persisted : Option SynthesizedStrategy

/-- The last observations that are kept. -/
def pushObservation {α : Type} (observations : List α) (observation : α) : List α :=
  let pushed := observations ++ [observation]
  pushed.drop (pushed.length - MAX_OBSERVATIONS)

/-- The state with the graduated tier, where it is written. -/
def withTier (run : RecordedRun) (stored state : GraduationState) (tier : GraduatedTier) :
    GraduationState :=
  if run.writesTier then { state with graduatedTier := some tier } else stored

/-- Record the frame that a run sent, and persist a page script where the frames agree. -/
def recordWsEcho (world : GraduationWorld) (run : RecordedRun) (stored state : GraduationState) :
    RecordedOutcome :=
  match run.wsContext.bind (detectWsEchoShape world) with
  | none => { state := stored, persisted := none }
  | some shape =>
    let observed :=
      { state with wsObservations := pushObservation state.wsObservations shape }
    let written := if run.writesWsObservation then observed else stored
    match detectWsConsistency observed.wsObservations run.observationThreshold with
    | none => { state := written, persisted := none }
    | some base =>
      let strategy := SynthesizedStrategy.websocket (synthesizeWsStrategy base)
      if preValidate world strategy && run.accepts strategy then
        { state := withTier run written observed .pageScript, persisted := some strategy }
      else { state := written, persisted := none }

/-- Record the call that a run sent, and persist a strategy where the calls agree. -/
def recordObserved (world : GraduationWorld) (run : RecordedRun) (stored state : GraduationState) :
    RecordedOutcome :=
  match selectCandidateCall world run.log with
  | none => recordWsEcho world run stored state
  | some call =>
    let observed := { state with observations := pushObservation state.observations call }
    let written := if run.writesObservation then observed else stored
    match detectConsistency world observed.observations run.observationThreshold with
    | none => recordWsEcho world run written observed
    | some (base, required) =>
      let strategy := SynthesizedStrategy.fetch (synthesizeHighestViable base required)
      if preValidate world strategy && run.accepts strategy then
        { state := withTier run written observed .fetch, persisted := some strategy }
      else recordWsEcho world run written observed

/-- Record a successful run: observe it, and persist a strategy where the last runs agree. -/
def recordRecordedPathSuccess (world : GraduationWorld) (stored : GraduationState)
    (run : RecordedRun) : RecordedOutcome :=
  if !run.lockFree then { state := stored, persisted := none }
  else
    let state := if run.readable then stored else .empty
    if state.graduatedTier.isSome then { state := stored, persisted := none }
    else
      match run.saved with
      | none => { state := stored, persisted := none }
      | some (some tier) => { state := withTier run stored state tier, persisted := none }
      | some none => recordObserved world run stored state

/-- The stored state after a sequence of runs. -/
def storedAfter (world : GraduationWorld) (runs : List RecordedRun) : GraduationState :=
  runs.foldl (fun stored run => (recordRecordedPathSuccess world stored run).state) .empty

/-- The frame that a page script sends for the arguments. -/
def resolveWsFrame (world : ResolveWorld) (strategy : WsStrategy) (args : CallArgs) :
    Except ResolveError Units := do
  let text ← interpolateVars world strategy.frame args .raw
  let frame ← resolveSecrets world text
  assertNoUnresolvedPlaceholders world frame (ascii "WebSocket frame")
  .ok frame

end Klura
