import Klura.Execution.FetchPrograms

/-! The strategies over a web socket, and the recorded path. -/

namespace Klura

open StrictJson

variable (code : LocalCodeV1) (execute : SubCallV1 → LocalProgram LocalResultV1)

/-- A result that reports an error of a frame that was not sent. -/
def frameError (error : String) : LocalResultV1 := plainResult 0 (errorBody error [])

/-- A result of a frame whose delivery is not confirmed. -/
def frameUnconfirmed (error : Units) : LocalResultV1 :=
  stateResult .sentUnconfirmed [(ascii "error", .string error)]

/-- A result of a frame that was sent, with its answer where one was awaited. -/
def frameSent (ack : Option Units) : LocalResultV1 :=
  plainResult 200 (.object ([(ascii "ok", .boolean true), (ascii "sent", .boolean true)] ++
    (ack.map fun payload =>
      (ascii "ack", JsValue.object [(ascii "payload", .string (payload.take 2048))])).toList))

/-- Brings the page to where its web socket opens, or the result that reports why not. -/
def navigateForSocket (strategy : LocalStrategyV1) (socket : WebSocketPartV1)
    (session : SessionV1) (args : CallArgs) : LocalProgram (Option LocalResultV1) := do
  if socket.wsOpen = .none ∨ session.borrowed = true then return none
  else if socket.origin = [] then return some (frameError "ws_navigate_failed")
  else
    let url ← resolves (code.wsOrigin strategy args)
    tryCatch
      (do
        attempts (.navigate session url)
        return none)
      (fun _ => return some (frameError "ws_navigate_failed"))

/-- Waits for the page's web socket, with the steps that open it where the strategy has some. -/
def openSocket (socket : WebSocketPartV1) (session : SessionV1) (url : Units) (args : CallArgs) :
    LocalProgram (Option LocalResultV1) := do
  let opened ← performs (.waitForWsOpen session url)
  if opened then return none
  else if socket.wsOpen = .steps then
    let failed ← tryCatch
      (do
        attempts (.runWsOpenSteps session args)
        return none)
      (fun error =>
        match error with
        | .state .. => throw error
        | _ => return some (frameError "ws_open_steps_failed"))
    match failed with
    | some result => return some result
    | none =>
      let openedLater ← performs (.waitForWsOpen session url)
      return if openedLater then none else some (frameError "ws_not_open")
  else return some (frameError "ws_not_open")

/-- Sends a frame over the page's web socket and awaits its answer, where one is expected. -/
def sendFrameInSession (socket : WebSocketPartV1) (session : SessionV1) (role : RequestRoleV1)
    (url frame : Units) : LocalProgram LocalResultV1 := do
  match ← attempts (.sendWebSocketFrame role session url frame socket.ackMatch) with
  | some _ => return frameUnconfirmed (ascii "ws_send_unconfirmed")
  | none =>
    match socket.ackMatch with
    | none => return frameSent none
    | some ackMatch =>
      match ← attempts (.waitForAck session ackMatch) with
      | none => return frameUnconfirmed (ascii "ack_timeout")
      | some payload => return frameSent (some payload)

/-- The frame of a strategy, which its page may have to compute. -/
def frameOf (strategy : LocalStrategyV1) (socket : WebSocketPartV1) (session : SessionV1)
    (args : CallArgs) : LocalProgram (NeededGenerators ⊕ Units) := do
  if socket.frameFromPage then
    let frame ← attempts (.evaluateFrame session strategy args)
    return .inr frame
  else resolves (code.resolveWsFrame strategy args)

/-- What a strategy over a web socket does in its session. -/
def runSocketInSession (strategy : LocalStrategyV1) (socket : WebSocketPartV1)
    (call : StrategyCallV1) (session : SessionV1) : LocalProgram LocalResultV1 := do
  let resolve : CapabilityResolver := fun prereq tokens =>
    resolveCapabilityPrereq code execute prereq call.platform call.args tokens call.depth none false
  let (scanned, browserPrereqs) ← scanCachedPrereqs call.hasTokenCache call.platform resolve
    strategy.prerequisites []
  let tokens ← runBrowserPrereqs call.hasTokenCache session call.platform call.args none
    browserPrereqs scanned
  let args := spread tokens call.args
  match ← navigateForSocket code strategy socket session args with
  | some result => return result
  | none =>
    let url ← resolves (code.wsUrl strategy args)
    match ← openSocket socket session url args with
    | some result => return result
    | none =>
      match ← frameOf code strategy socket session args with
      | .inl needed => return needsGeneration call.platform call.capability needed
      | .inr frame => sendFrameInSession socket session call.role url frame

/-- Executes a strategy over a web socket in a page. -/
def executeWebSocketBrowser (strategy : LocalStrategyV1) (socket : WebSocketPartV1)
    (call : StrategyCallV1) : LocalProgram LocalResultV1 := do
  let storageState ← performs (.loadStorageStatePath call.platform call.identity)
  let ready ← Interaction.orElse (socket.wsOpen ≠ .none ∧ socket.origin ≠ [])
    (resolves (code.readyPage strategy call.args)) none
  let session ← openSession call.platform call.identity
    (ready.map fun urls => (urls.1, some urls.2)) storageState
  tryFinally (runSocketInSession code execute strategy socket call session)
    (attempts (.endDrive session))

/-- Whether a frame that was not sent failed by its transport. -/
def isWebSocketTransportFailure (failure : Units) : Bool :=
  decide (failure ∈ [ascii "construct_failed", ascii "open_timeout", ascii "connection_error",
    ascii "closed_before_ack", ascii "request_timeout"])

/-- Executes a strategy over a web socket from Node; its prerequisites are fetched without an
account. -/
def executeWebSocketNode (strategy : LocalStrategyV1) (socket : WebSocketPartV1)
    (call : StrategyCallV1) : LocalProgram LocalResultV1 := do
  let resolve : CapabilityResolver := fun prereq tokens =>
    resolveCapabilityPrereq code execute prereq call.platform call.args tokens call.depth
      call.identity false
  let tokens ← resolveNodeCompatiblePrereqs code call.hasTokenCache resolve call.args
    call.platform call.capability none strategy.prerequisites []
  let args := spread tokens call.args
  if socket.frameFromPage then throw (.other (ascii "frameFromPage requires a live browser session"))
  else
    match ← resolves (code.resolveWsFrame strategy args) with
    | .inl needed => return needsGeneration call.platform call.capability needed
    | .inr frame =>
      let url ← resolves (code.wsUrl strategy args)
      let headers ← resolves (code.resolveHeaders strategy args)
      attempts (.acquirePermit url (workloadId call.platform call.capability))
      match ← performs (.sendNodeWebSocketFrame call.role url headers frame socket.ackMatch) with
      | .sent ack =>
        attempts (.releasePermit .success)
        return frameSent ack
      | .failed failure sent error =>
        attempts (.releasePermit
          (if isWebSocketTransportFailure failure then .transientFailure else .neutral))
        if sent then return frameUnconfirmed failure
        else if isWebSocketTransportFailure failure then
          throw (.transportFailure (ascii "ws_handshake_failed"))
        else
          return plainResult 0 (errorBody "ws_send_failed" [(ascii "detail", .string error)])

/-- Records a failure of Node's transport, and demotes the strategy after enough of them. -/
def recordNodeTransportFailures (platform capability : Units) (protocol : WireProtocolV1)
    (signal : Units) : LocalProgram Unit := do
  let count ← performs (.recordNodeTransportFailure platform capability protocol signal)
  Interaction.whenever (NODE_TRANSPORT_FAIL_THRESHOLD ≤ count)
    (tryCatch (attempts (.demoteFetchToPageScript platform capability)) fun _ => pure ())

/-- Executes a strategy over a web socket, none where it needs a pool that is missing. -/
def dispatchWebSocket (strategy : LocalStrategyV1) (socket : WebSocketPartV1)
    (call : StrategyCallV1) (hasPool suppressStrategyState : Bool) :
    LocalProgram (Option LocalResultV1) := do
  if strategy.tier = .fetch then
    let attempt : LocalProgram (LocalResultV1 ⊕ Units) := tryCatch
      (do
        let result ← executeWebSocketNode code execute strategy socket call
        return .inl result)
      (fun error =>
        match error with
        | .transportFailure signal => return .inr signal
        | _ => throw error)
    match ← attempt with
    | .inl result => return some result
    | .inr signal =>
      if hasPool then
        Interaction.whenever (suppressStrategyState = false)
          (recordNodeTransportFailures call.platform call.capability .websocket signal)
        let result ← executeWebSocketBrowser code execute strategy socket call
        return some result
      else return none
  else if hasPool then
    let result ← executeWebSocketBrowser code execute strategy socket call
    return some result
  else return none

/-- Resolves the prerequisites of a recorded path, in a session of their own where they need a
page; the depth of the execution is not passed on. -/
def runPrerequisites (strategy : LocalStrategyV1) (call : StrategyCallV1) :
    LocalProgram (OrderedMap Units JsValue) := do
  let resolve : CapabilityResolver := fun prereq tokens =>
    resolveCapabilityPrereq code execute prereq call.platform call.args tokens 0 none false
  let (tokens, browserPrereqs) ← scanCachedPrereqs call.hasTokenCache call.platform resolve
    strategy.prerequisites []
  if browserPrereqs.isEmpty then return tokens
  else
    let storageState ← performs (.loadStorageStatePath call.platform call.identity)
    let session ← openSession call.platform call.identity (readyOf strategy) storageState
    tryFinally
      (runBrowserPrereqs call.hasTokenCache session call.platform call.args none browserPrereqs
        tokens)
      (attempts (.endDrive session))

/-- Executes a recorded path: its steps run in a session without a ready page. -/
def executeRecordedPath (strategy : LocalStrategyV1) (call : StrategyCallV1) :
    LocalProgram LocalResultV1 := do
  let tokens ← runPrerequisites code execute strategy call
  let storageState ← performs (.loadStorageStatePath call.platform call.identity)
  let session ← openSession call.platform call.identity none storageState
  attempts (.executeSteps call.role session strategy (spread call.args tokens))

/-- Runs the steps of a partial replay, one after another. -/
def replaySteps (session : SessionV1) (role : RequestRoleV1) (args : CallArgs) :
    List (Option Units) → LocalProgram Unit
  | [] => pure ()
  | step :: rest => do
    attempts (.replayStep role session step args)
    replaySteps session role args rest

/-- Replays a recorded path up to a step, in a session that is left open when it succeeds. -/
def replayRecordedPathToAnchor (recorded : LocalStrategyV1) (anchor : Units)
    (call : StrategyCallV1) : LocalProgram (Option SessionV1) := do
  match recorded.stepIds.idxOf? (some anchor) with
  | none => return none
  | some index =>
    let storageState ← performs (.loadStorageStatePath call.platform call.identity)
    let session ← openSession call.platform call.identity none storageState
    tryCatch
      (do
        replaySteps session call.role call.args (recorded.stepIds.take (index + 1))
        tryCatch (attempts (.driverSaveStorageState session call.platform call.identity))
          (fun _ => pure ())
        return some session)
      (fun _ => do
        performs (.endDriveQuietly session)
        return none)

end Klura
